import ClusterTopology.CommandLine.Arguments

/-!
What the program says when there is no run: its version, how it is called, or what
is wrong with the way it was called. Help is brief, with a line for each argument, or
full, with what is said about an argument below it. Of a mistake only the sort is
told: the argument it is about, and one that may have been meant, are left out.
-/

namespace ClusterTopology.CommandLine

/-- The name and version of the program. -/
def version : String := "topology-gen 0.1.0"

/-- One line on how the program is called. -/
def callLine : String := "Usage: topology-gen [OPTIONS] <INPUT> <OUTPUT>"

/-- What help says about an argument. -/
structure Topic where
  /-- How the argument is written. A long option leaves room for a short one. -/
  form : String
  about : String
  /-- What is said in full help only, paragraph by paragraph. -/
  more : List String := []
  /-- What stands for a value that is not given. -/
  default? : Option String := none

namespace Topic

/-- The default value as help shows it. -/
def defaultNote (topic : Topic) : List String :=
  topic.default?.toList.map fun value => s!"[default: {value}]"

/-- The line of brief help, where all that is said stands in one column. -/
def briefLine (width : Nat) (topic : Topic) : String :=
  let gap := String.ofList (List.replicate (width + 2 - topic.form.length) ' ')
  "  " ++ topic.form ++ gap ++ " ".intercalate (topic.about :: topic.defaultNote)

/-- The lines of full help. Blank lines between paragraphs are indented too. -/
def fullLines (topic : Topic) : List String :=
  let paragraphs := topic.about :: topic.more ++ topic.defaultNote
  ("  " ++ topic.form) :: (paragraphs.intersperse "").map ("          " ++ ·)

end Topic

/-- What the program does, briefly or in full. -/
def purpose : (full : Bool) → String
  | false => "Generate virtual cluster topology fixtures"
  | true =>
    "Expands container, pod, vnode and node templates into a flat list of " ++
      "uniquely identified instances with sequential IPv4 addresses"

/-- The plain words of a call. -/
def operands : List Topic := [
  { form := "<INPUT>", about := "Template file, one `<kind>, <json record>` per line" },
  { form := "<OUTPUT>", about := "Where the generated topology is written" }]

/-- The options of a call. -/
def options (full : Bool) : List Topic := [
  { form := "    --vnode-ip <IPV4>"
    about := "Seed of the vnode address allocator (never issued itself)" },
  { form := "    --node-ip <IPV4>"
    about := "Seed of the node address allocator (never issued itself)" },
  { form := "    --id-numbering <MODE>"
    about := "Identifier numbering: `shared` (one counter per kind) or `per-key`" },
  { form := "    --layout <LAYOUT>"
    about := "Output layout: `emission` or `grouped`" },
  { form := "    --config-file <PATH>"
    about := "Path to a TOML generator configuration file" },
  { form := "-D <KEY=VALUE>"
    about := "Dynamic configuration properties (-D key=value)"
    more := [
      "Keys: generator.vnode-ip, generator.node-ip, generator.id-numbering, generator.layout",
      "Example: -Dgenerator.node-ip=172.16.0.1 -Dgenerator.layout=grouped"] },
  { form := "    --summary"
    about := "Print a per-kind summary table after generation" },
  { form := "-v, --verbosity <VERBOSITY>"
    about := "Log level (RUST_LOG takes precedence)"
    default? := some "info" },
  { form := "-h, --help"
    about :=
      if full then "Print help (see a summary with '-h')"
      else "Print help (see more with '--help')" },
  { form := "-V, --version"
    about := "Print version" }]

/-- Topics under a title. -/
def chapter (full : Bool) (title : String) (topics : List Topic) : List String :=
  let width := (topics.map fun topic => topic.form.length).foldl max 0
  title :: if full then [""].intercalate (topics.map Topic.fullLines)
    else topics.map (Topic.briefLine width)

/-- An explanation of the arguments. -/
def explanation (full : Bool) : String :=
  "\n".intercalate ([purpose full, "", callLine, ""] ++ chapter full "Arguments:" operands ++
    [""] ++ chapter full "Options:" (options full))

namespace Usage

/-- What goes to standard output. -/
def printed : Usage → String
  | help full => explanation full ++ "\n"
  | version => CommandLine.version ++ "\n"
  | _ => ""

/-- What is wrong with the words, if anything is. -/
def mistake? : Usage → Option String
  | help _ | version => none
  | missing => some "one or more required arguments were not provided"
  | unknown => some "unexpected argument found"
  | badValue => some "one of the values isn't valid for an argument"
  | needlessValue => some "unexpected value for an argument found"
  | repeated =>
    some "an argument cannot be used with one or more of the other specified arguments"

/-- What is said about a mistake. -/
def complaint? (usage : Usage) : Option String :=
  usage.mistake?.map fun mistake =>
    s!"error: {mistake}\n\n{callLine}\n\nFor more information, try '--help'."

end Usage

end ClusterTopology.CommandLine
