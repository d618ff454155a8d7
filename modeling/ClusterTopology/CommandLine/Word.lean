/-!
The words of a command line. A word by itself is a long option, which starts
with two hyphens and may have a value attached after an equals sign; a short
option, which is a letter after one hyphen with the rest of the word attached to
it; the mark after which no word is an option; or plain. A hyphen by itself is
plain.
-/

namespace ClusterTopology.CommandLine

/-- What a value on the command line is for. -/
inductive Slot where
  | input
  | output
  | vnodeSeed
  | nodeSeed
  | numbering
  | layout
  | settingsFile
  | property
  | verbosity
  deriving DecidableEq, Repr

namespace Slot

/-- The slots that plain words fill, in order. -/
def positional : List Slot := [input, output]

/-- Only properties may be given more than once. -/
def isRepeatable (slot : Slot) : Bool := slot == property

/-- Values that are paths are never empty. -/
def isPath : Slot → Bool
  | input | output | settingsFile => true
  | _ => false

/-- Whether the slot can take a value at all. -/
def accepts (slot : Slot) (value : String) : Bool := !(slot.isPath && value.isEmpty)

end Slot

/-- What an option is about. -/
inductive Subject where
  /-- A value is given. -/
  | value (slot : Slot)
  /-- A summary is wanted. -/
  | summary
  /-- An explanation is wanted and no run. It is in full for the long option. -/
  | help (full : Bool)
  /-- The version is wanted and no run. -/
  | version
  deriving DecidableEq, Repr

namespace Subject

/-- The subject of a long option. Names are never abbreviated. -/
def ofName? : String → Option Subject
  | "vnode-ip" => some (value .vnodeSeed)
  | "node-ip" => some (value .nodeSeed)
  | "id-numbering" => some (value .numbering)
  | "layout" => some (value .layout)
  | "config-file" => some (value .settingsFile)
  | "verbosity" => some (value .verbosity)
  | "summary" => some summary
  | "help" => some (help true)
  | "version" => some version
  | _ => none

/-- The subject of a short option. -/
def ofLetter? : Char → Option Subject
  | 'D' => some (value .property)
  | 'v' => some (value .verbosity)
  | 'h' => some (help false)
  | 'V' => some version
  | _ => none

end Subject

/-- A word by itself. -/
inductive Word where
  /-- No word after this one is an option. -/
  | endOfOptions
  | long (name : String) (attached? : Option String)
  | short (letter : Char) (attached : List Char)
  | plain
  deriving DecidableEq, Repr

/-- Tell what a word is. The name of a long option ends at the first equals
sign. -/
def Word.ofText (text : String) : Word :=
  match text.toList with
  | ['-', '-'] => .endOfOptions
  | '-' :: '-' :: rest =>
    let name := rest.takeWhile (· != '=')
    match rest.dropWhile (· != '=') with
    | [] => .long (String.ofList name) none
    | _ :: attached => .long (String.ofList name) (some (String.ofList attached))
  | '-' :: letter :: rest => .short letter rest
  | _ => .plain

/-- The value attached to a short option: the rest of the word, without an equals
sign that it starts with. -/
def attachedValue? : List Char → Option String
  | [] => none
  | '=' :: rest => some (String.ofList rest)
  | rest => some (String.ofList rest)

end ClusterTopology.CommandLine
