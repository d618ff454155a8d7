import ClusterTopology.CommandLine.Word

/-!
Reading a command line. Words are taken from left to right. A value that is given
in a word of its own, for an option or as a plain word, is only looked at when the
next argument begins or the words end, so a word that is no option at all is
reported before a bad value right in front of it. An option that waits for its
value takes the next word unless that word starts an option itself.
-/

namespace ClusterTopology.CommandLine

/-- What a run is asked to do. -/
structure Arguments where
  input : String
  output : String
  vnodeSeed? : Option String := none
  nodeSeed? : Option String := none
  numbering? : Option String := none
  layout? : Option String := none
  settingsFile? : Option String := none
  properties : List String := []
  summary : Bool := false
  verbosity? : Option String := none
  deriving DecidableEq, Repr

/-- Why words do not lead to a run. -/
inductive Usage where
  /-- An explanation is asked for, in brief or in full. -/
  | help (full : Bool)
  /-- The version is asked for. -/
  | version
  /-- The input or the output is not given. -/
  | missing
  /-- A word is no option and has no slot to fill. -/
  | unknown
  /-- A value is left out, or is an empty path. -/
  | badValue
  /-- A value is attached to an option that takes none. -/
  | needlessValue
  /-- What may be given once is given twice. -/
  | repeated
  deriving DecidableEq, Repr

namespace Usage

/-- Asking is no mistake. -/
def exitCode : Usage → Nat
  | help _ | version => 0
  | _ => 2

end Usage

/-- A slot about to be filled; an option may still wait for its value. -/
structure Pending where
  slot : Slot
  value? : Option String := none
  deriving DecidableEq, Repr

/-- How far the words have been read. -/
structure Reading where
  /-- The slots filled so far, in order. -/
  filled : List (Slot × String) := []
  summary : Bool := false
  pending? : Option Pending := none
  /-- The slots that plain words still have to fill. -/
  unfilled : List Slot := Slot.positional
  deriving DecidableEq, Repr

namespace Reading

/-- Fill a slot. -/
def fill (reading : Reading) (slot : Slot) (value : String) : Except Usage Reading :=
  if !slot.isRepeatable && (reading.filled.map Prod.fst).contains slot then .error .repeated
  else if slot.accepts value then .ok { reading with filled := reading.filled ++ [(slot, value)] }
  else .error .badValue

/-- Fill the slot that is about to be filled. -/
def settle (reading : Reading) : Except Usage Reading :=
  match reading.pending? with
  | none => .ok reading
  | some ⟨_, none⟩ => .error .badValue
  | some ⟨slot, some value⟩ => fill { reading with pending? := none } slot value

/-- Take an option that gives no value. -/
def raise (reading : Reading) (subject : Subject) : Except Usage Reading := do
  let reading ← reading.settle
  match subject with
  | .value slot => .ok { reading with pending? := some { slot } }
  | .summary => if reading.summary then .error .repeated else .ok { reading with summary := true }
  | .help full => .error (.help full)
  | .version => .error .version

/-- Take an option with an attached value. -/
def raiseWith (reading : Reading) (subject : Subject) (value : String) :
    Except Usage Reading :=
  match subject with
  | .value slot => do (← reading.settle).fill slot value
  | _ => .error .needlessValue

/-- Take a long option. -/
def takeLong (reading : Reading) (name : String) (attached? : Option String) :
    Except Usage Reading :=
  match Subject.ofName? name, attached? with
  | none, _ => .error .unknown
  | some subject, none => reading.raise subject
  | some subject, some value => reading.raiseWith subject value

/-- Take a short option. What is attached to one that takes no value would be
more short options, which are not looked at, as such an option ends the
reading. -/
def takeShort (reading : Reading) (letter : Char) (attached : List Char) :
    Except Usage Reading :=
  match Subject.ofLetter? letter, attachedValue? attached with
  | none, _ => .error .unknown
  | some (.value slot), some value => reading.raiseWith (.value slot) value
  | some subject, _ => reading.raise subject

/-- Take a word that fills the next positional slot. -/
def takePositional (reading : Reading) (text : String) : Except Usage Reading :=
  match reading.unfilled with
  | [] => .error .unknown
  | slot :: rest => do
    let reading ← reading.settle
    return { reading with pending? := some { slot, value? := some text }, unfilled := rest }

/-- Take a word that is no option: the value an option waits for, or else a
positional. -/
def takePlain (reading : Reading) (text : String) : Except Usage Reading :=
  match reading.pending? with
  | some ⟨slot, none⟩ => .ok { reading with pending? := some { slot, value? := some text } }
  | _ => reading.takePositional text

/-- Take words that may be options. -/
def takeAll (reading : Reading) : List String → Except Usage Reading
  | [] => .ok reading
  | text :: rest =>
    match Word.ofText text with
    | .endOfOptions => rest.foldlM takePositional reading
    | .long name attached? => do takeAll (← reading.takeLong name attached?) rest
    | .short letter attached => do takeAll (← reading.takeShort letter attached) rest
    | .plain => do takeAll (← reading.takePlain text) rest

/-- The value in a slot. -/
def value? (reading : Reading) (slot : Slot) : Option String := reading.filled.lookup slot

/-- The values in a slot, in the order in which they were given. -/
def values (reading : Reading) (slot : Slot) : List String :=
  (reading.filled.filter fun entry => entry.1 == slot).map Prod.snd

/-- The arguments once all words are read. -/
def finish (reading : Reading) : Except Usage Arguments :=
  match reading.value? .input, reading.value? .output with
  | some input, some output =>
    .ok {
      input
      output
      vnodeSeed? := reading.value? .vnodeSeed
      nodeSeed? := reading.value? .nodeSeed
      numbering? := reading.value? .numbering
      layout? := reading.value? .layout
      settingsFile? := reading.value? .settingsFile
      properties := reading.values .property
      summary := reading.summary
      verbosity? := reading.value? .verbosity }
  | _, _ => .error .missing

end Reading

/-- The arguments that words spell out. -/
def Arguments.ofWords (words : List String) : Except Usage Arguments := do
  (← (← Reading.takeAll {} words).settle).finish

end ClusterTopology.CommandLine
