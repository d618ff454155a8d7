import ClusterTopology.Summary.Display

/-!
What a run needs around it. It reads texts and writes texts by path and is told
when the operating system refuses; it runs in any monad that offers this much.
-/

namespace ClusterTopology.CommandLine

/-- Why a file cannot be read or written. -/
inductive FileFault where
  /-- The operating system refuses, with its own number and words. -/
  | refused (code : Nat) (words : String)
  /-- The contents are not UTF-8. -/
  | notText
  deriving DecidableEq, Repr

namespace FileFault

/-- Nothing is at the path. -/
def notFound : FileFault := refused 2 "No such file or directory"

/-- What the path leads through is a file. -/
def notFolder : FileFault := refused 20 "Not a directory"

/-- What the path leads to is a folder. -/
def isFolder : FileFault := refused 21 "Is a directory"

/-- The path or a name in it is too long. -/
def nameTooLong : FileFault := refused 36 "File name too long"

/-- The wording of a fault. -/
def message : FileFault → String
  | refused code words => s!"{words} (os error {code})"
  | notText => "stream did not contain valid UTF-8"

end FileFault

/-- The surroundings of a run in a monad. -/
structure Environment (m : Type → Type) where
  read : (path : String) → m (Except FileFault String)
  write : (path text : String) → m (Except FileFault Unit)
  /-- What standard output is shown on. -/
  display : Summary.Display := .plain false

end ClusterTopology.CommandLine
