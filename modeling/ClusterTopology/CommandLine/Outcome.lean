import ClusterTopology.CommandLine.Environment
import ClusterTopology.Expansion.Basic
import ClusterTopology.TemplateFile.Load

/-!
How a run can end. A run that comes to its end has written the topology; its
outcome counts what was produced and what was dropped on the way. A run that fails
has written nothing. The exit code tells these ends apart.
-/

namespace ClusterTopology.CommandLine

/-- What came of a run that has written its topology. -/
structure Outcome where
  instances : Nat
  /-- How many templates gave no instances. -/
  skippedTemplates : Nat
  /-- How many lines of the input were dropped. -/
  rejectedLines : Nat
  deriving DecidableEq, Repr

namespace Outcome

/-- What came of loading templates and expanding them. -/
def of (report : TemplateFile.LoadReport) (expansion : Expansion) : Outcome where
  instances := expansion.topology.size
  skippedTemplates := expansion.skipped.length
  rejectedLines := report.rejected.length

/-- Nothing was dropped. -/
def isClean (outcome : Outcome) : Bool :=
  outcome.skippedTemplates == 0 && outcome.rejectedLines == 0

/-- Anything dropped shows in the exit code. -/
def exitCode (outcome : Outcome) : Nat := if outcome.isClean then 0 else 3

/-- The notice that something was dropped. -/
def notices (outcome : Outcome) : List Notice :=
  if outcome.isClean then []
  else [.incomplete outcome.skippedTemplates outcome.rejectedLines]

end Outcome

/-- What a run was about when the file system refused. -/
inductive Errand where
  | reading (path : String)
  | writing (path : String)
  deriving DecidableEq, Repr

/-- The wording of an errand that failed. -/
def Errand.message : Errand → String
  | reading path => s!"Failed to read templates from {path}"
  | writing path => s!"Failed to write topology to {path}"

/-- Why a run has written nothing. -/
structure Failure where
  errand? : Option Errand := none
  cause : Error
  deriving DecidableEq, Repr

namespace Failure

/-- A run cannot read or write a file. -/
def ofFault (errand : Errand) (fault : FileFault) : Failure where
  errand? := some errand
  cause := .fileAccess fault.message

/-- The cause by itself, for those causes that pass on the words of another. -/
def origin? : Error → Option String
  | .fileAccess reason => some reason
  | .unfitDocument report => some report
  | _ => none

/-- The wording of a failure, from what was attempted to where it comes from. -/
def message (failure : Failure) : String :=
  ": ".intercalate ((failure.errand?.map Errand.message).toList ++
    failure.cause.message :: (origin? failure.cause).toList)

/-- Running out of addresses has an exit code of its own. -/
def exitCode (failure : Failure) : Nat := if failure.cause.isFatal then 4 else 1

end Failure

end ClusterTopology.CommandLine
