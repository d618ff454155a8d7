import ClusterTopology.CommandLine.Execution
import ClusterTopology.CommandLine.Help

/-!
What comes of a command line: a run, or word on why there is none. It fixes the exit
code, what goes to standard output and what goes to the log.
-/

namespace ClusterTopology

/-- The levels that are logged at a verbosity. -/
def Level.loggedAt : (verbosity : String) → List Level
  | "off" => []
  | "error" => [.error]
  | "warn" => [.error, .warn]
  | _ => [.error, .warn, .info]

namespace CommandLine

/-- What comes of a command line. -/
inductive Response where
  /-- There was no run. -/
  | usage (reason : Usage)
  | run (arguments : Arguments) (conclusion : Conclusion)

namespace Response

/-- The exit code of the program. -/
def exitCode : Response → Nat
  | usage reason => reason.exitCode
  | run _ conclusion => conclusion.exitCode

/-- What goes to standard output. -/
def printed : Response → String
  | usage reason => reason.printed
  | run _ conclusion => conclusion.printed

/-- What goes to the log, line by line: the notices of a run and, last, why it
failed. -/
def log : Response → List String
  | usage reason => reason.complaint?.toList
  | run arguments conclusion =>
    let levels := Level.loggedAt (arguments.verbosity?.getD "info")
    let failures := match conclusion.result with
      | .ok _ => []
      | .error failure => [(Level.error, failure.message)]
    (conclusion.notices.map (fun notice => (notice.level, notice.message)) ++ failures).filterMap
      fun (level, message) =>
        if levels.contains level then some (level.name ++ " " ++ message) else none

end Response

/-- Carry out what words ask for. -/
def respond {m : Type → Type} [Monad m] (environment : Environment m) (words : List String) :
    m Response :=
  match Arguments.ofWords words with
  | .error reason => return .usage reason
  | .ok arguments => return .run arguments (← execute environment arguments)

end CommandLine

end ClusterTopology
