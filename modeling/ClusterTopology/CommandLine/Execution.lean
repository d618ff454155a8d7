import ClusterTopology.CommandLine.Outcome
import ClusterTopology.CommandLine.Resolution
import ClusterTopology.Summary.Basic
import ClusterTopology.TopologyFile

/-!
A whole run: resolve the settings, read the templates, expand them, write the
topology. The topology is written last and only if all before went well. Everything
but reading and writing is a function of the texts read.
-/

namespace ClusterTopology.CommandLine

/-- What becomes of the text of a template file under given settings. -/
structure Generation where
  load : TemplateFile.Load
  run : Run

namespace Generation

/-- Load the templates in a text and expand them. -/
def of (settings : Settings) (text : String) : Generation :=
  let load := TemplateFile.load .empty text
  { load, run := load.store.expand (.ofSettings settings) }

/-- The notices of a generation from the file at a path. -/
def notices (generation : Generation) (path : String) : List Notice :=
  let report := generation.load.report
  generation.load.notices ++ [.recordsLoaded report.records path report.rejected.length] ++
    (if generation.load.store.isEmpty then [.nothingLoaded path] else []) ++
    generation.run.notices

/-- The summary of a generation that gave this expansion. -/
def summary (generation : Generation) (expansion : Expansion) (display : Summary.Display) :
    String :=
  let rows := Summary.rows generation.load.store expansion.topology expansion.skipped
  Summary.render display rows expansion.skipped generation.load.report.rejected.length

end Generation

/-- How a run went. -/
structure Conclusion where
  /-- The settings, once they are resolved. -/
  settings : Except Error Settings
  result : Except Failure Outcome
  notices : List Notice
  /-- What goes to standard output. -/
  printed : String := ""

namespace Conclusion

/-- The exit code of a run. -/
def exitCode (conclusion : Conclusion) : Nat :=
  match conclusion.result with
  | .ok outcome => outcome.exitCode
  | .error failure => failure.exitCode

end Conclusion

section Execute

variable {m : Type → Type} [Monad m] (environment : Environment m) (arguments : Arguments)

/-- Write the topology of a generation and conclude the run. -/
def conclude (settings : Settings) (generation : Generation) (notices : List Notice) :
    m Conclusion := do
  let notices := notices ++ generation.notices arguments.input
  match generation.run.result with
  | .error cause =>
    return { settings := .ok settings, result := .error { cause }, notices }
  | .ok expansion =>
    match ← environment.write arguments.output (expansion.topology.render settings.layout) with
    | .error fault =>
      return {
        settings := .ok settings
        result := .error (.ofFault (.writing arguments.output) fault)
        notices }
    | .ok () =>
      let outcome := Outcome.of generation.load.report expansion
      return {
        settings := .ok settings
        result := .ok outcome
        notices := notices ++
          .topologyWritten outcome.instances arguments.output settings.layout :: outcome.notices
        printed :=
          if arguments.summary then
            generation.summary expansion environment.display ++ "\n"
          else "" }

/-- Read the file of settings, if there is one. -/
def readSettings : m (Option SettingsFile) :=
  match arguments.settingsFile? with
  | none => return none
  | some path => return some { path, contents := ← environment.read path }

/-- Carry out a run. -/
def execute : m Conclusion := do
  let resolution := resolve arguments (← readSettings environment arguments)
  match resolution.result with
  | .error cause =>
    return {
      settings := .error cause
      result := .error { cause }
      notices := resolution.notices }
  | .ok settings =>
    let notices := resolution.notices ++ [.settingsInForce settings]
    match ← environment.read arguments.input with
    | .error fault =>
      return {
        settings := .ok settings
        result := .error (.ofFault (.reading arguments.input) fault)
        notices }
    | .ok text => conclude environment arguments settings (.of settings text) notices

end Execute

end ClusterTopology.CommandLine
