import ClusterTopology.CommandLine.Directory
import ClusterTopology.CommandLine.Response

/-!
The course of a run in a directory.

A run can end in five ways, one for each point at which it can be cut short and one for its
end, and each fixes what the run concludes and which directory it leaves: `execute_course`.
Only a run that comes to its end touches a file, and that is the one it writes.
-/

namespace ClusterTopology.CommandLine

namespace Directory

/-- The file that a path leads to holds this text, as UTF-8. -/
def Holds (directory : Directory) (path text : String) : Prop :=
  ∃ location, directory.locate path = .ok location ∧
    directory.contents? location = some text.toUTF8

theorem fromUTF8?_eq_some_iff {bytes : ByteArray} {text : String} :
    String.fromUTF8? bytes = some text ↔ bytes = text.toUTF8 := by
  unfold String.fromUTF8?
  constructor
  · intro decoded
    split at decoded
    · obtain rfl := Option.some.inj decoded
      rfl
    · cases decoded
  · rintro rfl
    rw [String.toUTF8_eq_toByteArray, dif_pos text.isValidUTF8]
    rfl

/-- What can be read is what a file holds. -/
theorem read_eq_ok_iff {directory : Directory} {path text : String} :
    directory.read path = .ok text ↔ directory.Holds path text := by
  unfold read Holds
  cases directory.locate path with
  | error fault => simp [bind, Except.bind]
  | ok location =>
      cases found : directory.contents? location with
      | none => simp [bind, Except.bind, found]
      | some bytes =>
          have decodes : String.fromUTF8? bytes = some text ↔ bytes = text.toByteArray :=
            fromUTF8?_eq_some_iff
          cases decoded : String.fromUTF8? bytes <;>
            simp [bind, Except.bind, found, decoded, ← decodes]

/-- What reading the file of settings gives, if one is named. -/
def settingsFile? (directory : Directory) (arguments : Arguments) : Option SettingsFile :=
  arguments.settingsFile?.map fun path => ⟨path, directory.read path⟩

end Directory

/-- What a run needs before it can expand anything: its settings and the text of its
input. -/
structure Prepared (directory : Directory) (arguments : Arguments) (settings : Settings)
    (text : String) : Prop where
  resolved : (resolve arguments (directory.settingsFile? arguments)).result = .ok settings
  readable : directory.Holds arguments.input text

/-- The ways in which a run can end: what it concludes and the directory that it leaves. -/
inductive Course (directory : Directory) (arguments : Arguments) :
    Except Failure Outcome → Directory → Prop where
  /-- The settings do not resolve. -/
  | unresolved {cause : Error} :
      (resolve arguments (directory.settingsFile? arguments)).result = .error cause →
      Course directory arguments (.error { cause }) directory
  /-- The input cannot be read. -/
  | unread {settings : Settings} {fault : FileFault} :
      (resolve arguments (directory.settingsFile? arguments)).result = .ok settings →
      directory.read arguments.input = .error fault →
      Course directory arguments (.error (.ofFault (.reading arguments.input) fault)) directory
  /-- The expansion fails. -/
  | failed {settings : Settings} {text : String} {cause : Error} :
      Prepared directory arguments settings text →
      (Generation.of settings text).run.result = .error cause →
      Course directory arguments (.error { cause }) directory
  /-- The output cannot be written. -/
  | unwritten {settings : Settings} {text : String} {expansion : Expansion}
      {fault : FileFault} :
      Prepared directory arguments settings text →
      (Generation.of settings text).run.result = .ok expansion →
      directory.locateToWrite arguments.output = .error fault →
      Course directory arguments (.error (.ofFault (.writing arguments.output) fault)) directory
  /-- The output is written. -/
  | written {settings : Settings} {text : String} {expansion : Expansion}
      {location : Location} :
      Prepared directory arguments settings text →
      (Generation.of settings text).run.result = .ok expansion →
      directory.locateToWrite arguments.output = .ok location →
      Course directory arguments
        (.ok (.of (Generation.of settings text).load.report expansion))
        (directory.put location (expansion.topology.render settings.layout).toUTF8)

section Runs

variable (directory : Directory) (arguments : Arguments)

variable {directory} in
/-- What comes after a step goes on from the value and the directory of that step. -/
theorem run_bind {α β : Type} {first : StateM Directory α} {value : α} {after : Directory}
    (ran : first.run directory = (value, after)) (rest : α → StateM Directory β) :
    (first >>= rest).run directory = (rest value).run after := by
  rw [StateT.run_bind, ran]
  rfl

theorem Directory.run_read (path : String) :
    (Directory.environment.read path).run directory = (directory.read path, directory) :=
  rfl

theorem Directory.run_write (path text : String) :
    (Directory.environment.write path text).run directory =
      match directory.locateToWrite path with
      | .ok location => (.ok (), directory.put location text.toUTF8)
      | .error fault => (.error fault, directory) := by
  simp only [StateT.run, environment, write]
  cases directory.locateToWrite path <;> rfl

theorem run_readSettings :
    (readSettings Directory.environment arguments).run directory =
      (directory.settingsFile? arguments, directory) := by
  unfold readSettings Directory.settingsFile?
  cases arguments.settingsFile? <;> rfl

/-- A run that has read its input ends in one of the last three ways. -/
theorem conclude_course {settings : Settings} {text : String} (notices : List Notice)
    (prepared : Prepared directory arguments settings text) :
    let ended := (conclude Directory.environment arguments settings (.of settings text)
      notices).run directory
    Course directory arguments ended.1.result ended.2 := by
  unfold conclude
  dsimp only
  cases expanded : (Generation.of settings text).run.result with
  | error cause => exact .failed prepared expanded
  | ok expansion =>
      have wrote := directory.run_write arguments.output
        (expansion.topology.render settings.layout)
      cases located : directory.locateToWrite arguments.output with
      | error fault =>
          rw [located] at wrote
          dsimp only
          rw [run_bind wrote]
          exact .unwritten prepared expanded located
      | ok location =>
          rw [located] at wrote
          dsimp only
          rw [run_bind wrote]
          exact .written prepared expanded located

theorem execute_course :
    let ended := (execute Directory.environment arguments).run directory
    Course directory arguments ended.1.result ended.2 := by
  unfold execute
  dsimp only
  rw [run_bind (run_readSettings directory arguments)]
  cases resolved : (resolve arguments (directory.settingsFile? arguments)).result with
  | error cause => exact .unresolved resolved
  | ok settings =>
      dsimp only
      rw [run_bind (directory.run_read arguments.input)]
      cases read : directory.read arguments.input with
      | error fault => exact .unread resolved read
      | ok text =>
          exact conclude_course directory arguments _
            ⟨resolved, Directory.read_eq_ok_iff.mp read⟩

end Runs

end ClusterTopology.CommandLine
