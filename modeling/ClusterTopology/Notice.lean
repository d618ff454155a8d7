import ClusterTopology.Error
import ClusterTopology.Settings.Basic

/-!
Notices: what a run reports besides its result, each with its level and its one
wording.
-/

namespace ClusterTopology

/-- How serious a notice is. -/
inductive Level where
  | info
  | warn
  | error
  deriving DecidableEq, Repr

/-- The name of a level in a log. -/
def Level.name : Level → String
  | info => "INFO"
  | warn => "WARN"
  | error => "ERROR"

/-- The events worth a notice. -/
inductive Notice where
  /-- A template takes the place of an earlier one. -/
  | redefined (kind : Kind) (key : String)
  /-- The tag of a line names another kind than its record. -/
  | tagDisagrees (line : Nat) (tag : String) (kind : Kind)
  /-- A line is dropped. -/
  | lineRejected (error : Error)
  | recordsLoaded (records : Nat) (path : String) (rejected : Nat)
  | nothingLoaded (path : String)
  /-- A service template is left alone. -/
  | serviceIgnored (key : String)
  /-- A reason for skipping a node. -/
  | nodeFault (error : Error)
  | nodeSkipped (key : String) (faults : Nat)
  | expanded (containers pods vnodes nodes : Nat)
  | settingsLoaded (path : String)
  | propertyIgnored (key : String)
  | settingsInForce (settings : Settings)
  | topologyWritten (instances : Nat) (path : String) (layout : Layout)
  /-- Something was dropped on the way. -/
  | incomplete (templates lines : Nat)
  deriving DecidableEq, Repr

namespace Notice

/-- The level of a notice. -/
def level : Notice → Level
  | recordsLoaded .. | expanded .. | settingsLoaded .. | settingsInForce ..
  | topologyWritten .. => .info
  | nodeFault .. => .error
  | redefined .. | tagDisagrees .. | lineRejected .. | nothingLoaded .. | serviceIgnored ..
  | nodeSkipped .. | propertyIgnored .. | incomplete .. => .warn

/-- The wording of a notice. -/
def message : Notice → String
  | redefined kind key =>
    s!"{kind.name} '{key}' defined more than once, keeping the last definition"
  | tagDisagrees line tag kind =>
    s!"line {line}: tag '{tag}' disagrees with record kind '{kind.name}', using '{kind.name}'"
  | lineRejected error => error.message
  | recordsLoaded records path rejected =>
    s!"Loaded {records} template records from {path} ({rejected} rejected)"
  | nothingLoaded path => s!"No templates found in {path}"
  | serviceIgnored key => s!"service '{key}' is not expanded"
  | nodeFault error => error.message
  | nodeSkipped key faults => s!"Skipping node '{key}': {faults} unresolved reference(s)"
  | expanded containers pods vnodes nodes =>
    s!"Generated {containers} containers, {pods} pods, {vnodes} vnodes, {nodes} nodes"
  | settingsLoaded path => s!"Loaded generator configuration from {path}"
  | propertyIgnored key => s!"Ignoring unknown property: {key}"
  | settingsInForce settings =>
    s!"Seeds: vnode {settings.vnodeSeed.text} node {settings.nodeSeed.text}, " ++
      s!"{settings.numbering.title} numbering, {settings.layout.title} layout"
  | topologyWritten instances path layout =>
    s!"Wrote {instances} instances to {path} ({layout.title} layout)"
  | incomplete templates lines =>
    s!"{templates} template(s) skipped, {lines} line(s) rejected; output is incomplete"

/-- A notice as a line of the log. -/
def entry (notice : Notice) : String := notice.level.name ++ " " ++ notice.message

end Notice

end ClusterTopology
