import ClusterTopology.CommandLine.Arguments
import ClusterTopology.CommandLine.Environment
import ClusterTopology.Settings.Document
import ClusterTopology.Settings.Property

/-!
The settings of a run. They come in layers: the defaults, a settings document,
properties, and options, where a later layer prevails. A layer that cannot be read
ends the resolution, even if a later layer would have prevailed over it.
-/

namespace ClusterTopology.CommandLine

/-- How a resolution ended, and the notices it gave. -/
structure Resolution where
  result : Except Error Settings
  notices : List Notice := []

/-- Go on with the next layer if all went well so far. -/
def Resolution.andThen (resolution : Resolution) (layer : Settings → Resolution) : Resolution :=
  match resolution.result with
  | .ok settings =>
    let next := layer settings
    { next with notices := resolution.notices ++ next.notices }
  | .error _ => resolution

/-- A settings document as it was read: its path and what reading it gave. -/
structure SettingsFile where
  path : String
  contents : Except FileFault String

namespace SettingsFile

/-- The settings in a document that was read. -/
def settings (file : SettingsFile) : Except Error Settings :=
  match file.contents with
  | .ok text => Settings.ofDocument text
  | .error fault =>
    .error (.badSetting s!"Failed to read config file {file.path}: {fault.message}")

end SettingsFile

/-- The settings in a document, or the defaults if there is none. -/
def documentLayer : Option SettingsFile → Resolution
  | none => { result := .ok {} }
  | some file =>
    { result := file.settings
      notices := match file.settings with
        | .ok _ => [.settingsLoaded file.path]
        | .error _ => [] }

/-- The settings changed by properties. -/
def propertyLayer (texts : List String) (settings : Settings) : Resolution :=
  match Property.parseAll texts with
  | .error error => { result := .error error }
  | .ok properties =>
    let application := Property.apply properties settings
    { result := application.result.map fun () => application.settings
      notices := Property.notices properties application }

/-- The settings changed by the value of an option, if it is given. -/
def override {α : Type} (given? : Option String) (read : String → Except Error α)
    (change : Settings → α → Settings) (settings : Settings) : Except Error Settings :=
  match given? with
  | none => .ok settings
  | some text => (read text).map (change settings)

/-- The settings changed by options. -/
def optionLayer (arguments : Arguments) (settings : Settings) : Resolution where
  result := do
    let settings ← override arguments.vnodeSeed? (Address.readAs "--vnode-ip")
      (fun settings seed => { settings with vnodeSeed := seed }) settings
    let settings ← override arguments.nodeSeed? (Address.readAs "--node-ip")
      (fun settings seed => { settings with nodeSeed := seed }) settings
    let settings ← override arguments.numbering? Numbering.parse
      (fun settings numbering => { settings with numbering := numbering }) settings
    override arguments.layout? Layout.parse
      (fun settings layout => { settings with layout := layout }) settings

/-- The settings that arguments ask for. -/
def resolve (arguments : Arguments) (file? : Option SettingsFile) : Resolution :=
  documentLayer file?
    |>.andThen (propertyLayer arguments.properties)
    |>.andThen (optionLayer arguments)

end ClusterTopology.CommandLine
