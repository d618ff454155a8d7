import ClusterTopology.Catalog
import ClusterTopology.Notice
import ClusterTopology.Text.Blank
import ClusterTopology.Text.Lines

/-!
Settings given as properties, texts of the form `key=value`. The first equals
sign is the one that counts, blanks around key and value do not, and of several
values for a key the last one holds. Properties are applied in a fixed order and
the first value that cannot be read ends the application; what was applied before
it stays applied.
-/

namespace ClusterTopology

namespace Property

/-- The keys that have a meaning, in the order in which they are applied. -/
def vnodeSeedKey : String := "generator.vnode-ip"

def nodeSeedKey : String := "generator.node-ip"

def numberingKey : String := "generator.id-numbering"

def layoutKey : String := "generator.layout"

def knownKeys : List String := [vnodeSeedKey, nodeSeedKey, numberingKey, layoutKey]

/-- The key and value of one property. -/
def parse (text : String) : Except Error (String × String) :=
  match Text.cutFirst? (· == '=') text.toList with
  | none =>
    .error (.badSetting s!"Invalid config format: '{text}'. Expected 'key=value'")
  | some (before, after) =>
    let key := Text.trim before
    if key = [] then .error (.badSetting s!"Empty key in config: '{text}'")
    else .ok (String.ofList key, String.ofList (Text.trim after))

/-- Add properties to those already read, up to the first that cannot be read. -/
def parseOnto (properties : Catalog String) : List String → Except Error (Catalog String)
  | [] => .ok properties
  | text :: rest => do
    let (key, value) ← parse text
    parseOnto (properties.insert key value) rest

/-- The values of properties by key. -/
def parseAll (texts : List String) : Except Error (Catalog String) := parseOnto .empty texts

/-- A change of settings, and whether it came to its end. -/
structure Application where
  settings : Settings
  result : Except Error Unit

/-- Go on with the settings if all went well so far. -/
def Application.andThen (application : Application) (step : Settings → Application) :
    Application :=
  match application.result with
  | .ok () => step application.settings
  | .error _ => application

/-- Change the settings by the value under a key, if there is one. -/
def applyOne {α : Type} (properties : Catalog String) (key : String)
    (read : String → Except Error α) (change : Settings → α → Settings) (settings : Settings) :
    Application :=
  match properties.find? key with
  | none => ⟨settings, .ok ()⟩
  | some text =>
    match read text with
    | .ok value => ⟨change settings value, .ok ()⟩
    | .error error => ⟨settings, .error error⟩

/-- Change the settings by properties. -/
def apply (properties : Catalog String) (settings : Settings) : Application :=
  applyOne properties vnodeSeedKey (Address.readAs vnodeSeedKey)
      (fun settings seed => { settings with vnodeSeed := seed }) settings
    |>.andThen (applyOne properties nodeSeedKey (Address.readAs nodeSeedKey)
      fun settings seed => { settings with nodeSeed := seed })
    |>.andThen (applyOne properties numberingKey Numbering.parse
      fun settings numbering => { settings with numbering := numbering })
    |>.andThen (applyOne properties layoutKey Layout.parse
      fun settings layout => { settings with layout := layout })

/-- The notices of an application: one for each key without a meaning, in the
order of the keys, if the application came to its end. -/
def notices (properties : Catalog String) (application : Application) : List Notice :=
  match application.result with
  | .ok () =>
    (properties.keys.filter fun key => !knownKeys.contains key).mergeSort.map .propertyIgnored
  | .error _ => []

end Property

end ClusterTopology
