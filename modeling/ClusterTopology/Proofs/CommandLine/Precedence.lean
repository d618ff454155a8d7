import ClusterTopology.Proofs.Settings.Source

/-!
Which of several values for a setting prevails.

A value for a setting may come from an option, from properties and from a document. The first
of these that gives one prevails, and what none gives is as by default (`Prevails`). Whatever
is given has to be right even where another source prevails over it, except for a property
that a later one for its key takes the place of (`Sound`). If anything is wrong, it is the
first of `faults` that is reported. `resolve_prevails` says this of every resolution.
-/

namespace ClusterTopology.CommandLine

/-! ### Layers -/

/-- The texts that properties give for settings: for each, the last for its key. -/
def propertyTexts (texts : List String) : Layer where
  text? setting := Property.lastValue? texts setting.propertyKey
  source := Setting.propertyKey

/-- The texts that options give for settings. -/
def optionTexts (arguments : Arguments) : Layer where
  text? := Setting.option? arguments
  source := Setting.optionName

theorem result_optionLayer (arguments : Arguments) (settings : Settings) :
    (optionLayer arguments settings).result =
      (optionTexts arguments).applyAll Setting.all settings := by
  simp only [Setting.all, Layer.applyAll, bind_pure]
  rfl

section Properties

open Property

/-- How an application ended: with the settings that it came to, or with an error. -/
def outcome (application : Application) : Except Error Settings :=
  application.result.map fun () => application.settings

theorem outcome_applyOne {α : Type} (properties : Catalog String) (key : String)
    (read : String → Except Error α) (change : Settings → α → Settings) (settings : Settings) :
    outcome (applyOne properties key read change settings) =
      override (properties.find? key) read change settings := by
  unfold outcome applyOne override
  cases properties.find? key with
  | none => rfl
  | some text =>
      dsimp only
      cases read text <;> rfl

theorem outcome_andThen (application : Application) (step : Settings → Application) :
    outcome (application.andThen step) =
      outcome application >>= fun settings => outcome (step settings) := by
  unfold outcome Application.andThen
  cases result : application.result with
  | ok => rfl
  | error error =>
      dsimp only
      rw [result]
      rfl

/-- Properties are applied as a layer: the value that is found for the key of a setting is
the text for it. -/
theorem outcome_apply (properties : Catalog String) (settings : Settings) :
    outcome (apply properties settings) =
      Layer.applyAll ⟨fun setting => properties.find? setting.propertyKey, Setting.propertyKey⟩
        Setting.all settings := by
  simp only [apply, outcome_andThen, outcome_applyOne, Setting.all, Layer.applyAll, bind_pure,
    bind_assoc]
  rfl

theorem settles_propertyLayer (texts : List String) (settings : Settings) :
    Settles (propertyLayer texts settings).result
      (Property.faults texts ++ (propertyTexts texts).faults) fun after =>
        ∀ setting, after.get setting =
          ((propertyTexts texts).value? setting).getD (settings.get setting) := by
  have whole : (propertyLayer texts settings).result =
      parseAll texts >>= fun properties => outcome (apply properties settings) := by
    unfold propertyLayer
    cases parseAll texts <;> rfl
  rw [whole]
  refine (settles_parseOnto .empty texts).bind fun properties found => ?_
  have same : (⟨fun setting => properties.find? setting.propertyKey, Setting.propertyKey⟩ :
      Layer) = propertyTexts texts := by
    refine congrArg (Layer.mk · Setting.propertyKey) (funext fun setting => ?_)
    rw [found, Catalog.find?_empty, Option.or_none]
  rw [outcome_apply, same]
  exact Layer.settles_applyAll _ settings

end Properties

/-! ### The whole resolution -/

/-- All that is wrong with what is given, in the order in which it is met: with the document,
with the form of properties, with their values and with the values of options. -/
def faults (arguments : Arguments) (file? : Option SettingsFile) : List Error :=
  (file?.bind fun file => fault? file.settings).toList ++
    Property.faults arguments.properties ++
    (propertyTexts arguments.properties).faults ++ (optionTexts arguments).faults

/-- The value of a setting by a document if there is one and it gives one, or else by
default. -/
def base (file? : Option SettingsFile) (setting : Setting) : setting.Value :=
  (file?.bind fun file => file.stated? setting).getD (({} : Settings).get setting)

theorem settles_documentLayer (file? : Option SettingsFile) :
    Settles (documentLayer file?).result (file?.bind fun file => fault? file.settings).toList
      fun settings => ∀ setting, settings.get setting = base file? setting := by
  cases file? with
  | none => exact .ok fun setting => rfl
  | some file =>
      exact (Settles.self file.settings).imp fun settings loaded setting =>
        SettingsFile.get_settings loaded setting

theorem Resolution.result_andThen (resolution : Resolution) (layer : Settings → Resolution) :
    (resolution.andThen layer).result =
      resolution.result >>= fun settings => (layer settings).result := by
  unfold Resolution.andThen
  cases result : resolution.result with
  | ok settings => rfl
  | error error =>
      dsimp only
      rw [result]
      rfl

/-- A resolution fails with the first fault, or it is settled by what the layers give. -/
theorem settles_resolve (arguments : Arguments) (file? : Option SettingsFile) :
    Settles (resolve arguments file?).result (faults arguments file?) fun settings =>
      ∀ setting, settings.get setting =
        ((optionTexts arguments).value? setting).getD
          (((propertyTexts arguments.properties).value? setting).getD (base file? setting)) := by
  rw [resolve, Resolution.result_andThen, Resolution.result_andThen, faults]
  have lower : Settles
      ((documentLayer file?).result >>= fun settings =>
        (propertyLayer arguments.properties settings).result)
      ((file?.bind fun file => fault? file.settings).toList ++
        Property.faults arguments.properties ++ (propertyTexts arguments.properties).faults)
      fun middle => ∀ setting, middle.get setting =
        ((propertyTexts arguments.properties).value? setting).getD (base file? setting) := by
    rw [List.append_assoc]
    refine (settles_documentLayer file?).bind fun first stated => ?_
    refine (settles_propertyLayer arguments.properties first).imp fun middle given setting => ?_
    rw [given setting, stated setting]
  refine lower.bind fun middle values => ?_
  rw [result_optionLayer]
  refine ((optionTexts arguments).settles_applyAll middle).imp fun after given setting => ?_
  rw [given setting, values setting]

/-! ### What is right, and what prevails -/

/-- Nothing that is given is wrong: the document can be read, every property gives a value for
a key, and the last value that properties give for a setting and every value that an option
gives are values of it. -/
structure Sound (arguments : Arguments) (file? : Option SettingsFile) : Prop where
  document : ∀ file ∈ file?, ∃ settings, file.settings = .ok settings
  properties : ∀ text ∈ arguments.properties, ∃ key value, Property.Gives text key value
  lastProperties : ∀ (setting : Setting) (text : String),
    Property.LastGives arguments.properties setting.propertyKey text →
      ∃ value, setting.parse text = some value
  options : ∀ (setting : Setting) (text : String),
    setting.option? arguments = some text → ∃ value, setting.parse text = some value

/-- A value for a setting prevails: that of its option; without one that of its last property;
without these the one in the document; and if there is none at all the default. -/
inductive Prevails (arguments : Arguments) (file? : Option SettingsFile) (setting : Setting)
    (value : setting.Value) : Prop where
  | option (text : String) (given : setting.option? arguments = some text)
      (parsed : setting.parse text = some value)
  | property (text : String) (noOption : setting.option? arguments = none)
      (given : Property.LastGives arguments.properties setting.propertyKey text)
      (parsed : setting.parse text = some value)
  | document (file : SettingsFile) (noOption : setting.option? arguments = none)
      (noProperty : ∀ property ∈ arguments.properties, ∀ text,
        ¬ Property.Gives property setting.propertyKey text)
      (given : file? = some file) (stated : file.stated? setting = some value)
  | byDefault (noOption : setting.option? arguments = none)
      (noProperty : ∀ property ∈ arguments.properties, ∀ text,
        ¬ Property.Gives property setting.propertyKey text)
      (unstated : ∀ file ∈ file?, file.stated? setting = none)
      (same : value = ({} : Settings).get setting)

theorem faults_eq_nil_iff {arguments : Arguments} {file? : Option SettingsFile} :
    faults arguments file? = [] ↔ Sound arguments file? := by
  have document : (file?.bind fun file => fault? file.settings).toList = [] ↔
      ∀ file ∈ file?, ∃ settings, file.settings = .ok settings := by
    cases file? with
    | none => exact ⟨fun _ => nofun, fun _ => rfl⟩
    | some file => simp [fault?_eq_none_iff]
  simp only [faults, List.append_eq_nil_iff, document, Property.faults_eq_nil_iff,
    Layer.faults_eq_nil_iff, propertyTexts, optionTexts, Property.lastValue?_eq_some_iff]
  constructor
  · rintro ⟨⟨⟨document, properties⟩, last⟩, options⟩
    exact ⟨document, properties, last, options⟩
  · rintro ⟨document, properties, last, options⟩
    exact ⟨⟨⟨document, properties⟩, last⟩, options⟩

/-- If nothing is wrong, what the layers give is what prevails. -/
theorem prevails_of_sound {arguments : Arguments} {file? : Option SettingsFile}
    (sound : Sound arguments file?) (setting : Setting) :
    Prevails arguments file? setting
      (((optionTexts arguments).value? setting).getD
        (((propertyTexts arguments.properties).value? setting).getD (base file? setting))) := by
  cases noOption : setting.option? arguments with
  | some text =>
      obtain ⟨value, parsed⟩ := sound.options setting text noOption
      have own : (optionTexts arguments).value? setting = some value :=
        (Layer.value?_of_text noOption).trans parsed
      rw [own, Option.getD_some]
      exact .option text noOption parsed
  | none =>
      have silent : (optionTexts arguments).value? setting = none :=
        Layer.value?_of_noText noOption
      rw [silent, Option.getD_none]
      cases last : Property.lastValue? arguments.properties setting.propertyKey with
      | some text =>
          have given := Property.lastValue?_eq_some_iff.mp last
          obtain ⟨value, parsed⟩ := sound.lastProperties setting text given
          have own : (propertyTexts arguments.properties).value? setting = some value :=
            (Layer.value?_of_text last).trans parsed
          rw [own, Option.getD_some]
          exact .property text noOption given parsed
      | none =>
          have noProperty := Property.lastValue?_eq_none_iff.mp last
          have silent : (propertyTexts arguments.properties).value? setting = none :=
            Layer.value?_of_noText last
          rw [silent, Option.getD_none, base]
          cases stated : file?.bind fun file => file.stated? setting with
          | some value =>
              obtain ⟨file, given, stated⟩ := Option.bind_eq_some_iff.mp stated
              exact .document file noOption noProperty given stated
          | none =>
              refine .byDefault noOption noProperty ?_ rfl
              rintro file rfl
              exact stated

/-- A resolution comes to settings exactly when nothing that is given is wrong, and then to the
value of every setting that prevails. Otherwise it comes to the first error in the order in
which what is given is looked at. A property for a key that no setting has may be left out
without a difference, and so may one that is followed by another for its key. -/
theorem resolve_prevails (arguments : Arguments) (file? : Option SettingsFile) :
    let result := (resolve arguments file?).result
    ((∃ settings, result = .ok settings) ↔ Sound arguments file?) ∧
      (∀ settings, result = .ok settings →
        ∀ setting, Prevails arguments file? setting (settings.get setting)) ∧
      (∀ error, result = .error error ↔ (faults arguments file?).head? = some error) ∧
      ∀ before text after key value, arguments.properties = before ++ text :: after →
        Property.Gives text key value →
        ((∀ setting : Setting, key ≠ setting.propertyKey) ∨
          ∃ later ∈ after, ∃ value, Property.Gives later key value) →
        (resolve { arguments with properties := before ++ after } file?).result = result := by
  intro result
  have settles := settles_resolve arguments file?
  refine ⟨?_, ?_, ?_, ?_⟩
  · rw [settles.exists_ok_iff, faults_eq_nil_iff]
  · intro settings resolved setting
    obtain ⟨faultless, values⟩ := settles.good_of_ok resolved
    rw [values setting]
    exact prevails_of_sound (faults_eq_nil_iff.mp faultless) setting
  · intro error
    exact settles.eq_error_iff
  · intro before text after key value whole gives needless
    have sameFaults : Property.faults (before ++ after) =
        Property.faults (before ++ text :: after) := Property.faults_without gives
    have sameTexts : propertyTexts (before ++ after) = propertyTexts arguments.properties := by
      refine congrArg (Layer.mk · Setting.propertyKey) (funext fun setting => ?_)
      rw [whole]
      refine Property.lastValue?_without gives ?_
      by_cases own : setting.propertyKey = key
      · rw [own]
        exact Or.inr (needless.resolve_left fun foreign => foreign setting own.symm)
      · exact Or.inl own
    have without := settles_resolve { arguments with properties := before ++ after } file?
    rw [faults, sameFaults, sameTexts, ← whole] at without
    refine without.unique settles fun one other values others => ?_
    exact Settings.ext_get fun setting => (values setting).trans (others setting).symm

/-- One seed comes from an option and the other from a property, the numbering comes from a
document, and the layout from the later of two properties, of which the earlier is wrong. -/
theorem resolve_prevails_layered :
    let file : SettingsFile :=
      ⟨"run.toml", .ok "layout = \"emission\"\nid_numbering = \"per-key\""⟩
    let first := "generator.layout=sideways"
    let last := "generator.layout = grouped "
    let arguments : Arguments :=
      { input := "in", output := "out", vnodeSeed? := some "7.7.7.7"
        properties := [first, "generator.node-ip=1.2.3.4", last] }
    let settings : Settings := ⟨⟨7, 7, 7, 7⟩, ⟨1, 2, 3, 4⟩, .perKey, .grouped⟩
    (resolve arguments (some file)).result = .ok settings ∧
      Sound arguments (some file) ∧
      (∀ setting, Prevails arguments (some file) setting (settings.get setting)) ∧
      Property.Gives first "generator.layout" "sideways" ∧
      Property.Gives last "generator.layout" "grouped" ∧
      (resolve { arguments with properties := ["generator.node-ip=1.2.3.4", last] }
        (some file)).result = .ok settings := by
  intro file first last arguments settings
  have resolved : (resolve arguments (some file)).result = .ok settings := by decide +kernel
  have sideways : Property.Gives first "generator.layout" "sideways" :=
    Property.parse_eq_ok_iff.mp (by decide)
  have grouped : Property.Gives last "generator.layout" "grouped" :=
    Property.parse_eq_ok_iff.mp (by decide)
  obtain ⟨sound, values, -, without⟩ := resolve_prevails arguments (some file)
  have dropped := without [] first ["generator.node-ip=1.2.3.4", last] _ _ rfl sideways
    (Or.inr ⟨last, List.mem_cons_of_mem _ List.mem_cons_self, _, grouped⟩)
  exact ⟨resolved, sound.mp ⟨settings, resolved⟩, values settings resolved, sideways, grouped,
    dropped.trans resolved⟩

end ClusterTopology.CommandLine
