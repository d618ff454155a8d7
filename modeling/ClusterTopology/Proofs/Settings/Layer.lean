import Mathlib.Data.List.Basic
import ClusterTopology.CommandLine.Resolution

/-!
The layers of settings, setting by setting.

A setting is looked at with `Settings.get` and changed with `Settings.set`, which leaves the
other settings alone. A layer gives texts for some of the settings. `Layer.settles_applyAll`
says what becomes of settings under a layer: every setting has the value that the layer gives
for it, or else the one it had, and if a text cannot be read the first such text in the order
of the settings is what is reported.

`Settles` is the form of all such statements. A result goes with a list of faults, in the
order in which they are met; it is the first of them, or it is good if there are none. Where
one computation follows another their faults are appended (`Settles.bind`).
-/

namespace ClusterTopology

/-! ### Results and faults -/

/-- The error of a result. -/
def fault? {α : Type} : Except Error α → Option Error
  | .ok _ => none
  | .error error => some error

/-- A result is the first of these faults, or it is good if there are none. -/
def Settles {α : Type} (result : Except Error α) (faults : List Error) (good : α → Prop) :
    Prop :=
  (∃ value, result = .ok value ∧ faults = [] ∧ good value) ∨
    ∃ error, result = .error error ∧ faults.head? = some error

namespace Settles

variable {α β : Type} {result : Except Error α} {faults : List Error} {good : α → Prop}

theorem ok {value : α} (holds : good value) : Settles (.ok value) [] good :=
  Or.inl ⟨value, rfl, rfl, holds⟩

/-- A result has no fault but its own error. -/
theorem self (result : Except Error α) :
    Settles result (fault? result).toList fun value => result = .ok value := by
  cases result with
  | ok value => exact Or.inl ⟨value, rfl, rfl, rfl⟩
  | error error => exact Or.inr ⟨error, rfl, rfl⟩

theorem imp {better : α → Prop} (settles : Settles result faults good)
    (implies : ∀ value, good value → better value) : Settles result faults better := by
  rcases settles with ⟨value, same, none, holds⟩ | failed
  · exact Or.inl ⟨value, same, none, implies value holds⟩
  · exact Or.inr failed

/-- The faults of what comes first come first. -/
theorem bind {next : α → Except Error β} {more : List Error} {fine : β → Prop}
    (first : Settles result faults good)
    (rest : ∀ value, good value → Settles (next value) more fine) :
    Settles (result >>= next) (faults ++ more) fine := by
  rcases first with ⟨value, rfl, rfl, holds⟩ | ⟨error, rfl, head⟩
  · exact rest value holds
  · refine Or.inr ⟨error, rfl, ?_⟩
    rw [List.head?_append, head, Option.some_or]

theorem exists_ok_iff (settles : Settles result faults good) :
    (∃ value, result = .ok value) ↔ faults = [] := by
  rcases settles with ⟨value, rfl, none, -⟩ | ⟨error, rfl, head⟩
  · exact ⟨fun _ => none, fun _ => ⟨value, rfl⟩⟩
  · constructor
    · rintro ⟨value, same⟩
      cases same
    · rintro rfl
      cases head

theorem good_of_ok (settles : Settles result faults good) {value : α}
    (succeeds : result = .ok value) : faults = [] ∧ good value := by
  rcases settles with ⟨other, same, none, holds⟩ | ⟨error, same, -⟩
  · obtain rfl := Except.ok.inj (same.symm.trans succeeds)
    exact ⟨none, holds⟩
  · cases same.symm.trans succeeds

theorem eq_error_iff (settles : Settles result faults good) {error : Error} :
    result = .error error ↔ faults.head? = some error := by
  rcases settles with ⟨value, rfl, rfl, -⟩ | ⟨other, rfl, head⟩
  · constructor <;> nofun
  · rw [head, Except.error.injEq, Option.some.injEq]

/-- What settles in the same way is the same, if only one value is good. -/
theorem unique {other : Except Error α} (settles : Settles result faults good)
    (also : Settles other faults good) (one : ∀ v w, good v → good w → v = w) :
    result = other := by
  rcases settles with ⟨value, rfl, rfl, holds⟩ | ⟨error, rfl, head⟩
  · rcases also with ⟨second, rfl, -, alike⟩ | ⟨error, -, head⟩
    · rw [one value second holds alike]
    · cases head
  · exact (also.eq_error_iff.mpr head).symm

end Settles

theorem fault?_eq_none_iff {α : Type} {result : Except Error α} :
    fault? result = none ↔ ∃ value, result = .ok value := by
  cases result <;> simp [fault?]

/-! ### Settings one by one -/

/-- The settings that a run has. -/
inductive Setting where
  | vnodeSeed
  | nodeSeed
  | numbering
  | layout
  deriving DecidableEq, Repr

namespace Setting

/-- Every setting, in the order in which a layer is read. -/
def all : List Setting := [vnodeSeed, nodeSeed, numbering, layout]

theorem mem_all (setting : Setting) : setting ∈ all := by
  cases setting <;> simp [all]

theorem nodup_all : all.Nodup := by decide

/-- What the values of a setting are. -/
abbrev Value : Setting → Type
  | vnodeSeed | nodeSeed => Address
  | numbering => Numbering
  | layout => Layout

/-- The value that a text stands for. -/
def parse : (setting : Setting) → String → Option setting.Value
  | vnodeSeed | nodeSeed => Address.ofText?
  | numbering => Numbering.ofName?
  | layout => Layout.ofName?

/-- The value that a text stands for, or the error that says why it stands for none. -/
def read (source : String) : (setting : Setting) → String → Except Error setting.Value
  | vnodeSeed | nodeSeed => Address.readAs source
  | numbering => Numbering.parse
  | layout => Layout.parse

theorem read_eq_ok_iff {setting : Setting} {source text : String} {value : setting.Value} :
    setting.read source text = .ok value ↔ setting.parse text = some value := by
  cases setting with
  | vnodeSeed | nodeSeed =>
      simp only [read, parse, Address.readAs]
      cases Address.ofText? text <;> simp
  | numbering =>
      simp only [read, parse, Numbering.parse]
      cases Numbering.ofName? text <;> simp
  | layout =>
      simp only [read, parse, Layout.parse]
      cases Layout.ofName? text <;> simp

end Setting

namespace Settings

/-- The value of a setting. -/
def get (settings : Settings) : (setting : Setting) → setting.Value
  | .vnodeSeed => settings.vnodeSeed
  | .nodeSeed => settings.nodeSeed
  | .numbering => settings.numbering
  | .layout => settings.layout

/-- The settings with another value of one of them. -/
def set (settings : Settings) : (setting : Setting) → setting.Value → Settings
  | .vnodeSeed, seed => { settings with vnodeSeed := seed }
  | .nodeSeed, seed => { settings with nodeSeed := seed }
  | .numbering, numbering => { settings with numbering := numbering }
  | .layout, layout => { settings with layout := layout }

theorem get_set (settings : Settings) (setting : Setting) (value : setting.Value) :
    (settings.set setting value).get setting = value := by
  cases setting <;> rfl

theorem get_set_of_ne (settings : Settings) {setting other : Setting} (differs : other ≠ setting)
    (value : setting.Value) : (settings.set setting value).get other = settings.get other := by
  cases setting <;> cases other <;> first | rfl | exact absurd rfl differs

/-- Settings are their values. -/
theorem ext_get {settings others : Settings}
    (same : ∀ setting, settings.get setting = others.get setting) : settings = others := by
  cases settings
  cases others
  have vnodeSeed := same .vnodeSeed
  have nodeSeed := same .nodeSeed
  have numbering := same .numbering
  have layout := same .layout
  simp only [get] at vnodeSeed nodeSeed numbering layout
  rw [vnodeSeed, nodeSeed, numbering, layout]

end Settings

/-! ### Layers -/

/-- Texts that are given for settings, and what errors say that such a text is for. -/
structure Layer where
  text? : Setting → Option String
  source : Setting → String

namespace Layer

/-- The value that a layer gives for a setting. -/
def value? (layer : Layer) (setting : Setting) : Option setting.Value :=
  (layer.text? setting).bind setting.parse

/-- What is wrong with the text that a layer gives for a setting. -/
def fault? (layer : Layer) (setting : Setting) : Option Error :=
  (layer.text? setting).bind fun text =>
    ClusterTopology.fault? (setting.read (layer.source setting) text)

/-- What is wrong with the texts of a layer, in the order of the settings. -/
def faults (layer : Layer) : List Error := Setting.all.filterMap layer.fault?

theorem value?_of_text {layer : Layer} {setting : Setting} {text : String}
    (given : layer.text? setting = some text) :
    layer.value? setting = setting.parse text := by
  rw [value?, given, Option.bind_some]

theorem value?_of_noText {layer : Layer} {setting : Setting}
    (nothing : layer.text? setting = none) : layer.value? setting = none := by
  rw [value?, nothing, Option.bind_none]

/-- Nothing is wrong with a layer whose texts all stand for values. -/
theorem faults_eq_nil_iff {layer : Layer} :
    layer.faults = [] ↔ ∀ (setting : Setting) (text : String),
      layer.text? setting = some text → ∃ value, setting.parse text = some value := by
  rw [faults, List.filterMap_eq_nil_iff]
  constructor
  · intro faultless setting text given
    have fine := faultless setting setting.mem_all
    rw [fault?, given, Option.bind_some, fault?_eq_none_iff] at fine
    obtain ⟨value, read⟩ := fine
    exact ⟨value, Setting.read_eq_ok_iff.mp read⟩
  · intro sound setting _
    cases given : layer.text? setting with
    | none => rw [fault?, given, Option.bind_none]
    | some text =>
        obtain ⟨value, parsed⟩ := sound setting text given
        rw [fault?, given, Option.bind_some, fault?_eq_none_iff]
        exact ⟨value, Setting.read_eq_ok_iff.mpr parsed⟩

/-- Change a setting to what a layer gives for it. -/
def applyOne (layer : Layer) (setting : Setting) (settings : Settings) : Except Error Settings :=
  CommandLine.override (layer.text? setting) (setting.read (layer.source setting))
    (fun settings value => settings.set setting value) settings

/-- Change settings to what a layer gives for them, one after another. -/
def applyAll (layer : Layer) : List Setting → Settings → Except Error Settings
  | [], settings => pure settings
  | setting :: rest, settings => layer.applyOne setting settings >>= layer.applyAll rest

/-- One setting is changed and the others are left alone. -/
theorem settles_applyOne (layer : Layer) (setting : Setting) (settings : Settings) :
    Settles (layer.applyOne setting settings) (layer.fault? setting).toList fun after =>
      after.get setting = (layer.value? setting).getD (settings.get setting) ∧
        ∀ other, other ≠ setting → after.get other = settings.get other := by
  unfold applyOne fault? value?
  cases layer.text? setting with
  | none => exact .ok ⟨rfl, fun _ _ => rfl⟩
  | some text =>
      simp only [CommandLine.override, Option.bind_some]
      cases read : setting.read (layer.source setting) text with
      | error error => exact Or.inr ⟨error, rfl, rfl⟩
      | ok value =>
          rw [Setting.read_eq_ok_iff.mp read, Option.getD_some]
          exact .ok ⟨settings.get_set setting value,
            fun _ differs => settings.get_set_of_ne differs value⟩

theorem settles_applyAll_list (layer : Layer) (list : List Setting) (settings : Settings) :
    Settles (layer.applyAll list settings) (list.filterMap layer.fault?) fun after =>
      ∀ setting, after.get setting =
        if setting ∈ list then (layer.value? setting).getD (settings.get setting)
        else settings.get setting := by
  induction list generalizing settings with
  | nil => exact .ok fun setting => (if_neg List.not_mem_nil).symm
  | cons first rest ih =>
      rw [List.filterMap_eq_flatMap_toList, List.flatMap_cons, ← List.filterMap_eq_flatMap_toList]
      refine (layer.settles_applyOne first settings).bind fun middle changed => ?_
      obtain ⟨own, others⟩ := changed
      refine (ih middle).imp fun after values setting => ?_
      rw [values setting]
      by_cases same : setting = first
      · subst same
        rw [if_pos List.mem_cons_self, own]
        cases layer.value? setting <;> simp
      · simp only [List.mem_cons, same, false_or, others setting same]

/-- Under a layer every setting has the value that the layer gives for it, or else the value
that it had. -/
theorem settles_applyAll (layer : Layer) (settings : Settings) :
    Settles (layer.applyAll Setting.all settings) layer.faults fun after =>
      ∀ setting, after.get setting =
        (layer.value? setting).getD (settings.get setting) := by
  refine (layer.settles_applyAll_list Setting.all settings).imp fun after values setting => ?_
  rw [values setting, if_pos setting.mem_all]

end Layer

end ClusterTopology
