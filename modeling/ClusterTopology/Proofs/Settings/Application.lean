import ClusterTopology.Proofs.Settings.Source

/-!
What properties leave behind.

Properties change one setting after another, and the first of them that has no value of its
setting ends the change (`applied_applyEach`). What was changed before stays changed: an error
does not mean that the settings are those of before (`settings_apply_ne`). `apply_upToFault`
says which settings are changed, and when none is.
-/

namespace ClusterTopology.Property

namespace Application

variable {application : Application}

theorem andThen_ok (settings : Settings) (step : Settings → Application) :
    Application.andThen ⟨settings, .ok ()⟩ step = step settings := rfl

theorem andThen_error (settings : Settings) (error : Error) (step : Settings → Application) :
    Application.andThen ⟨settings, .error error⟩ step = ⟨settings, .error error⟩ := rfl

theorem andThen_done :
    application.andThen (fun settings => ⟨settings, .ok ()⟩) = application := by
  obtain ⟨settings, result⟩ := application
  cases result <;> rfl

theorem andThen_assoc (first second : Settings → Application) :
    (application.andThen first).andThen second =
      application.andThen fun settings => (first settings).andThen second := by
  obtain ⟨settings, result⟩ := application
  cases result <;> rfl

end Application

/-! ### One setting after another -/

/-- Change these settings by properties, one after another. -/
def applyEach (properties : Catalog String) : List Setting → Settings → Application
  | [], settings => ⟨settings, .ok ()⟩
  | setting :: rest, settings =>
    (applyOne properties setting.propertyKey (setting.read setting.propertyKey)
      (fun settings value => settings.set setting value) settings).andThen
      (applyEach properties rest)

/-- Properties are applied to every setting in turn. -/
theorem apply_eq_applyEach (properties : Catalog String) (settings : Settings) :
    apply properties settings = applyEach properties Setting.all settings := by
  simp only [apply, Setting.all, applyEach, Application.andThen_assoc, Application.andThen_done]
  rfl

/-- Of a change by properties a setting has the value that the text under its key stands for,
or the value that it had if there is no such text. -/
inductive Taken (properties : Catalog String) (setting : Setting) (settings after : Settings) :
    Prop where
  | given {text : String} (found : properties.find? setting.propertyKey = some text)
      (parsed : setting.parse text = some (after.get setting))
  | absent (nothing : properties.find? setting.propertyKey = none)
      (kept : after.get setting = settings.get setting)

/-- Properties have changed these settings and left the others alone. -/
structure Changed (properties : Catalog String) (list : List Setting)
    (settings after : Settings) : Prop where
  taken : ∀ setting ∈ list, Taken properties setting settings after
  kept : ∀ setting, setting ∉ list → after.get setting = settings.get setting

/-- How the change of these settings by properties can end. -/
inductive Applied (properties : Catalog String) (list : List Setting) (settings : Settings) :
    Application → Prop where
  | complete {after : Settings} (changed : Changed properties list settings after) :
      Applied properties list settings ⟨after, .ok ()⟩
  | stopped {before rest : List Setting} {faulty : Setting} {text : String} {error : Error}
      {after : Settings} (split : list = before ++ faulty :: rest)
      (changed : Changed properties before settings after)
      (found : properties.find? faulty.propertyKey = some text)
      (refused : faulty.read faulty.propertyKey text = .error error) :
      Applied properties list settings ⟨after, .error error⟩

section Each

variable {properties : Catalog String} {setting : Setting} {settings middle after : Settings}

/-- Only the values of the setting itself count. -/
theorem Taken.congr (taken : Taken properties setting settings after) {first last : Settings}
    (sameFirst : first.get setting = settings.get setting)
    (sameLast : last.get setting = after.get setting) :
    Taken properties setting first last := by
  cases taken with
  | given found parsed => exact .given found (by rw [sameLast, parsed])
  | absent nothing kept => exact .absent nothing (by rw [sameLast, kept, sameFirst])

theorem Changed.cons {list : List Setting} (new : setting ∉ list)
    (own : Changed properties [setting] settings middle)
    (others : Changed properties list middle after) :
    Changed properties (setting :: list) settings after where
  taken := by
    intro other member
    rcases List.mem_cons.mp member with rfl | later
    · have taken := own.taken other List.mem_cons_self
      exact taken.congr rfl (others.kept other new)
    · have differs : other ∉ [setting] := by
        intro same
        obtain rfl := List.mem_singleton.mp same
        exact new later
      exact (others.taken other later).congr (own.kept other differs).symm rfl
  kept := by
    intro other outside
    rw [List.mem_cons, not_or] at outside
    rw [others.kept other outside.2]
    exact own.kept other (mt List.mem_singleton.mp outside.1)

/-- One setting is changed by its property, or the text of the property is refused and no
setting is changed. -/
theorem applyOne_cases (properties : Catalog String) (setting : Setting) (settings : Settings) :
    let application := applyOne properties setting.propertyKey
      (setting.read setting.propertyKey) (fun settings value => settings.set setting value) settings
    (∃ after, application = ⟨after, .ok ()⟩ ∧ Changed properties [setting] settings after) ∨
      ∃ text error, application = ⟨settings, .error error⟩ ∧
        properties.find? setting.propertyKey = some text ∧
        setting.read setting.propertyKey text = .error error := by
  dsimp only [applyOne]
  cases found : properties.find? setting.propertyKey with
  | none =>
      refine Or.inl ⟨settings, rfl, ?_, fun _ _ => rfl⟩
      intro other member
      obtain rfl := List.mem_singleton.mp member
      exact .absent found rfl
  | some text =>
      dsimp only
      cases read : setting.read setting.propertyKey text with
      | error error => exact Or.inr ⟨text, error, rfl, rfl, read⟩
      | ok value =>
          refine Or.inl ⟨settings.set setting value, rfl, ?_, fun other outside => ?_⟩
          · intro other member
            obtain rfl := List.mem_singleton.mp member
            refine .given found ?_
            rw [Settings.get_set, Setting.read_eq_ok_iff.mp read]
          · exact Settings.get_set_of_ne _ (mt List.mem_singleton.mpr outside) value

/-- Settings are changed up to the first whose property has no value of it. -/
theorem applied_applyEach (properties : Catalog String) {list : List Setting}
    (distinct : list.Nodup) (settings : Settings) :
    Applied properties list settings (applyEach properties list settings) := by
  induction list generalizing settings with
  | nil => exact .complete ⟨nofun, fun _ _ => rfl⟩
  | cons setting list ih =>
      obtain ⟨new, distinct⟩ := List.nodup_cons.mp distinct
      rw [applyEach]
      rcases applyOne_cases properties setting settings with
        ⟨middle, same, own⟩ | ⟨text, error, same, found, refused⟩
      · rw [same, Application.andThen_ok]
        have later := ih distinct middle
        generalize applyEach properties list middle = application at later ⊢
        cases later with
        | complete changed => exact .complete (own.cons new changed)
        | stopped split changed found refused =>
            subst split
            have newBefore := fun member => new (List.mem_append_left _ member)
            exact .stopped rfl (own.cons newBefore changed) found refused
      · rw [same, Application.andThen_error]
        exact .stopped (List.nil_append _).symm ⟨nofun, fun _ _ => rfl⟩ found refused

/-- Without a text for any of them no setting is changed. -/
theorem Changed.eq_of_silent {list : List Setting}
    (changed : Changed properties list settings after)
    (silent : ∀ setting ∈ list, properties.find? setting.propertyKey = none) :
    after = settings := by
  refine Settings.ext_get fun setting => ?_
  by_cases member : setting ∈ list
  · cases changed.taken setting member with
    | given found _ => cases (silent setting member).symm.trans found
    | absent _ kept => exact kept
  · exact changed.kept setting member

end Each

namespace Applied

variable {properties : Catalog String} {list : List Setting} {settings : Settings}
  {application : Application}

theorem taken (applied : Applied properties list settings application)
    (ok : application.result = .ok ()) :
    ∀ setting ∈ list, Taken properties setting settings application.settings := by
  cases applied with
  | complete changed => exact changed.taken
  | stopped => cases ok

/-- The change comes to its end exactly when every text is that of a value. -/
theorem result_eq_ok_iff (applied : Applied properties list settings application) :
    application.result = .ok () ↔ ∀ setting ∈ list, ∀ text,
      properties.find? setting.propertyKey = some text →
        ∃ value, setting.parse text = some value := by
  constructor
  · intro ok setting member text found
    cases applied.taken ok setting member with
    | given also parsed =>
        obtain rfl := Option.some.inj (also.symm.trans found)
        exact ⟨_, parsed⟩
    | absent nothing _ => cases nothing.symm.trans found
  · intro sound
    cases applied with
    | complete => rfl
    | @stopped before rest faulty text error after split _ found refused =>
        have member : faulty ∈ list := split ▸ List.mem_append_right _ List.mem_cons_self
        obtain ⟨value, parsed⟩ := sound faulty member text found
        cases refused.symm.trans (Setting.read_eq_ok_iff.mpr parsed)

/-- A change that does not come to its end is one of the settings before the first whose text
is refused. -/
theorem exists_of_error (applied : Applied properties list settings application) {error : Error}
    (failed : application.result = .error error) :
    ∃ before faulty rest text, list = before ++ faulty :: rest ∧
      Changed properties before settings application.settings ∧
      properties.find? faulty.propertyKey = some text ∧
      faulty.read faulty.propertyKey text = .error error := by
  cases applied with
  | complete => cases failed
  | stopped split changed found refused =>
      obtain rfl := Except.error.inj failed
      exact ⟨_, _, _, _, split, changed, found, refused⟩

end Applied

/-! ### All settings -/

theorem applied_apply (properties : Catalog String) (settings : Settings) :
    Applied properties Setting.all settings (apply properties settings) := by
  rw [apply_eq_applyEach]
  exact applied_applyEach properties Setting.nodup_all settings

/-- Properties are applied to the end exactly when the text under the key of every setting is
that of a value. Then every setting has the value that is given for it, or else the one that it
had. Otherwise the first setting whose text is refused, in the order of the settings, is what
the error is about; the settings before it are changed like that, and it and those after it are
left alone. So no setting is changed if there is no text for any setting before it. -/
theorem apply_upToFault (properties : Catalog String) (settings : Settings) :
    let application := apply properties settings
    (application.result = .ok () ↔ ∀ (setting : Setting) (text : String),
        properties.find? setting.propertyKey = some text →
          ∃ value, setting.parse text = some value) ∧
      (application.result = .ok () →
        ∀ setting, Taken properties setting settings application.settings) ∧
      ∀ error, application.result = .error error →
        ∃ before faulty rest text, Setting.all = before ++ faulty :: rest ∧
          properties.find? faulty.propertyKey = some text ∧
          faulty.read faulty.propertyKey text = .error error ∧
          (∀ setting ∈ before, Taken properties setting settings application.settings) ∧
          (∀ setting ∈ faulty :: rest,
            application.settings.get setting = settings.get setting) ∧
          ((∀ setting ∈ before, properties.find? setting.propertyKey = none) →
            application.settings = settings) := by
  intro application
  have applied : Applied properties Setting.all settings application :=
    applied_apply properties settings
  refine ⟨?_, fun ok setting => applied.taken ok setting setting.mem_all, fun error failed => ?_⟩
  · rw [applied.result_eq_ok_iff]
    exact ⟨fun sound setting => sound setting setting.mem_all, fun sound setting _ => sound setting⟩
  · obtain ⟨before, faulty, rest, text, split, changed, found, refused⟩ :=
      applied.exists_of_error failed
    have distinct : (before ++ faulty :: rest).Nodup := split ▸ Setting.nodup_all
    have apart : ∀ setting ∈ faulty :: rest, setting ∉ before := fun setting member inside =>
      (List.nodup_append.mp distinct).2.2 setting inside setting member rfl
    exact ⟨before, faulty, rest, text, split, found, refused, changed.taken,
      fun setting member => changed.kept setting (apart setting member), changed.eq_of_silent⟩

/-- A property for no setting does nothing. The seed is changed before the wrong layout is met,
and it is not changed when a wrong seed comes first. -/
theorem apply_upToFault_layout :
    let seed := (Catalog.empty.insert vnodeSeedKey "1.2.3.4").insert "colour" "red"
    let layout := seed.insert layoutKey "sideways"
    let wrong : Error := .badSetting "Invalid layout: sideways (expected 'emission' or 'grouped')"
    (apply seed {}).result = .ok () ∧
      (∀ setting, Taken seed setting {} (apply seed {}).settings) ∧
      (apply layout {}).result = .error wrong ∧
      ∃ before faulty rest text, Setting.all = before ++ faulty :: rest ∧
        layout.find? faulty.propertyKey = some text ∧
        faulty.read faulty.propertyKey text = .error wrong ∧
        (∀ setting ∈ before, Taken layout setting {} (apply layout {}).settings) ∧
        ∀ setting ∈ faulty :: rest,
          (apply layout {}).settings.get setting = ({} : Settings).get setting := by
  intro seed layout wrong
  have applied : (apply seed {}).result = .ok () := by decide
  have stopped : (apply layout {}).result = .error wrong := by decide
  obtain ⟨-, changed, -⟩ := apply_upToFault seed {}
  obtain ⟨-, -, failed⟩ := apply_upToFault layout {}
  obtain ⟨before, faulty, rest, text, split, found, refused, taken, kept, -⟩ :=
    failed wrong stopped
  exact ⟨applied, changed applied, stopped, before, faulty, rest, text, split, found, refused,
    taken, kept⟩

/-- The seed that is applied first stays changed when the other one is refused. -/
theorem settings_apply_ne :
    let properties :=
      (Catalog.empty.insert vnodeSeedKey "1.2.3.4").insert nodeSeedKey "300.1.1.1"
    let application := apply properties {}
    (∃ error, application.result = .error error) ∧
      application.settings = { vnodeSeed := ⟨1, 2, 3, 4⟩ } ∧
      ¬ application.settings = {} := by
  intro properties application
  refine ⟨⟨.badSetting (s!"Invalid IPv4 address for generator.node-ip: '300.1.1.1' " ++
    "(invalid IPv4 address syntax)"), ?_⟩, ?_, ?_⟩ <;> decide

end ClusterTopology.Property
