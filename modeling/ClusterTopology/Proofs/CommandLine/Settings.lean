import ClusterTopology.CommandLine.Resolution

/-!
What can be wrong with settings.

Settings are read layer by layer, and every layer can refuse. A refusal is always about what
was given and never that addresses have run out: `nonfatal_resolve`.
-/

namespace ClusterTopology

/-- If anything is wrong, it is not fatal. -/
def Nonfatal {α : Type} (result : Except Error α) : Prop :=
  ∀ error, result = .error error → error.isFatal = false

namespace Nonfatal

variable {α β : Type}

theorem ok (value : α) : Nonfatal (.ok value) := nofun

theorem error {error : Error} (mild : error.isFatal = false) :
    Nonfatal (.error error : Except Error α) := by
  intro other same
  obtain rfl := Except.error.inj same
  exact mild

theorem bind {result : Except Error α} {next : α → Except Error β} (first : Nonfatal result)
    (rest : ∀ value, Nonfatal (next value)) : Nonfatal (result >>= next) := by
  cases result with
  | ok value => exact rest value
  | error reason => exact .error (first reason rfl)

theorem map {result : Except Error α} (change : α → β) (mild : Nonfatal result) :
    Nonfatal (result.map change) := by
  cases result with
  | ok value => exact .ok (change value)
  | error reason => exact .error (mild reason rfl)

end Nonfatal

/-! ### Values -/

theorem nonfatal_readAs (source text : String) : Nonfatal (Address.readAs source text) := by
  unfold Address.readAs
  split
  · exact .ok _
  · exact .error rfl

theorem nonfatal_parse_numbering (text : String) : Nonfatal (Numbering.parse text) := by
  unfold Numbering.parse
  split
  · exact .ok _
  · exact .error rfl

theorem nonfatal_parse_layout (text : String) : Nonfatal (Layout.parse text) := by
  unfold Layout.parse
  split
  · exact .ok _
  · exact .error rfl

/-! ### Properties -/

namespace Property

theorem nonfatal_parse (text : String) : Nonfatal (parse text) := by
  unfold parse
  dsimp only
  split
  · exact .error rfl
  · split
    · exact .error rfl
    · exact .ok _

theorem nonfatal_parseOnto (properties : Catalog String) (texts : List String) :
    Nonfatal (parseOnto properties texts) := by
  induction texts generalizing properties with
  | nil => exact .ok properties
  | cons text rest ih =>
      exact (nonfatal_parse text).bind fun entry => ih (properties.insert entry.1 entry.2)

theorem nonfatal_applyOne {α : Type} {read : String → Except Error α}
    (mild : ∀ text, Nonfatal (read text)) (properties : Catalog String) (key : String)
    (change : Settings → α → Settings) (settings : Settings) :
    Nonfatal (applyOne properties key read change settings).result := by
  unfold applyOne
  split
  · exact .ok ()
  · rename_i text found
    cases value : read text with
    | ok _ => exact .ok ()
    | error reason => exact .error (mild text reason value)

theorem nonfatal_andThen {application : Application} {step : Settings → Application}
    (first : Nonfatal application.result) (rest : ∀ settings, Nonfatal (step settings).result) :
    Nonfatal (application.andThen step).result := by
  unfold Application.andThen
  split
  · exact rest application.settings
  · exact first

theorem nonfatal_apply (properties : Catalog String) (settings : Settings) :
    Nonfatal (apply properties settings).result := by
  unfold apply
  refine nonfatal_andThen (nonfatal_andThen (nonfatal_andThen ?_ fun _ => ?_) fun _ => ?_)
    fun _ => ?_
  · exact nonfatal_applyOne (nonfatal_readAs vnodeSeedKey) properties _ _ settings
  · exact nonfatal_applyOne (nonfatal_readAs nodeSeedKey) properties _ _ _
  · exact nonfatal_applyOne nonfatal_parse_numbering properties _ _ _
  · exact nonfatal_applyOne nonfatal_parse_layout properties _ _ _

end Property

/-! ### Layers -/

namespace CommandLine

theorem nonfatal_settings (file : SettingsFile) : Nonfatal file.settings := by
  unfold SettingsFile.settings
  split
  · rename_i text read
    unfold Settings.ofDocument
    split
    · exact .error rfl
    · rename_i root parsed
      cases Settings.applyEntries ({} : Settings) root.entries with
      | ok settings => exact .ok settings
      | error misfit => exact .error rfl
  · exact .error rfl

theorem nonfatal_documentLayer (file? : Option SettingsFile) :
    Nonfatal (documentLayer file?).result := by
  cases file? with
  | none => exact .ok ({} : Settings)
  | some file => exact nonfatal_settings file

theorem nonfatal_propertyLayer (texts : List String) (settings : Settings) :
    Nonfatal (propertyLayer texts settings).result := by
  have parsed := Property.nonfatal_parseOnto .empty texts
  unfold propertyLayer Property.parseAll
  cases read : Property.parseOnto .empty texts with
  | ok properties => exact (Property.nonfatal_apply properties settings).map _
  | error reason => exact .error (parsed reason read)

theorem nonfatal_override {α : Type} {read : String → Except Error α}
    (mild : ∀ text, Nonfatal (read text)) (given? : Option String)
    (change : Settings → α → Settings) (settings : Settings) :
    Nonfatal (override given? read change settings) := by
  cases given? with
  | none => exact .ok settings
  | some text => exact (mild text).map (change settings)

theorem nonfatal_optionLayer (arguments : Arguments) (settings : Settings) :
    Nonfatal (optionLayer arguments settings).result := by
  refine (nonfatal_override (nonfatal_readAs _) _ _ _).bind fun settings => ?_
  refine (nonfatal_override (nonfatal_readAs _) _ _ _).bind fun settings => ?_
  refine (nonfatal_override nonfatal_parse_numbering _ _ _).bind fun settings => ?_
  exact nonfatal_override nonfatal_parse_layout _ _ _

theorem Resolution.nonfatal_andThen {resolution : Resolution} {layer : Settings → Resolution}
    (first : Nonfatal resolution.result) (rest : ∀ settings, Nonfatal (layer settings).result) :
    Nonfatal (resolution.andThen layer).result := by
  unfold Resolution.andThen
  split
  · rename_i settings resolved
    exact rest settings
  · exact first

/-- Settings never fail to resolve for want of addresses. -/
theorem nonfatal_resolve (arguments : Arguments) (file? : Option SettingsFile) :
    Nonfatal (resolve arguments file?).result :=
  (Resolution.nonfatal_andThen
    (Resolution.nonfatal_andThen (nonfatal_documentLayer file?)
      (nonfatal_propertyLayer arguments.properties))
    (nonfatal_optionLayer arguments))

end CommandLine

end ClusterTopology
