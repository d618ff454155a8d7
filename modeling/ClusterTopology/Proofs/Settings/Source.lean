import ClusterTopology.Proofs.Settings.Layer

/-!
Where values for settings come from.

A property gives a value for a key (`Property.Gives`), and of several for one key the last one
holds (`Property.LastGives`): this is what reading them all comes to
(`Property.settles_parseOnto`). A document states values for settings under keys of its own,
and settings read from it have the values stated and are as by default where none is
(`CommandLine.SettingsFile.get_settings`).
-/

namespace ClusterTopology

/-! ### Properties -/

namespace Property

/-- A property gives a value for a key: what stands before its first equals sign, which is not
blank, and what stands after it, both without the blanks around them. -/
def Gives (text key value : String) : Prop :=
  ∃ before after, text.toList = before ++ '=' :: after ∧ '=' ∉ before ∧ Text.trim before ≠ [] ∧
    key = String.ofList (Text.trim before) ∧ value = String.ofList (Text.trim after)

/-- The last of these properties that gives a value for a key gives this one. -/
def LastGives (texts : List String) (key value : String) : Prop :=
  ∃ before text after, texts = before ++ text :: after ∧ Gives text key value ∧
    ∀ later ∈ after, ∀ value, ¬ Gives later key value

theorem parse_eq_ok_iff {text key value : String} :
    parse text = .ok (key, value) ↔ Gives text key value := by
  unfold parse Gives
  cases cut : Text.cutFirst? (· == '=') text.toList with
  | none =>
      constructor
      · nofun
      · rintro ⟨before, after, whole, clean, -⟩
        rw [Text.cutFirst?_mark_eq_some_iff.mpr ⟨whole, clean⟩] at cut
        cases cut
  | some parts =>
      obtain ⟨front, back⟩ := parts
      obtain ⟨whole, clean⟩ := Text.cutFirst?_mark_eq_some_iff.mp cut
      dsimp only
      constructor
      · intro parsed
        split at parsed
        · cases parsed
        · rename_i named
          obtain ⟨rfl, rfl⟩ := Prod.mk.inj (Except.ok.inj parsed)
          exact ⟨front, back, whole, clean, named, rfl, rfl⟩
      · rintro ⟨before, after, same, free, named, rfl, rfl⟩
        have again := Text.cutFirst?_mark_eq_some_iff.mpr ⟨same, free⟩
        obtain ⟨rfl, rfl⟩ := Prod.mk.inj (Option.some.inj (cut.symm.trans again))
        rw [if_neg named]

/-- The value that a property gives for a key. -/
def valueFor? (key text : String) : Option String :=
  match parse text with
  | .ok (other, value) => if other = key then some value else none
  | .error _ => none

/-- The value that the last property for a key gives. -/
def lastValue? (texts : List String) (key : String) : Option String :=
  (texts.filterMap (valueFor? key)).getLast?

/-- What is wrong with properties, in their order. -/
def faults (texts : List String) : List Error := texts.filterMap fun text => fault? (parse text)

theorem valueFor?_eq_some_iff {key text value : String} :
    valueFor? key text = some value ↔ Gives text key value := by
  rw [← parse_eq_ok_iff, valueFor?]
  cases parse text with
  | error error => simp
  | ok entry => simp [Prod.ext_iff]

theorem valueFor?_eq_none_iff {key text : String} :
    valueFor? key text = none ↔ ∀ value, ¬ Gives text key value := by
  rw [Option.eq_none_iff_forall_not_mem]
  exact forall_congr' fun value => not_congr valueFor?_eq_some_iff

theorem lastValue?_eq_none_iff {texts : List String} {key : String} :
    lastValue? texts key = none ↔ ∀ text ∈ texts, ∀ value, ¬ Gives text key value := by
  rw [lastValue?, List.getLast?_eq_none_iff, List.filterMap_eq_nil_iff]
  exact forall₂_congr fun text _ => valueFor?_eq_none_iff

theorem lastValue?_cons (text : String) (texts : List String) (key : String) :
    lastValue? (text :: texts) key = (lastValue? texts key).or (valueFor? key text) := by
  cases given : valueFor? key text with
  | none => rw [lastValue?, List.filterMap_cons_none given, Option.or_none, lastValue?]
  | some value =>
      rw [lastValue?, List.filterMap_cons_some given, List.getLast?_cons, lastValue?]
      cases (texts.filterMap (valueFor? key)).getLast? <;> rfl

theorem lastValue?_append (texts more : List String) (key : String) :
    lastValue? (texts ++ more) key = (lastValue? more key).or (lastValue? texts key) := by
  rw [lastValue?, List.filterMap_append, List.getLast?_append, lastValue?, lastValue?]

theorem lastValue?_eq_some_iff {texts : List String} {key value : String} :
    lastValue? texts key = some value ↔ LastGives texts key value := by
  constructor
  · intro last
    induction texts with
    | nil => cases last
    | cons text texts ih =>
        rw [lastValue?_cons] at last
        cases later : lastValue? texts key with
        | some _ =>
            rw [later, Option.some_or] at last
            obtain ⟨before, giver, after, rfl, gives, others⟩ := ih (later.trans last)
            exact ⟨text :: before, giver, after, rfl, gives, others⟩
        | none =>
            rw [later, Option.none_or] at last
            exact ⟨[], text, texts, rfl, valueFor?_eq_some_iff.mp last,
              lastValue?_eq_none_iff.mp later⟩
  · rintro ⟨before, text, after, rfl, gives, others⟩
    rw [lastValue?_append, lastValue?_cons, lastValue?_eq_none_iff.mpr others,
      valueFor?_eq_some_iff.mpr gives]
    rfl

theorem faults_eq_nil_iff {texts : List String} :
    faults texts = [] ↔ ∀ text ∈ texts, ∃ key value, Gives text key value := by
  rw [faults, List.filterMap_eq_nil_iff]
  refine forall₂_congr fun text _ => ?_
  rw [fault?_eq_none_iff, Prod.exists]
  simp only [parse_eq_ok_iff]

section Dropping

variable {before after : List String} {text key value : String}

/-- A property is nothing to other keys, and nothing to its own if a later one gives a value
for it. -/
theorem lastValue?_without (gives : Gives text key value) {wanted : String}
    (needless : wanted ≠ key ∨ ∃ later ∈ after, ∃ value, Gives later wanted value) :
    lastValue? (before ++ after) wanted = lastValue? (before ++ text :: after) wanted := by
  rw [lastValue?_append, lastValue?_append, lastValue?_cons]
  rcases needless with differs | ⟨later, inside, other, again⟩
  · have nothing : valueFor? wanted text = none := by
      rw [valueFor?, parse_eq_ok_iff.mpr gives]
      exact if_neg (Ne.symm differs)
    rw [nothing, Option.or_none]
  · cases last : lastValue? after wanted with
    | none => exact absurd again (lastValue?_eq_none_iff.mp last later inside other)
    | some _ => rw [Option.some_or, Option.some_or, Option.some_or]

/-- A property that gives a value for a key is no fault. -/
theorem faults_without (gives : Gives text key value) :
    faults (before ++ after) = faults (before ++ text :: after) := by
  have fine : fault? (parse text) = none := fault?_eq_none_iff.mpr ⟨_, parse_eq_ok_iff.mpr gives⟩
  rw [faults, faults, List.filterMap_append, List.filterMap_append,
    List.filterMap_cons_none (f := fun text => fault? (parse text)) fine]

end Dropping

/-- Of several values for a key the last one is found. -/
theorem settles_parseOnto (properties : Catalog String) (texts : List String) :
    Settles (parseOnto properties texts) (faults texts) fun read =>
      ∀ key, read.find? key = (lastValue? texts key).or (properties.find? key) := by
  induction texts generalizing properties with
  | nil => exact .ok fun key => rfl
  | cons text texts ih =>
      rw [faults, List.filterMap_eq_flatMap_toList, List.flatMap_cons,
        ← List.filterMap_eq_flatMap_toList]
      refine (Settles.self (parse text)).bind fun entry parsed => ?_
      refine (ih (properties.insert entry.1 entry.2)).imp fun read found key => ?_
      have gives : valueFor? key text = if entry.1 = key then some entry.2 else none := by
        rw [valueFor?, parsed]
      rw [found key, lastValue?_cons, Catalog.find?_insert, gives, Option.or_assoc]
      by_cases same : entry.1 = key
      · rw [if_pos same, if_pos same.symm, Option.some_or]
      · rw [if_neg same, if_neg (Ne.symm same), Option.none_or]

end Property

/-! ### Sources of values -/

namespace Setting

/-- The key of a setting in documents. -/
def documentKey : Setting → String
  | vnodeSeed => "vnode_ip"
  | nodeSeed => "node_ip"
  | numbering => "id_numbering"
  | layout => "layout"

/-- The key of a setting in properties. -/
def propertyKey : Setting → String
  | vnodeSeed => Property.vnodeSeedKey
  | nodeSeed => Property.nodeSeedKey
  | numbering => Property.numberingKey
  | layout => Property.layoutKey

/-- The name of the option for a setting. -/
def optionName : Setting → String
  | vnodeSeed => "--vnode-ip"
  | nodeSeed => "--node-ip"
  | numbering => "--id-numbering"
  | layout => "--layout"

/-- The text that the option for a setting gives. -/
def option? (arguments : CommandLine.Arguments) : Setting → Option String
  | vnodeSeed => arguments.vnodeSeed?
  | nodeSeed => arguments.nodeSeed?
  | numbering => arguments.numbering?
  | layout => arguments.layout?

/-- The value that an item of a document stands for. -/
def ofItem : (setting : Setting) → Toml.Item → Except Settings.Misfit setting.Value
  | vnodeSeed | nodeSeed => Settings.address
  | numbering => Settings.chosen Numbering.all Numbering.name
  | layout => Settings.chosen Layout.all Layout.name

theorem documentKey_injective {setting other : Setting}
    (same : setting.documentKey = other.documentKey) : setting = other := by
  cases setting <;> cases other <;> first | rfl | exact absurd same (by decide)

end Setting

/-! ### Documents -/

namespace Settings

/-- The value that an entry of a document gives for a setting. -/
def statedBy? (setting : Setting) (entry : Toml.Key × Toml.Item) : Option setting.Value :=
  if entry.1.name = setting.documentKey then (setting.ofItem entry.2).toOption else none

/-- The value that entries of a document give for a setting, the last of them if there are
several. -/
def stated? (entries : List (Toml.Key × Toml.Item)) (setting : Setting) :
    Option setting.Value :=
  (entries.filterMap (statedBy? setting)).getLast?

/-- An entry is for one setting, or it is for none and ignored. -/
theorem applyEntry_cases (settings : Settings) (key : Toml.Key) (item : Toml.Item) :
    (∃ setting : Setting, key.name = setting.documentKey ∧
      settings.applyEntry key item = (setting.ofItem item).map (settings.set setting)) ∨
    ((∀ setting : Setting, key.name ≠ setting.documentKey) ∧
      settings.applyEntry key item = .ok settings) := by
  unfold applyEntry
  split
  · exact Or.inl ⟨.vnodeSeed, ‹_›, rfl⟩
  · split
    · exact Or.inl ⟨.nodeSeed, ‹_›, rfl⟩
    · split
      · exact Or.inl ⟨.numbering, ‹_›, rfl⟩
      · split
        · exact Or.inl ⟨.layout, ‹_›, rfl⟩
        · refine Or.inr ⟨fun setting => ?_, rfl⟩
          cases setting <;> assumption

/-- An entry that is accepted gives its value to its setting and leaves the others alone. -/
theorem get_of_applyEntry {settings after : Settings} {key : Toml.Key} {item : Toml.Item}
    (applied : settings.applyEntry key item = .ok after) (setting : Setting) :
    after.get setting = (statedBy? setting (key, item)).getD (settings.get setting) := by
  unfold statedBy?
  rcases settings.applyEntry_cases key item with ⟨own, named, step⟩ | ⟨foreign, step⟩
  · rw [step] at applied
    cases read : own.ofItem item with
    | error misfit =>
        rw [read] at applied
        cases applied
    | ok value =>
        rw [read] at applied
        obtain rfl := Except.ok.inj applied
        by_cases same : setting = own
        · subst same
          rw [if_pos named, read, get_set]
          rfl
        · have other : key.name ≠ setting.documentKey := fun also =>
            same (Setting.documentKey_injective (also.symm.trans named))
          rw [if_neg other, get_set_of_ne _ same, Option.getD_none]
  · rw [step] at applied
    obtain rfl := Except.ok.inj applied
    rw [if_neg (foreign setting), Option.getD_none]

/-- Entries that are accepted give every setting the value that they state, or leave it as it
is. -/
theorem get_of_applyEntries {settings after : Settings} {entries : List (Toml.Key × Toml.Item)}
    (applied : settings.applyEntries entries = .ok after) (setting : Setting) :
    after.get setting = (stated? entries setting).getD (settings.get setting) := by
  induction entries generalizing settings with
  | nil =>
      obtain rfl := Except.ok.inj applied
      rfl
  | cons entry entries ih =>
      obtain ⟨key, item⟩ := entry
      rw [applyEntries] at applied
      cases step : settings.applyEntry key item with
      | error misfit =>
          rw [step] at applied
          cases applied
      | ok middle =>
          rw [step] at applied
          rw [ih applied, get_of_applyEntry step setting]
          unfold stated?
          cases own : statedBy? setting (key, item) with
          | none => rw [List.filterMap_cons_none own, Option.getD_none]
          | some value =>
              rw [List.filterMap_cons_some own, List.getLast?_cons, Option.getD_some,
                Option.getD_some]

end Settings

namespace CommandLine

/-- The value that a document gives for a setting. -/
def SettingsFile.stated? (file : SettingsFile) (setting : Setting) : Option setting.Value :=
  match file.contents with
  | .ok text =>
    (Toml.parse text.toList).toOption.bind fun root => Settings.stated? root.entries setting
  | .error _ => none

/-- The settings in a document are what it states, and as by default where it states
nothing. -/
theorem SettingsFile.get_settings {file : SettingsFile} {settings : Settings}
    (loaded : file.settings = .ok settings) (setting : Setting) :
    settings.get setting = (file.stated? setting).getD (({} : Settings).get setting) := by
  unfold SettingsFile.settings at loaded
  unfold SettingsFile.stated?
  cases read : file.contents with
  | error fault =>
      rw [read] at loaded
      cases loaded
  | ok text =>
      rw [read] at loaded
      simp only [Settings.ofDocument] at loaded
      dsimp only
      cases parsed : Toml.parse text.toList with
      | error report =>
          rw [parsed] at loaded
          cases loaded
      | ok root =>
          rw [parsed] at loaded
          dsimp only at loaded
          cases applied : Settings.applyEntries {} root.entries with
          | error misfit =>
              rw [applied] at loaded
              cases loaded
          | ok after =>
              rw [applied] at loaded
              obtain rfl := Except.ok.inj loaded
              exact Settings.get_of_applyEntries applied setting

end CommandLine

end ClusterTopology
