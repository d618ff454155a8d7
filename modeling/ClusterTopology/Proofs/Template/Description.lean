import ClusterTopology.Proofs.Template.Reader

/-!
What records describe.

`Describes` says which template a record describes by way of what the template looks like as
JSON: the record has the members that the template has, whatever other members it has. A
record is accepted exactly as the template that it describes (`ofRecord_eq_ok_iff`). Its kind
is read twice, by name and by tag, and the second reading gives what the first one gave
(`tagged_of_kind`).
-/

namespace ClusterTopology

/-- A record has a member with this value. The pods of a service without any may be left
out. -/
def Carries (record : Json) (kind : Kind) (entry : String × Json) : Prop :=
  record.member? entry.1 = some entry.2 ∨
    kind = .service ∧ entry = ("pods", .ofTexts []) ∧ record.member? entry.1 = none

/-- A record describes a template: it has the members of the template, whatever other members
it has. -/
structure Describes (record : Json) (template : Template) : Prop where
  kind_eq : record.member? "kind" = some (.ofText template.kind.name)
  key_eq : record.member? "key" = some (.ofText template.key)
  attributes : ∀ entry ∈ template.attributes, Carries record template.kind entry

/-! ### Records -/

section Records

variable {record : Json} {kind : Kind}

/-- Only the pods of a service may be left out. -/
theorem carries_iff (expanded : kind ≠ .service) {entry : String × Json} :
    Carries record kind entry ↔ record.member? entry.1 = some entry.2 :=
  or_iff_left fun leftOut => expanded leftOut.1

theorem carries_service_iff {pods : List String} :
    Carries record .service ("pods", .ofTexts pods) ↔
      record.member? "pods" = some (.ofTexts pods) ∨
        pods = [] ∧ record.member? "pods" = none := by
  simp [Carries, Json.ofTexts]

theorem kind_of_ofMembers {members : Json.Members} {template : Template}
    (accepted : Record.ofMembers kind members = .ok template) : template.kind = kind := by
  cases kind <;> obtain ⟨_, -, rfl⟩ := Record.map_eq_ok_iff.mp accepted <;> rfl

/-- Members describe a template of their kind when they are the members of the template. -/
theorem ofMembers_eq_ok_iff {members : Json.Members} {template : Template} :
    Record.ofMembers template.kind members = .ok template ↔
      (Json.object members).member? "key" = some (.ofText template.key) ∧
        ∀ entry ∈ template.attributes, Carries (.object members) template.kind entry := by
  cases template with
  | container template =>
      simp [Record.ofMembers, Record.map_eq_ok_iff, Record.container_eq_ok_iff, Template.kind,
        Template.key, Template.attributes, carries_iff, Json.member?]
  | pod template =>
      simp [Record.ofMembers, Record.map_eq_ok_iff, Record.pod_eq_ok_iff, Template.kind,
        Template.key, Template.attributes, carries_iff, Json.member?]
  | vnode template =>
      simp [Record.ofMembers, Record.map_eq_ok_iff, Record.vnode_eq_ok_iff, Template.kind,
        Template.key, Template.attributes, carries_iff, Json.member?]
  | node template =>
      simp [Record.ofMembers, Record.map_eq_ok_iff, Record.node_eq_ok_iff, Template.kind,
        Template.key, Template.attributes, carries_iff, Json.member?]
  | service template =>
      simp [Record.ofMembers, Record.map_eq_ok_iff, Record.service_eq_ok_iff, Template.kind,
        Template.key, Template.attributes, carries_service_iff, Json.member?]

/-! The kind of a record is looked at before anything else. -/

theorem ofRecord_of_noKind (absent : record.member? "kind" = none) :
    Template.ofRecord record = .error .noKind := by
  cases record with
  | object members =>
      have nothing : members.lookup "kind" = none := absent
      simp only [Template.ofRecord, nothing]
  | null | boolean | number | string | array => rfl

theorem exists_members_of_kind {value : Json} (found : record.member? "kind" = some value) :
    ∃ members, record = .object members ∧ members.lookup "kind" = some value := by
  cases record with
  | object members => exact ⟨members, rfl, found⟩
  | null | boolean | number | string | array => cases found

theorem ofRecord_of_kindNotText {value : Json} (found : record.member? "kind" = some value)
    (notText : ∀ name, value ≠ .string name) :
    Template.ofRecord record = .error (.kindNotText value) := by
  obtain ⟨members, rfl, tagged⟩ := exists_members_of_kind found
  cases value with
  | string name => exact absurd rfl (notText name)
  | null | boolean | number | array | object => simp only [Template.ofRecord, tagged]

theorem ofRecord_of_unknownKind {name : String}
    (found : record.member? "kind" = some (.string name))
    (unknown : ∀ kind : Kind, name ≠ kind.name) :
    Template.ofRecord record = .error (.unknownKind name) := by
  obtain ⟨members, rfl, tagged⟩ := exists_members_of_kind found
  have nothing : Kind.ofName? name = none := by
    cases read : Kind.ofName? name with
    | none => rfl
    | some kind => exact absurd (Kind.ofName?_eq_some_iff.mp read) (unknown kind)
  simp only [Template.ofRecord, tagged, nothing]

/-- A kind that is known by its name is known by its tag. -/
theorem tagged_of_kind {members : Json.Members}
    (found : members.lookup "kind" = some (.string kind.name)) :
    Record.tagged members = .ok kind := by
  have known : Kind.ofTag? kind.name = some kind := Kind.ofTag?_eq_some_iff.mpr rfl
  simp only [Record.tagged, found, known]

/-- Under a kind that is known all depends on the members of that kind. -/
theorem ofRecord_of_kind (found : record.member? "kind" = some (.string kind.name)) :
    ∃ members, record = .object members ∧ Record.tagged members = .ok kind ∧
      Template.ofRecord record = (Record.ofMembers kind members).mapError (.misshapen kind) := by
  obtain ⟨members, rfl, named⟩ := exists_members_of_kind found
  have known : Kind.ofName? kind.name = some kind := Kind.ofName?_eq_some_iff.mpr rfl
  have tagged := tagged_of_kind named
  refine ⟨members, rfl, tagged, ?_⟩
  simp only [Template.ofRecord, named, known, Record.ofTagged, tagged]
  rfl

/-- A record has no kind, or none that is text, or none that is known, or one of the five. -/
theorem kind_cases (record : Json) :
    record.member? "kind" = none ∨
      (∃ value, record.member? "kind" = some value ∧ ∀ name, value ≠ .string name) ∨
      (∃ name, record.member? "kind" = some (.string name) ∧ ∀ kind : Kind, name ≠ kind.name) ∨
      ∃ kind : Kind, record.member? "kind" = some (.string kind.name) := by
  cases found : record.member? "kind" with
  | none => exact Or.inl rfl
  | some value =>
      cases value with
      | string name =>
          right; right
          by_cases known : ∃ kind : Kind, name = kind.name
          · obtain ⟨kind, rfl⟩ := known
            exact Or.inr ⟨kind, rfl⟩
          · exact Or.inl ⟨name, rfl, fun kind same => known ⟨kind, same⟩⟩
      | null | boolean | number | array | object => exact Or.inr (Or.inl ⟨_, rfl, nofun⟩)

/-- A record is accepted as a template exactly when it describes it. -/
theorem ofRecord_eq_ok_iff {template : Template} :
    Template.ofRecord record = .ok template ↔ Describes record template := by
  constructor
  · intro accepted
    rcases kind_cases record with absent | ⟨value, found, notText⟩ | ⟨name, found, unknown⟩ |
        ⟨kind, found⟩
    · rw [ofRecord_of_noKind absent] at accepted
      cases accepted
    · rw [ofRecord_of_kindNotText found notText] at accepted
      cases accepted
    · rw [ofRecord_of_unknownKind found unknown] at accepted
      cases accepted
    · obtain ⟨members, rfl, -, whole⟩ := ofRecord_of_kind found
      rw [whole] at accepted
      cases read : Record.ofMembers kind members with
      | error fault =>
          rw [read] at accepted
          cases accepted
      | ok other =>
          rw [read] at accepted
          obtain rfl := Except.ok.inj accepted
          obtain rfl := kind_of_ofMembers read
          obtain ⟨key, own⟩ := ofMembers_eq_ok_iff.mp read
          exact ⟨found, key, own⟩
  · intro describes
    obtain ⟨members, rfl, -, whole⟩ := ofRecord_of_kind describes.kind_eq
    rw [whole, ofMembers_eq_ok_iff.mpr ⟨describes.key_eq, describes.attributes⟩]
    rfl

end Records

end ClusterTopology
