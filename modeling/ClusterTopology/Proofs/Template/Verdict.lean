import ClusterTopology.Proofs.Template.Shape

/-!
The verdict on a record.

A record is accepted exactly when it describes a template, which is when it is well-formed, and
what else can become of it is settled by its kind first: `accept_describes`.
-/

namespace ClusterTopology

/-- What is not accepted is invalid. -/
theorem accept_cases (record : Json) :
    (∃ template, Template.accept record = .ok template ∧ Describes record template) ∨
      ∃ fault, Template.ofRecord record = .error fault ∧
        Template.accept record = .error (.invalid fault.message) := by
  cases verdict : Template.ofRecord record with
  | ok template =>
      refine Or.inl ⟨template, ?_, ofRecord_eq_ok_iff.mp verdict⟩
      rw [Template.accept, verdict]
      rfl
  | error fault =>
      refine Or.inr ⟨fault, rfl, ?_⟩
      rw [Template.accept, verdict]
      rfl

theorem accept_eq_ok_iff {record : Json} {template : Template} :
    Template.accept record = .ok template ↔ Describes record template := by
  rw [← ofRecord_eq_ok_iff, Template.accept]
  cases Template.ofRecord record <;> simp [Except.mapError]

/-- A record is accepted as the one template that it describes, and it describes one exactly
when it is an object of one of the five kinds with a key and with members of the shapes that
the kind calls for. Every other record is refused as invalid, and if its kind is missing, is
not text or is not known then this is what is said, whatever else is wrong with it. A kind
that is known by its name is read again by its tag, as the same kind, since names and tags are
read alike; so what is said then is about the members that the kind calls for. -/
theorem accept_describes (record : Json) :
    (∀ template, Template.accept record = .ok template ↔ Describes record template) ∧
      ((∃ template, Template.accept record = .ok template) ↔ ∃ kind, WellFormed record kind) ∧
      ((¬ ∃ kind, WellFormed record kind) ↔
        ∃ reason, Template.accept record = .error (.invalid reason)) ∧
      (record.member? "kind" = none →
        Template.accept record = .error (.invalid "record has no kind tag")) ∧
      (∀ value, record.member? "kind" = some value → (∀ name, value ≠ .string name) →
        Template.accept record =
          .error (.invalid s!"kind tag must be a string, got {value.print}")) ∧
      (∀ name, record.member? "kind" = some (.string name) →
        (∀ kind : Kind, name ≠ kind.name) →
          Template.accept record = .error (.invalid s!"unknown kind '{name}'")) ∧
      (∀ kind : Kind, record.member? "kind" = some (.string kind.name) →
        ∃ members, record = .object members ∧ Record.tagged members = .ok kind ∧
          (¬ WellFormed record kind → ∃ fault, Record.ofMembers kind members = .error fault ∧
            Template.accept record =
              .error (.invalid s!"invalid {kind.name} record: {fault.message}"))) ∧
      ∀ text, Kind.ofTag? text = Kind.ofName? text := by
  have accepted : (∃ template, Template.accept record = .ok template) ↔
      ∃ kind, WellFormed record kind := by
    constructor
    · rintro ⟨template, taken⟩
      exact ⟨_, (accept_eq_ok_iff.mp taken).wellFormed⟩
    · rintro ⟨kind, formed⟩
      obtain ⟨template, describes⟩ := formed.exists_describes
      exact ⟨template, accept_eq_ok_iff.mpr describes⟩
  refine ⟨fun _ => accept_eq_ok_iff, accepted, ?_, ?_, ?_, ?_, ?_, Kind.ofTag?_eq_ofName?⟩
  · rw [← accepted]
    constructor
    · intro refused
      rcases accept_cases record with ⟨template, taken, -⟩ | ⟨fault, -, invalid⟩
      · exact absurd ⟨template, taken⟩ refused
      · exact ⟨_, invalid⟩
    · rintro ⟨reason, invalid⟩ ⟨template, taken⟩
      rw [invalid] at taken
      cases taken
  · intro absent
    rw [Template.accept, ofRecord_of_noKind absent]
    rfl
  · intro value found notText
    rw [Template.accept, ofRecord_of_kindNotText found notText]
    rfl
  · intro name found unknown
    rw [Template.accept, ofRecord_of_unknownKind found unknown]
    rfl
  · intro kind found
    obtain ⟨members, rfl, tagged, whole⟩ := ofRecord_of_kind found
    refine ⟨members, rfl, tagged, fun misshapen => ?_⟩
    cases read : Record.ofMembers kind members with
    | ok template =>
        rw [read] at whole
        have describes := ofRecord_eq_ok_iff.mp whole
        obtain rfl := kind_of_ofMembers read
        exact absurd describes.wellFormed misshapen
    | error fault =>
        refine ⟨fault, rfl, ?_⟩
        rw [Template.accept, whole, read]
        rfl

/-- Records without a kind, with one that is no text, with one that is unknown, and with one
that the other members do not fit; and a service that leaves out its pods and has a member of
its own. -/
theorem accept_describes_services :
    let untagged := Json.object [("key", .null)]
    let numbered := Json.object [("key", .null), ("kind", .number (.integer 5))]
    let switch := Json.object [("key", .null), ("kind", .string "switch")]
    let keyless := Json.object [("kind", .string "service")]
    let bare := Json.object [("key", .string "s"), ("kind", .string "service"), ("weight", .null)]
    Template.accept untagged = .error (.invalid "record has no kind tag") ∧
      Template.accept numbered = .error (.invalid "kind tag must be a string, got 5") ∧
      Template.accept switch = .error (.invalid "unknown kind 'switch'") ∧
      Template.accept keyless =
        .error (.invalid "invalid service record: missing field `key`") ∧
      Template.accept bare = .ok (.service ⟨"s", []⟩) := by
  intro untagged numbered switch keyless bare
  obtain ⟨-, -, -, noKind, -⟩ := accept_describes untagged
  obtain ⟨-, -, -, -, notText, -⟩ := accept_describes numbered
  obtain ⟨-, -, -, -, -, unknown, -⟩ := accept_describes switch
  obtain ⟨-, -, -, -, -, -, tagged, -⟩ := accept_describes keyless
  obtain ⟨members, same, -, misshapen⟩ := tagged .service rfl
  obtain rfl := Json.object.inj same
  have nameless : ¬ WellFormed keyless .service := by
    rintro ⟨-, ⟨key, held⟩, -⟩
    cases held
  obtain ⟨fault, read, refused⟩ := misshapen nameless
  obtain rfl : .missing "key" = fault := Except.error.inj read
  obtain ⟨accepted, -⟩ := accept_describes bare
  refine ⟨noKind rfl, notText _ rfl ?_, unknown _ rfl ?_, refused,
    (accepted _).mpr ⟨rfl, rfl, ?_⟩⟩
  · rintro name ⟨⟩
  · intro kind
    cases kind <;> decide
  · simp only [Template.attributes, List.forall_mem_cons]
    exact ⟨Or.inr ⟨rfl, rfl, rfl⟩, List.forall_mem_nil _⟩

end ClusterTopology
