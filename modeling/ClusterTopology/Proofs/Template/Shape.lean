import Mathlib.Data.List.Forall2
import ClusterTopology.Proofs.Template.Description

/-!
The shapes of records.

`WellFormed` says of the shapes of members alone that a record is one of a kind. The members of
a template have the shapes that its kind calls for (`Template.shaped`), and any members of
these shapes are those of some template (`Template.exists_of_shaped`). Hence a record is
well-formed exactly when it describes a template.
-/

namespace ClusterTopology

/-! ### Shapes -/

/-- The shapes that the values of members can have. -/
inductive Form where
  | texts
  | number
  | numbers (length : Nat)
  /-- An integer from 0 to 2^32 - 1. -/
  | count
  deriving DecidableEq, Repr

/-- The values of a shape. -/
def Form.Fits : Form → Json → Prop
  | texts, value => ∃ texts : List String, value = .array (texts.map .string)
  | number, value => ∃ number, value = .number number
  | numbers length, value =>
    ∃ numbers : List Number, numbers.length = length ∧ value = .array (numbers.map .number)
  | count, value => ∃ count : Nat, count ≤ 4294967295 ∧ value = .number (.integer count)

/-- The members that records of a kind have besides kind and key, with their shapes. -/
def Kind.attributes : Kind → List (String × Form)
  | container => [("cpu", .numbers 3), ("mem", .numbers 3), ("qps", .numbers 2)]
  | pod => [("containers", .texts)]
  | vnode => [("cpu", .number), ("mem", .number), ("pods", .texts)]
  | node => [("cpu", .number), ("mem", .number), ("vnodes", .texts), ("num", .count)]
  | service => [("pods", .texts)]

/-- A member with its value has the name and the shape that are called for. -/
def Shaped (entry : String × Json) (wanted : String × Form) : Prop :=
  entry.1 = wanted.1 ∧ wanted.2.Fits entry.2

/-- A record of a kind: it has a key, and its members have the shapes that the kind calls for,
whatever other members it has. A service may leave out its pods. -/
structure WellFormed (record : Json) (kind : Kind) : Prop where
  kind_eq : record.member? "kind" = some (.string kind.name)
  key : ∃ key, record.member? "key" = some (.string key)
  attributes : ∀ entry ∈ kind.attributes,
    (∃ value, record.member? entry.1 = some value ∧ entry.2.Fits value) ∨
      kind = .service ∧ record.member? entry.1 = none

/-! ### What a shape holds -/

namespace Form

theorem fits_texts (held : List String) : texts.Fits (.ofTexts held) := ⟨held, rfl⟩

theorem fits_number (held : Number) : number.Fits (.ofNumber held) := ⟨held, rfl⟩

theorem fits_count (held : UInt32) : count.Fits (.ofCount held) :=
  ⟨held.toNat, Nat.le_of_lt_succ held.toNat_lt_size, rfl⟩

theorem fits_resource (resource : Resource) :
    (numbers 3).Fits (.ofNumbers resource.numbers) :=
  ⟨resource.numbers, rfl, rfl⟩

theorem fits_throughput (throughput : Throughput) :
    (numbers 2).Fits (.ofNumbers throughput.numbers) :=
  ⟨throughput.numbers, rfl, rfl⟩

variable {value : Json}

theorem exists_resource (fits : (numbers 3).Fits value) :
    ∃ resource : Resource, value = .ofNumbers resource.numbers := by
  obtain ⟨held, three, rfl⟩ := fits
  obtain ⟨limit, used, request, rfl⟩ := List.length_eq_three.mp three
  exact ⟨⟨limit, used, request⟩, rfl⟩

theorem exists_throughput (fits : (numbers 2).Fits value) :
    ∃ throughput : Throughput, value = .ofNumbers throughput.numbers := by
  obtain ⟨held, two, rfl⟩ := fits
  obtain ⟨limit, used, rfl⟩ := List.length_eq_two.mp two
  exact ⟨⟨limit, used⟩, rfl⟩

theorem exists_count (fits : count.Fits value) : ∃ count : UInt32, value = .ofCount count := by
  obtain ⟨held, bound, rfl⟩ := fits
  refine ⟨UInt32.ofNat held, ?_⟩
  rw [Json.ofCount, UInt32.toNat_ofNat_of_lt' (Nat.lt_succ_of_le bound)]

end Form

/-! ### Templates of a kind and their members -/

/-- The members of a template have the names and the shapes that its kind calls for. -/
theorem Template.shaped (template : Template) :
    List.Forall₂ Shaped template.attributes template.kind.attributes := by
  cases template with
  | container template =>
      exact .cons ⟨rfl, Form.fits_resource _⟩ <| .cons ⟨rfl, Form.fits_resource _⟩ <|
        .cons ⟨rfl, Form.fits_throughput _⟩ .nil
  | pod template => exact .cons ⟨rfl, Form.fits_texts _⟩ .nil
  | vnode template =>
      exact .cons ⟨rfl, Form.fits_number _⟩ <| .cons ⟨rfl, Form.fits_number _⟩ <|
        .cons ⟨rfl, Form.fits_texts _⟩ .nil
  | node template =>
      exact .cons ⟨rfl, Form.fits_number _⟩ <| .cons ⟨rfl, Form.fits_number _⟩ <|
        .cons ⟨rfl, Form.fits_texts _⟩ <| .cons ⟨rfl, Form.fits_count _⟩ .nil
  | service template => exact .cons ⟨rfl, Form.fits_texts _⟩ .nil

theorem exists_of_shaped_cons {entries : List (String × Json)} {wanted : String × Form}
    {others : List (String × Form)} (shaped : List.Forall₂ Shaped entries (wanted :: others)) :
    ∃ value rest, entries = (wanted.1, value) :: rest ∧ wanted.2.Fits value ∧
      List.Forall₂ Shaped rest others := by
  cases shaped with
  | @cons entry _ rest _ fits shaped => exact ⟨entry.2, rest, by rw [← fits.1], fits.2, shaped⟩

/-- Any members with these names and shapes are those of a template of the kind, with any
key. -/
theorem Template.exists_of_shaped {kind : Kind} {entries : List (String × Json)} (key : String)
    (shaped : List.Forall₂ Shaped entries kind.attributes) : ∃ template : Template,
      template.kind = kind ∧ template.key = key ∧ template.attributes = entries := by
  cases kind with
  | container =>
      obtain ⟨_, _, rfl, cpuFits, rest⟩ := exists_of_shaped_cons shaped
      obtain ⟨_, _, rfl, memFits, last⟩ := exists_of_shaped_cons rest
      obtain ⟨_, _, rfl, qpsFits, ⟨⟩⟩ := exists_of_shaped_cons last
      obtain ⟨cpu, rfl⟩ := Form.exists_resource cpuFits
      obtain ⟨mem, rfl⟩ := Form.exists_resource memFits
      obtain ⟨qps, rfl⟩ := Form.exists_throughput qpsFits
      exact ⟨.container ⟨key, cpu, mem, qps⟩, rfl, rfl, rfl⟩
  | pod =>
      obtain ⟨_, _, rfl, ⟨containers, rfl⟩, ⟨⟩⟩ := exists_of_shaped_cons shaped
      exact ⟨.pod ⟨key, containers⟩, rfl, rfl, rfl⟩
  | vnode =>
      obtain ⟨_, _, rfl, ⟨cpu, rfl⟩, rest⟩ := exists_of_shaped_cons shaped
      obtain ⟨_, _, rfl, ⟨mem, rfl⟩, last⟩ := exists_of_shaped_cons rest
      obtain ⟨_, _, rfl, ⟨pods, rfl⟩, ⟨⟩⟩ := exists_of_shaped_cons last
      exact ⟨.vnode ⟨key, cpu, mem, pods⟩, rfl, rfl, rfl⟩
  | node =>
      obtain ⟨_, _, rfl, ⟨cpu, rfl⟩, rest⟩ := exists_of_shaped_cons shaped
      obtain ⟨_, _, rfl, ⟨mem, rfl⟩, more⟩ := exists_of_shaped_cons rest
      obtain ⟨_, _, rfl, ⟨vnodes, rfl⟩, last⟩ := exists_of_shaped_cons more
      obtain ⟨_, _, rfl, numFits, ⟨⟩⟩ := exists_of_shaped_cons last
      obtain ⟨num, rfl⟩ := Form.exists_count numFits
      exact ⟨.node ⟨key, cpu, mem, vnodes, num⟩, rfl, rfl, rfl⟩
  | service =>
      obtain ⟨_, _, rfl, ⟨pods, rfl⟩, ⟨⟩⟩ := exists_of_shaped_cons shaped
      exact ⟨.service ⟨key, pods⟩, rfl, rfl, rfl⟩

/-! ### Well-formed records -/

section Records

variable {record : Json} {kind : Kind}

theorem exists_of_forall₂ {α β : Type} {R : α → β → Prop} {left : List α} {right : List β}
    (related : List.Forall₂ R left right) {b : β} (member : b ∈ right) : ∃ a ∈ left, R a b := by
  induction related with
  | nil => cases member
  | cons first _ ih =>
      rcases List.mem_cons.mp member with rfl | member
      · exact ⟨_, List.mem_cons_self, first⟩
      · obtain ⟨a, inside, holds⟩ := ih member
        exact ⟨a, List.mem_cons_of_mem _ inside, holds⟩

theorem exists_forall₂ {α β : Type} {R : α → β → Prop} {right : List β}
    (each : ∀ b ∈ right, ∃ a, R a b) : ∃ left, List.Forall₂ R left right := by
  induction right with
  | nil => exact ⟨[], .nil⟩
  | cons b right ih =>
      obtain ⟨first, others⟩ := List.forall_mem_cons.mp each
      obtain ⟨a, related⟩ := first
      obtain ⟨left, rest⟩ := ih others
      exact ⟨a :: left, .cons related rest⟩

theorem Describes.wellFormed {template : Template} (describes : Describes record template) :
    WellFormed record template.kind := by
  refine ⟨describes.kind_eq, ⟨_, describes.key_eq⟩, ?_⟩
  intro wanted member
  obtain ⟨entry, listed, same, fits⟩ := exists_of_forall₂ template.shaped member
  rw [← same]
  rcases describes.attributes entry listed with found | ⟨service, -, absent⟩
  · exact Or.inl ⟨entry.2, found, fits⟩
  · exact Or.inr ⟨service, absent⟩

/-- For each member that the kind calls for the record has a value of its shape. Pods that are
left out are none. -/
theorem WellFormed.exists_entry (formed : WellFormed record kind) {wanted : String × Form}
    (called : wanted ∈ kind.attributes) :
    ∃ entry, Carries record kind entry ∧ Shaped entry wanted := by
  rcases formed.attributes wanted called with ⟨value, found, fits⟩ | ⟨rfl, absent⟩
  · exact ⟨(wanted.1, value), Or.inl found, rfl, fits⟩
  · obtain rfl := List.mem_singleton.mp called
    exact ⟨("pods", .ofTexts []), Or.inr ⟨rfl, rfl, absent⟩, rfl, [], rfl⟩

/-- What is well-formed describes a template, put together from the values of its members. -/
theorem WellFormed.exists_describes (formed : WellFormed record kind) :
    ∃ template, Describes record template := by
  obtain ⟨key, named⟩ := formed.key
  obtain ⟨entries, related⟩ := exists_forall₂ fun _ called => formed.exists_entry called
  obtain ⟨carried, shaped⟩ := (List.forall₂_and_left entries kind.attributes).mp related
  obtain ⟨template, rfl, rfl, rfl⟩ := Template.exists_of_shaped key shaped
  exact ⟨template, formed.kind_eq, named, carried⟩

end Records

end ClusterTopology
