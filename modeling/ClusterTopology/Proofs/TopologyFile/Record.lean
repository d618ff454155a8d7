import ClusterTopology.TopologyFile
import ClusterTopology.Proofs.Expansion.Emission

/-!
What a record line is made of.

`recordLine_eq`: every record line joins one flat list of fields, in which the children are
fields like the others. Numbers and addresses are written with plain characters only
(`Number.plain_text`, `Address.plain_text`), so whatever else a field holds comes from a key.
-/

namespace ClusterTopology

/-! ### Plain text -/

namespace Text

/-- The characters that names of kinds, numbers and addresses are written with. -/
def isPlain (c : Char) : Bool := c.isAlphanum || ['-', '+', '.'].contains c

/-- Every character is plain. -/
def Plain (text : List Char) : Prop := ∀ c ∈ text, isPlain c = true

instance (text : List Char) : Decidable (Plain text) :=
  List.decidableBAll (fun c => isPlain c = true) text

variable {text front back : List Char}

@[simp] theorem plain_append : Plain (front ++ back) ↔ Plain front ∧ Plain back :=
  List.forall_mem_append

@[simp] theorem plain_cons {c : Char} : Plain (c :: text) ↔ isPlain c = true ∧ Plain text :=
  List.forall_mem_cons

theorem Plain.subset (plain : Plain text) (within : front ⊆ text) : Plain front :=
  fun c inside => plain c (within inside)

theorem Plain.notMem (plain : Plain text) {c : Char} (special : isPlain c = false) :
    c ∉ text := by
  intro inside
  rw [plain c inside] at special
  cases special

theorem plain_replicate {c : Char} (plain : isPlain c = true) (times : Nat) :
    Plain (List.replicate times c) := by
  intro d inside
  rwa [List.eq_of_mem_replicate inside]

theorem plain_toString (number : Nat) : Plain (toString number).toList := by
  intro c inside
  rw [Nat.toString_eq_repr, Nat.toList_repr] at inside
  simp [isPlain, Char.isAlphanum, Nat.isDigit_of_mem_toDigits (by decide) (by decide) inside]

end Text

/-! ### Numbers and addresses -/

namespace Decimal.Style

open Text

variable {digits : List Char}

theorem plain_withoutTrailingZeros (decimal : Scientific) :
    Plain (withoutTrailingZeros decimal).1 := by
  have all : Plain (toString decimal.digits).toList.reverse :=
    (plain_toString _).subset fun _ => List.mem_reverse.mp
  have kept := all.subset (List.dropWhile_sublist (· == '0')).subset
  exact kept.subset fun _ => List.mem_reverse.mp

theorem plain_placed (plain : Plain digits) (point : Int) : Plain (placed digits point) := by
  have zero : isPlain '0' = true := by decide
  have dot : isPlain '.' = true := by decide
  unfold placed
  split
  · exact plain_cons.mpr ⟨zero, plain_cons.mpr ⟨dot,
      plain_append.mpr ⟨plain_replicate zero _, plain⟩⟩⟩
  · dsimp only
    split
    · exact plain_append.mpr ⟨plain_append.mpr ⟨plain, plain_replicate zero _⟩, by decide⟩
    · exact plain_append.mpr ⟨plain.subset (List.take_subset _ _),
        plain_cons.mpr ⟨dot, plain.subset (List.drop_subset _ _)⟩⟩

theorem plain_withExponent (plain : Plain digits) (point : Int) :
    Plain (withExponent digits point) := by
  unfold withExponent
  refine plain_append.mpr ⟨?_, plain_cons.mpr ⟨by decide, plain_cons.mpr ⟨?_, ?_⟩⟩⟩
  · split
    · obtain ⟨first, rest⟩ := plain_cons.mp plain
      exact plain_cons.mpr ⟨first, plain_cons.mpr ⟨by decide, rest⟩⟩
    · exact plain
  · split <;> decide
  · exact plain_toString _

theorem plain_write (style : Style) (x : Binary64) : Plain (style.write x).toList := by
  have sign : Plain (if x.negative then ['-'] else []) := by
    cases x.negative <;> decide
  have digits := plain_withoutTrailingZeros x.magnitude.shortest
  unfold write
  dsimp only
  split
  · rw [String.toList_ofList]
    exact plain_append.mpr ⟨sign, by decide⟩
  · rw [String.toList_ofList]
    refine plain_append.mpr ⟨sign, ?_⟩
    split
    · exact plain_placed digits _
    · exact plain_withExponent digits _

end Decimal.Style

open Text

theorem Number.plain_text (number : Number) : Plain number.text.toList := by
  cases number with
  | integer value =>
      cases value with
      | ofNat value => exact plain_toString value
      | negSucc value =>
          show Plain ("-" ++ toString (value + 1)).toList
          rw [String.toList_append]
          exact plain_append.mpr ⟨by decide, plain_toString _⟩
  | double value => exact Decimal.Style.plain_write doubleStyle value

theorem Address.plain_text (address : Address) : Plain address.text.toList := by
  have dot : Plain ".".toList := by decide
  simp only [Address.text, octets, List.map_cons, List.map_nil, String.intercalate_cons_cons,
    String.intercalate_singleton, String.toList_append, plain_append, plain_toString, dot,
    and_self]

/-- An id is its key with plain text after it. -/
theorem IdAllocator.exists_toList_idOf (key : String) (number : Nat) :
    ∃ tail, Plain tail ∧ tail ≠ [] ∧ (idOf key number).toList = key.toList ++ tail := by
  refine ⟨'-' :: (toString number).toList, ?_, List.cons_ne_nil _ _, ?_⟩
  · exact plain_cons.mpr ⟨by decide, plain_toString number⟩
  · simp [idOf]

/-! ### Fields -/

/-- The fields of children. An empty field says that there are none. -/
def childFields (children : List String) : List String :=
  if children = [] then [""] else children

/-- Joining children first and then the rest gives what joining all at once gives. -/
theorem intercalate_childFields {own : List String} (some : own ≠ []) (children : List String) :
    fieldSeparator.intercalate (own ++ [fieldSeparator.intercalate children]) =
      fieldSeparator.intercalate (own ++ childFields children) := by
  unfold childFields
  split
  · rename_i none
    rw [none, String.intercalate_nil]
  · rename_i listed
    rw [String.intercalate_append_of_ne_nil some listed,
      String.intercalate_append_of_ne_nil some (List.cons_ne_nil _ _),
      String.intercalate_singleton]

theorem Kind.plain_name (kind : Kind) : Plain kind.name.toList := by
  cases kind <;> decide

namespace Instance

/-- The fields of a record line. -/
def fields (it : Instance) : List String :=
  it.kind.name :: it.id :: (it.attributes.map Number.text ++
    (it.address?.map Address.text).toList ++
    if it.kind = .container then [] else childFields it.children)

theorem recordLine_eq (it : Instance) :
    it.recordLine = fieldSeparator.intercalate it.fields := by
  cases it with
  | container it => rfl
  | pod it => exact intercalate_childFields (List.cons_ne_nil _ _) it.containers
  | vnode it => exact intercalate_childFields (List.cons_ne_nil _ _) it.pods
  | node it => exact intercalate_childFields (List.cons_ne_nil _ _) it.vnodes

theorem mem_fields {it : Instance} {id : String} (held : id ∈ it.id :: it.children) :
    id ∈ it.fields := by
  refine List.mem_cons_of_mem _ ?_
  rcases List.mem_cons.mp held with rfl | listed
  · exact List.mem_cons_self
  · refine List.mem_cons_of_mem _ (List.mem_append_right _ ?_)
    cases it with
    | container it => exact absurd listed List.not_mem_nil
    | pod it | vnode it | node it =>
        unfold childFields
        rwa [if_neg (by simp [kind]), if_neg (List.ne_nil_of_mem listed)]

/-- What holds of plain texts, of the id and of the ids of the children holds of every
field. -/
theorem forall_mem_fields {it : Instance} {holds : List Char → Prop}
    (plain : ∀ text, Plain text → holds text) (id : holds it.id.toList)
    (children : ∀ child ∈ it.children, holds child.toList) :
    ∀ field ∈ it.fields, holds field.toList := by
  have listed : ∀ field ∈ childFields it.children, holds field.toList := by
    unfold childFields
    split
    · exact List.forall_mem_singleton.mpr (plain _ (by decide))
    · exact children
  unfold fields
  refine List.forall_mem_cons.mpr ⟨plain _ it.kind.plain_name, List.forall_mem_cons.mpr ⟨id, ?_⟩⟩
  refine List.forall_mem_append.mpr ⟨List.forall_mem_append.mpr ⟨?_, ?_⟩, ?_⟩
  · exact List.forall_mem_map.mpr fun number _ => plain _ number.plain_text
  · intro field borne
    obtain ⟨address, -, rfl⟩ := Option.map_eq_some_iff.mp (Option.mem_toList.mp borne)
    exact plain _ address.plain_text
  · split
    · exact List.forall_mem_nil _
    · exact listed

end Instance

end ClusterTopology
