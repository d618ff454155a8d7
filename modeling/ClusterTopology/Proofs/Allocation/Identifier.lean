import ClusterTopology.Allocation.Identifier
import ClusterTopology.Text.Lines

/-!
The ids of one allocator.

`read?_idOf`: key and number can be read off an id, whatever the key contains, since
the number is what follows the last dash; so an id has one reading
(`idOf_injective`). `lastNumber` is the number borne by the last id of a key;
`id_allocate` and `lastNumber_allocate` say that numbers run on from it without gaps,
and `lastNumber_issueAll` where they are after any sequence of keys.
-/

namespace ClusterTopology.IdAllocator

/-! ### Reading an id back -/

/-- The text before and after the last separator; nothing if there is none. -/
def splitLast? (separator : Char) (text : List Char) : Option (List Char × List Char) :=
  (Text.cutFirst? (· == separator) text.reverse).map fun (after, before) =>
    (before.reverse, after.reverse)

/-- What follows the last separator holds none. -/
theorem splitLast?_eq_some_iff {separator : Char} {text before after : List Char} :
    splitLast? separator text = some (before, after) ↔
      separator ∉ after ∧ text = before ++ separator :: after := by
  rw [splitLast?, Option.map_eq_some_iff]
  constructor
  · rintro ⟨⟨back, front⟩, found, same⟩
    obtain ⟨rfl, rfl⟩ := Prod.mk.inj same
    obtain ⟨whole, clean⟩ := Text.cutFirst?_mark_eq_some_iff.mp found
    rw [List.mem_reverse]
    exact ⟨clean, by simpa using congrArg List.reverse whole⟩
  · rintro ⟨clean, rfl⟩
    refine ⟨(after.reverse, before.reverse), ?_, by simp⟩
    rw [Text.cutFirst?_mark_eq_some_iff, List.mem_reverse]
    exact ⟨by simp, clean⟩

/-- The key and the number of an id, which its last dash divides. -/
def read? (id : String) : Option (String × Nat) :=
  (splitLast? '-' id.toList).map fun (key, digits) =>
    (String.ofList key, Nat.ofDigitChars 10 digits 0)

/-- A decimal number contains no dash. -/
theorem dash_notMem_toDigits (number : Nat) : '-' ∉ Nat.toDigits 10 number := by
  intro inside
  have digit := Nat.isDigit_of_mem_toDigits (by decide) (by decide) inside
  exact absurd digit (by decide)

/-- Key and number can be read off an id. The key may contain dashes and digits. -/
theorem read?_idOf (key : String) (number : Nat) :
    read? (idOf key number) = some (key, number) := by
  have divided : splitLast? '-' (idOf key number).toList =
      some (key.toList, Nat.toDigits 10 number) := by
    refine splitLast?_eq_some_iff.mpr ⟨dash_notMem_toDigits number, ?_⟩
    simp [idOf, Nat.toString_eq_repr, Nat.toList_repr]
  rw [read?, divided, Option.map_some]
  dsimp only
  rw [String.ofList_toList, Nat.ofDigitChars_ten_toDigits]

/-- An id has one reading as a key and a number. -/
theorem idOf_injective {key key' : String} {number number' : Nat}
    (same : idOf key number = idOf key' number') : key = key' ∧ number = number' := by
  have readings := read?_idOf key' number'
  rw [← same, read?_idOf] at readings
  exact Prod.mk.inj (Option.some.inj readings)

/-! ### Numbers -/

/-- The number borne by the last id of a key, or zero before the first. In shared
numbering every key has the number of the last id of all. -/
def lastNumber (ids : IdAllocator) (key : String) : Nat :=
  match ids.numbering with
  | .shared => ids.issued
  | .perKey => ids.issuedFor key

/-- The next id of a key bears the next number. -/
theorem id_allocate (ids : IdAllocator) (key : String) :
    (ids.allocate key).1 = idOf key (ids.lastNumber key + 1) := by
  unfold allocate nextNumber lastNumber
  cases ids.numbering <;> rfl

@[simp] theorem numbering_allocate (ids : IdAllocator) (key : String) :
    (ids.allocate key).2.numbering = ids.numbering := rfl

/-- An id raises the number of its own key by one and lowers no other. -/
theorem lastNumber_allocate (ids : IdAllocator) (key : String) :
    (ids.allocate key).2.lastNumber key = ids.lastNumber key + 1 ∧
      ∀ other, ids.lastNumber other ≤ (ids.allocate key).2.lastNumber other := by
  unfold lastNumber
  rw [numbering_allocate]
  cases mode : ids.numbering with
  | shared => exact ⟨rfl, fun _ => Nat.le_succ _⟩
  | perKey =>
      refine ⟨by simp [issuedFor_allocate mode], fun other => ?_⟩
      simp only [issuedFor_allocate mode]
      split
      · rename_i same
        exact same ▸ Nat.le_succ _
      · exact Nat.le_refl _

/-! ### Sequences of keys -/

/-- The allocator after issuing an id for each of these keys in order. -/
def issueAll (ids : IdAllocator) (keys : List String) : IdAllocator :=
  keys.foldl (fun ids key => (ids.allocate key).2) ids

theorem issueAll_concat (ids : IdAllocator) (keys : List String) (key : String) :
    ids.issueAll (keys ++ [key]) = ((ids.issueAll keys).allocate key).2 := by
  simp [issueAll]

@[simp] theorem numbering_issueAll (ids : IdAllocator) (keys : List String) :
    (ids.issueAll keys).numbering = ids.numbering := by
  induction keys generalizing ids with
  | nil => rfl
  | cons key keys ih => exact ih (ids.allocate key).2

theorem issued_issueAll (ids : IdAllocator) (keys : List String) :
    (ids.issueAll keys).issued = ids.issued + keys.length := by
  induction keys generalizing ids with
  | nil => rfl
  | cons key keys ih =>
      have rest := ih (ids.allocate key).2
      rw [issued_allocate] at rest
      simp only [issueAll, List.foldl_cons, List.length_cons] at rest ⊢
      omega

theorem issuedFor_issueAll {ids : IdAllocator} (mode : ids.numbering = .perKey)
    (keys : List String) (key : String) :
    (ids.issueAll keys).issuedFor key = ids.issuedFor key + keys.count key := by
  induction keys generalizing ids with
  | nil => rfl
  | cons first keys ih =>
      have rest := ih (show (ids.allocate first).2.numbering = .perKey from mode)
      rw [issuedFor_allocate mode] at rest
      simp only [issueAll, List.foldl_cons] at rest ⊢
      rw [rest, List.count_cons]
      by_cases same : key = first
      · subst same
        simp
        omega
      · have differs : (first == key) = false := beq_false_of_ne (Ne.symm same)
        simp [same, differs]

/-- The number of a key after a sequence of keys: in shared numbering every id counts, in
numbering per key those of the key itself. -/
theorem lastNumber_issueAll (ids : IdAllocator) (keys : List String) (key : String) :
    (ids.issueAll keys).lastNumber key = match ids.numbering with
      | .shared => ids.issued + keys.length
      | .perKey => ids.issuedFor key + keys.count key := by
  unfold lastNumber
  rw [numbering_issueAll]
  cases mode : ids.numbering with
  | shared => exact issued_issueAll ids keys
  | perKey => exact issuedFor_issueAll mode keys key

end ClusterTopology.IdAllocator
