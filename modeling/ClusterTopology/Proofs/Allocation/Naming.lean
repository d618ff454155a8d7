import Mathlib.Data.List.Nodup
import ClusterTopology.Proofs.Allocation.Identifier

/-!
The ids that one allocator gives for a sequence of keys.

`getElem?_idsFor` says of an allocator in any state which id it gives at every place,
and `idsFor_fresh` of a fresh one that these are the keys with their numbers, that none
comes twice and that each can be read back, whatever the keys contain.
-/

namespace ClusterTopology

/-- The number of the key at a place among keys: how many keys there are up to there, or
how many that are equal to it. -/
def Numbering.numberAt (numbering : Numbering) (keys : List String) (place : Nat)
    (key : String) : Nat :=
  match numbering with
  | .shared => place + 1
  | .perKey => (keys.take (place + 1)).count key

/-- A key that comes again has a greater number. -/
theorem Numbering.numberAt_lt (numbering : Numbering) {keys : List String}
    {place later : Nat} {key : String} (before : place < later)
    (keyAt : keys[later]? = some key) :
    numbering.numberAt keys place key < numbering.numberAt keys later key := by
  cases numbering with
  | shared => exact Nat.succ_lt_succ before
  | perKey =>
      have front : (keys.take (place + 1)).count key ≤ (keys.take later).count key :=
        (List.take_sublist_take_left before).count_le key
      have here : (keys.take (later + 1)).count key = (keys.take later).count key + 1 := by
        rw [List.take_add_one, keyAt, List.count_append]
        simp
      simp only [numberAt]
      omega

namespace IdAllocator

/-- The ids for these keys, issued in order. -/
def idsFor (ids : IdAllocator) : List String → List String
  | [] => []
  | key :: keys => (ids.allocate key).1 :: idsFor (ids.allocate key).2 keys

/-- The id at a place bears the next number of its key after the keys before. -/
theorem getElem?_idsFor (ids : IdAllocator) (keys : List String) (place : Nat) :
    (ids.idsFor keys)[place]? = keys[place]?.map fun key =>
      idOf key ((ids.issueAll (keys.take place)).lastNumber key + 1) := by
  induction keys generalizing ids place with
  | nil => rfl
  | cons first keys ih =>
      cases place with
      | zero =>
          rw [idsFor, List.getElem?_cons_zero, id_allocate]
          rfl
      | succ place =>
          rw [idsFor, List.getElem?_cons_succ, ih]
          rfl

section Fresh

variable (kind : Kind) (numbering : Numbering) (keys : List String)

/-- A fresh allocator gives the keys with their numbers. -/
theorem idsFor_eq_mapIdx :
    ({ kind, numbering } : IdAllocator).idsFor keys =
      keys.mapIdx fun place key => idOf key (numbering.numberAt keys place key) := by
  refine List.ext_getElem? fun place => ?_
  rw [getElem?_idsFor, List.getElem?_mapIdx]
  cases keyAt : keys[place]? with
  | none => rfl
  | some key =>
      have inside : place < keys.length := (List.getElem?_eq_some_iff.mp keyAt).1
      have number : (({ kind, numbering } : IdAllocator).issueAll
          (keys.take place)).lastNumber key + 1 = numbering.numberAt keys place key := by
        rw [lastNumber_issueAll]
        cases numbering with
        | shared =>
            simp only [Numbering.numberAt, List.length_take]
            omega
        | perKey =>
            rw [Numbering.numberAt, List.take_add_one, keyAt, List.count_append]
            simp [issuedFor]
      rw [Option.map_some, Option.map_some, number]

/-- No id comes twice. -/
theorem nodup_idsFor : (({ kind, numbering } : IdAllocator).idsFor keys).Nodup := by
  rw [idsFor_eq_mapIdx, List.nodup_iff_getElem?_ne_getElem?]
  intro place later before inside same
  rw [List.length_mapIdx] at inside
  have early := List.getElem?_eq_getElem (Nat.lt_trans before inside)
  have late := List.getElem?_eq_getElem inside
  rw [List.getElem?_mapIdx, List.getElem?_mapIdx, early, late, Option.map_some,
    Option.map_some] at same
  -- Equal ids have equal keys, and the later of two equal keys has a greater number.
  obtain ⟨sameKey, sameNumber⟩ := idOf_injective (Option.some.inj same)
  rw [sameKey] at sameNumber
  exact absurd sameNumber (Nat.ne_of_lt (numbering.numberAt_lt before late))

/-- Whatever the keys of the calls made of a fresh allocator, the id at every place is the key,
a dash and its number: how many calls there were up to there, or how many for this key. No id
is given twice, key and number are read back off every id at its last dash, and every call is
counted. -/
theorem idsFor_fresh :
    let fresh : IdAllocator := { kind, numbering }
    fresh.idsFor keys =
        keys.mapIdx (fun place key => key ++ "-" ++ toString (numbering.numberAt keys place key)) ∧
      (fresh.idsFor keys).Nodup ∧
      (fresh.idsFor keys).map read? =
        keys.mapIdx (fun place key => some (key, numbering.numberAt keys place key)) ∧
      (fresh.issueAll keys).issued = keys.length := by
  intro fresh
  have closed := idsFor_eq_mapIdx kind numbering keys
  refine ⟨closed, nodup_idsFor kind numbering keys, ?_, ?_⟩
  · refine List.ext_getElem? fun place => ?_
    rw [closed, List.getElem?_map, List.getElem?_mapIdx, List.getElem?_mapIdx, Option.map_map]
    refine Option.map_congr fun key _ => ?_
    exact read?_idOf key _
  · rw [issued_issueAll]
    exact Nat.zero_add _

example : ({ kind := .pod, numbering := .perKey } : IdAllocator).idsFor ["a-1", "a", "a-1", ""] =
    ["a-1-1", "a-1", "a-1-2", "-1"] := by decide

end Fresh

end IdAllocator

end ClusterTopology
