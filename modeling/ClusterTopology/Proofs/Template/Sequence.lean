import Mathlib.Data.List.Basic
import Mathlib.Data.List.Induction
import ClusterTopology.Proofs.Template.Shelf

/-!
What a store holds once templates have been put into it one after the other.

Under a kind and a key it holds the last template of that kind and key
(`Store.find?_insertAll`), and the keys of a kind stand in the order in which they first
came (`Store.keys_insertAll`). The order of the templates is forgotten but for these two.
-/

namespace ClusterTopology

/-- Whether a template is of this kind and bears this key. -/
def Template.isUnder (kind : Kind) (key : String) (template : Template) : Bool :=
  template.kind == kind && template.key == key

theorem Template.isUnder_iff {kind : Kind} {key : String} {template : Template} :
    template.isUnder kind key = true ↔ template.kind = kind ∧ template.key = key := by
  simp [isUnder]

/-- The keys of the templates of a kind, in the order in which they first come. -/
def firstKeys (kind : Kind) (templates : List Template) : List String :=
  ((templates.filter fun template => template.kind == kind).map Template.key).eraseDups

/-- One key more goes to the end, unless it came before. -/
theorem eraseDups_concat (keys : List String) (key : String) :
    (keys ++ [key]).eraseDups =
      if key ∈ keys then keys.eraseDups else keys.eraseDups ++ [key] := by
  rw [List.eraseDups_append]
  by_cases known : key ∈ keys <;> simp [List.removeAll, known, List.eraseDups_cons]

namespace Store

/-- Put templates into a store in order. -/
def insertAll (store : Store) (templates : List Template) : Store :=
  templates.foldl Store.insert store

/-- The register of the templates of a kind. -/
def register (store : Store) : Kind → Register Template
  | .container => store.containers.map .container
  | .pod => store.pods.map .pod
  | .vnode => store.vnodes.map .vnode
  | .node => store.nodes.map .node
  | .service => store.services.map .service

/-- The register of every kind is in step. -/
theorem inStep (store : Store) (kind : Kind) : (store.register kind).InStep := by
  cases kind with
  | container => exact store.containers.inStep.map _
  | pod => exact store.pods.inStep.map _
  | vnode => exact store.vnodes.inStep.map _
  | node => exact store.nodes.inStep.map _
  | service => exact store.services.inStep.map _

theorem find?_register (store : Store) (kind : Kind) :
    (store.register kind).find? = store.find? kind := by
  cases kind <;> rfl

theorem contains_register (store : Store) (kind : Kind) :
    (store.register kind).contains = store.contains kind := by
  funext key
  rw [contains_eq_isSome_find?, Register.contains, find?_register]

/-- The keys of the templates of a kind, in order. -/
def keys (store : Store) (kind : Kind) : List String := (store.register kind).order

theorem contains_iff_mem_keys {store : Store} {kind : Kind} {key : String} :
    store.contains kind key = true ↔ key ∈ store.keys kind := by
  rw [keys, (store.inStep kind).mem_order_iff, contains_register]

theorem insertAll_concat (store : Store) (templates : List Template) (template : Template) :
    store.insertAll (templates ++ [template]) = (store.insertAll templates).insert template := by
  simp [insertAll]

/-- An insertion is one into the register of its kind, and leaves the others alone. -/
theorem register_insert (store : Store) (template : Template) (kind : Kind) :
    (store.insert template).register kind =
      if template.kind = kind then (store.register kind).insert template.key template
      else store.register kind := by
  cases template <;> cases kind <;> first | exact Register.map_insert _ _ _ | rfl

/-- An insertion changes the look-up of its own kind and key only. -/
theorem find?_insert (store : Store) (template : Template) (kind : Kind) (key : String) :
    (store.insert template).find? kind key =
      if template.isUnder kind key then some template else store.find? kind key := by
  rw [← find?_register, ← find?_register, register_insert]
  by_cases own : template.kind = kind
  · rw [if_pos own, Register.find?_insert]
    exact if_congr (by simp [Template.isUnder_iff, own, @eq_comm _ key]) rfl rfl
  · rw [if_neg own, if_neg fun under => own (Template.isUnder_iff.mp under).1]

/-- A new key goes to the end of those of its kind; a known one stays where it is. -/
theorem keys_insert (store : Store) (template : Template) (kind : Kind) :
    (store.insert template).keys kind =
      if template.kind = kind ∧ template.key ∉ store.keys kind then
        store.keys kind ++ [template.key]
      else store.keys kind := by
  rw [keys, keys, register_insert]
  by_cases own : template.kind = kind
  · rw [if_pos own, (store.inStep kind).order_insert]
    simp [own]
  · rw [if_neg own, if_neg fun new => own new.1]

/-- What is found is the last template of the kind and key. -/
theorem find?_insertAll (store : Store) (templates : List Template) (kind : Kind)
    (key : String) :
    (store.insertAll templates).find? kind key =
      (templates.filter (Template.isUnder kind key)).getLast?.or (store.find? kind key) := by
  induction templates using List.reverseRecOn with
  | nil => rfl
  | append_singleton templates template ih =>
      rw [insertAll_concat, find?_insert, ih, List.filter_append, List.getLast?_append]
      by_cases own : template.isUnder kind key = true
      · rw [if_pos own, List.filter_cons_of_pos own, List.filter_nil, List.getLast?_singleton]
        rfl
      · rw [if_neg own, List.filter_cons_of_neg own, List.filter_nil]
        rfl

/-- The keys of a kind stand in the order in which they first came. -/
theorem keys_insertAll (templates : List Template) (kind : Kind) :
    (empty.insertAll templates).keys kind = firstKeys kind templates := by
  induction templates using List.reverseRecOn with
  | nil => cases kind <;> rfl
  | append_singleton templates template ih =>
      rw [insertAll_concat, keys_insert, ih, firstKeys, firstKeys, List.filter_append,
        List.map_append]
      by_cases own : template.kind = kind
      · rw [List.filter_cons_of_pos (by simpa using own), List.filter_nil, List.map_singleton,
          eraseDups_concat]
        by_cases known : template.key ∈ (templates.filter fun template =>
            template.kind == kind).map Template.key
        · rw [if_pos known, if_neg fun fresh => fresh.2 (List.mem_eraseDups.mpr known)]
        · rw [if_neg known, if_pos ⟨own, fun listed => known (List.mem_eraseDups.mp listed)⟩]
      · rw [if_neg fun new => own new.1, List.filter_cons_of_neg (by simpa using own),
          List.filter_nil, List.map_nil, List.append_nil]

end Store

end ClusterTopology
