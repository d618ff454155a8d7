import Mathlib.Algebra.Ring.Nat
import ClusterTopology.Proofs.Template.Catalog
import ClusterTopology.Proofs.Template.Sequence

/-!
A store after any sequence of calls.

A call puts a template into a store, or the template that a record describes, and is refused
when the record describes none. `call_cases` is what one call can do. `callAll` makes calls in
order: the templates of those that are accepted are put into the store, and nothing else
happens to it (`store_callAll`). So the registers of an empty store become five ordered maps,
one per kind, none of which knows of the others (`catalog_insertAll`, `Keeps`), and an accepted
template that adds no key is pointed out as a redefinition: `keeps_callAll`.
-/

namespace ClusterTopology

/-- A template took the place of another. -/
def Notice.isRedefinition : Notice → Bool
  | .redefined .. => true
  | _ => false

namespace Store

/-! ### Calls -/

/-- What may be asked of a store. -/
inductive Call where
  /-- To take in the template that a record describes. -/
  | add (record : Json)
  | insert (template : Template)

/-- The template that a call is to put into the store. A record may describe none. -/
def Call.template? : Call → Option Template
  | add record => (Template.accept record).toOption
  | insert template => some template

/-- The templates of the calls that are accepted, in order. -/
def accepted (calls : List Call) : List Template := calls.filterMap Call.template?

/-- What came of calls: an answer to each, the store after them, and the notices given on
the way. -/
structure Served where
  answers : List (Except Error Kind)
  store : Store
  notices : List Notice

/-- Make one call. A refusal leaves the store as it is. -/
def call (store : Store) : Call → Served
  | .add record =>
    match store.add record with
    | .ok addition => ⟨[.ok addition.kind], addition.store, addition.notices⟩
    | .error error => ⟨[.error error], store, []⟩
  | .insert template => ⟨[.ok template.kind], store.insert template, store.insertNotices template⟩

/-- Make calls in order. -/
def callAll (store : Store) : List Call → Served
  | [] => ⟨[], store, []⟩
  | first :: calls =>
    let served := store.call first
    let rest := served.store.callAll calls
    ⟨served.answers ++ rest.answers, rest.store, served.notices ++ rest.notices⟩

/-- A call puts its template into the store, or it has none and is refused without a change. -/
theorem call_cases (store : Store) (call : Call) :
    (∃ template, call.template? = some template ∧ store.call call =
      ⟨[.ok template.kind], store.insert template, store.insertNotices template⟩) ∨
    (call.template? = none ∧ ∃ error, store.call call = ⟨[.error error], store, []⟩) := by
  cases call with
  | insert template => exact Or.inl ⟨template, rfl, rfl⟩
  | add record =>
      cases described : Template.accept record with
      | ok template =>
          refine Or.inl ⟨template, ?_, ?_⟩
          · rw [Call.template?, described]
            rfl
          · rw [Store.call, add, described]
            rfl
      | error error =>
          refine Or.inr ⟨?_, error, ?_⟩
          · rw [Call.template?, described]
            rfl
          · rw [Store.call, add, described]
            rfl

/-- Calls put the templates of those that are accepted into the store, in their order. -/
theorem store_callAll (store : Store) (calls : List Call) :
    (store.callAll calls).store = store.insertAll (accepted calls) := by
  induction calls generalizing store with
  | nil => rfl
  | cons call calls ih =>
      rw [callAll]
      rcases store.call_cases call with ⟨template, described, served⟩ | ⟨nothing, error, served⟩
      · rw [accepted, List.filterMap_cons_some described, served]
        exact ih (store.insert template)
      · rw [accepted, List.filterMap_cons_none nothing, served]
        exact ih store

/-- Every call is answered: with the kind of its template, or with an error if it has none. -/
theorem answers_callAll (store : Store) (calls : List Call) :
    (store.callAll calls).answers.map Except.toOption =
      calls.map fun call => call.template?.map Template.kind := by
  induction calls generalizing store with
  | nil => rfl
  | cons call calls ih =>
      rw [callAll, List.map_append, List.map_cons, ih]
      rcases store.call_cases call with ⟨template, described, served⟩ | ⟨nothing, error, served⟩
      · rw [served, described]
        rfl
      · rw [served, nothing]
        rfl

/-! ### Counting -/

theorem count_eq_length_keys (store : Store) (kind : Kind) :
    store.count kind = (store.keys kind).length := by
  cases kind <;> rfl

/-- How many templates there are of all kinds. -/
def size (store : Store) : Nat := (Kind.all.map store.count).sum

/-- A template that is put into a store adds a key or is pointed out as a redefinition. -/
theorem size_insert (store : Store) (template : Template) :
    (store.insert template).size +
      (store.insertNotices template).countP Notice.isRedefinition = store.size + 1 := by
  have counts : ∀ kind, (store.insert template).count kind =
      store.count kind + if template.kind = kind ∧ template.key ∉ store.keys kind then 1 else 0 := by
    intro kind
    rw [count_eq_length_keys, count_eq_length_keys, keys_insert]
    split
    · rw [List.length_append, List.length_singleton]
    · rfl
  by_cases known : template.key ∈ store.keys template.kind
  · have pointed : (store.insertNotices template).countP Notice.isRedefinition = 1 := by
      rw [insertNotices, if_pos (contains_iff_mem_keys.mpr known)]
      rfl
    have same : ∀ kind, (store.insert template).count kind = store.count kind := by
      intro kind
      have stays : ¬ (template.kind = kind ∧ template.key ∉ store.keys kind) := by
        rintro ⟨rfl, fresh⟩
        exact fresh known
      rw [counts, if_neg stays, Nat.add_zero]
    rw [pointed, size, size, funext same]
  · have silent : (store.insertNotices template).countP Notice.isRedefinition = 0 := by
      rw [insertNotices, if_neg fun found => known (contains_iff_mem_keys.mp found)]
      rfl
    rw [silent, size, size, funext counts]
    cases kindEq : template.kind <;> rw [kindEq] at known <;> simp [Kind.all, known] <;> omega

/-- Every accepted call adds a key or is pointed out as a redefinition. -/
theorem size_callAll (store : Store) (calls : List Call) :
    (store.callAll calls).store.size +
      (store.callAll calls).notices.countP Notice.isRedefinition =
        store.size + (accepted calls).length := by
  induction calls generalizing store with
  | nil => rfl
  | cons call calls ih =>
      rw [callAll]
      rcases store.call_cases call with ⟨template, described, served⟩ | ⟨nothing, error, served⟩
      · have step := store.size_insert template
        have rest := ih (store.insert template)
        rw [accepted, List.filterMap_cons_some described, served]
        simp only [List.countP_append, List.length_cons]
        unfold accepted at rest
        omega
      · rw [accepted, List.filterMap_cons_none nothing, served]
        exact ih store

/-! ### Five ordered maps -/

/-- The templates of a kind, in the order of their keys. -/
def templates (store : Store) : Kind → List Template
  | .container => store.containers.values.map .container
  | .pod => store.pods.values.map .pod
  | .vnode => store.vnodes.values.map .vnode
  | .node => store.nodes.values.map .node
  | .service => store.services.values.map .service

/-- The templates of a kind are what is found under its keys. -/
theorem map_some_templates (store : Store) (kind : Kind) :
    (store.templates kind).map some = (store.keys kind).map (store.find? kind) := by
  have values : store.templates kind = (store.register kind).values := by
    cases kind <;> exact (Register.values_map _).symm
  rw [values, (store.inStep kind).map_some_values, find?_register, keys]

/-- The ordered map that a store has for a kind. -/
def catalog (store : Store) (kind : Kind) : Catalog Template :=
  (store.register kind).toCatalog (store.inStep kind)

theorem keys_catalog (store : Store) (kind : Kind) :
    (store.catalog kind).keys = store.keys kind :=
  Register.keys_toCatalog _

theorem find?_catalog (store : Store) (kind : Kind) :
    (store.catalog kind).find? = store.find? kind := by
  rw [catalog, Register.find?_toCatalog, find?_register]

/-- The ordered map of these templates of a kind, entered one after the other. -/
def catalogOf (kind : Kind) (given : List Template) : Catalog Template :=
  (given.filter fun template => template.kind == kind).foldl
    (fun catalog template => catalog.insert template.key template) .empty

/-- An insertion into a store is one into the ordered map of its kind. -/
theorem catalog_insert (store : Store) (template : Template) (kind : Kind) :
    (store.insert template).catalog kind =
      if template.kind = kind then (store.catalog kind).insert template.key template
      else store.catalog kind := by
  apply Catalog.eq_of_find?
  · rw [keys_catalog, keys_insert]
    split
    · rename_i new
      rw [if_pos new.1, Catalog.keys_insert, keys_catalog, if_neg new.2]
    · rename_i stays
      split
      · rename_i own
        rw [Catalog.keys_insert, keys_catalog, if_pos (by_contra fun fresh => stays ⟨own, fresh⟩)]
      · rw [keys_catalog]
  · funext key
    rw [find?_catalog, find?_insert]
    by_cases own : template.kind = kind
    · rw [if_pos own, Catalog.find?_insert, find?_catalog]
      exact if_congr (by simp [Template.isUnder_iff, own, @eq_comm _ key]) rfl rfl
    · rw [if_neg own, find?_catalog, if_neg fun under => own (Template.isUnder_iff.mp under).1]

/-- Templates put into a store are entered into the ordered maps of their kinds, and a map is
not touched by those of another kind. -/
theorem catalog_insertAll (given : List Template) (kind : Kind) :
    (empty.insertAll given).catalog kind = catalogOf kind given := by
  induction given using List.reverseRecOn with
  | nil => cases kind <;> rfl
  | append_singleton given template ih =>
      rw [insertAll_concat, catalog_insert, ih, catalogOf, catalogOf, List.filter_append]
      by_cases own : template.kind = kind
      · rw [if_pos own, List.filter_cons_of_pos (by simpa using own), List.filter_nil,
          List.foldl_append, List.foldl_cons, List.foldl_nil]
      · rw [if_neg own, List.filter_cons_of_neg (by simpa using own), List.filter_nil,
          List.append_nil]

/-- What a store keeps of these templates, put into it one after the other: for each kind a
map of its own, ordered by first insertion. -/
structure Keeps (store : Store) (given : List Template) : Prop where
  /-- The order of a kind lists no key twice and lists exactly the keys that have an entry. -/
  inStep : ∀ kind, (store.register kind).InStep
  /-- Order and entries together are the ordered map of the templates of the kind. -/
  catalog_eq : ∀ kind, store.catalog kind = catalogOf kind given
  /-- The keys of a kind are those of its templates, each once. -/
  nodup_keys : ∀ kind, (store.keys kind).Nodup
  mem_keys_iff : ∀ kind key,
    key ∈ store.keys kind ↔ ∃ template ∈ given, template.kind = kind ∧ template.key = key
  /-- They stand in the order in which they first came. -/
  keys_eq : ∀ kind, store.keys kind = firstKeys kind given
  /-- What is found is the last template of the kind and key. -/
  find?_eq : ∀ kind key,
    store.find? kind key = (given.filter (Template.isUnder kind key)).getLast?
  contains_iff : ∀ kind key, store.contains kind key = true ↔ key ∈ store.keys kind
  own : ∀ kind key template, store.find? kind key = some template →
    template.kind = kind ∧ template.key = key
  /-- The templates of a kind are listed by their keys, each key with its last template. -/
  listed : ∀ kind, (store.templates kind).map some = (firstKeys kind given).map fun key =>
    (given.filter (Template.isUnder kind key)).getLast?
  count_eq : ∀ kind, store.count kind = (firstKeys kind given).length
  isEmpty_iff : store.isEmpty = true ↔ given = []

theorem mem_firstKeys_iff {kind : Kind} {key : String} {given : List Template} :
    key ∈ firstKeys kind given ↔
      ∃ template ∈ given, template.kind = kind ∧ template.key = key := by
  simp [firstKeys, List.mem_eraseDups, and_assoc]

theorem find?_insertAll_empty (given : List Template) (kind : Kind) (key : String) :
    (empty.insertAll given).find? kind key =
      (given.filter (Template.isUnder kind key)).getLast? := by
  have bare : empty.find? kind key = none := by cases kind <;> rfl
  rw [find?_insertAll, bare, Option.or_none]

/-- A template that was put in is there, if not with its own value then with a later one. -/
theorem isEmpty_insertAll_iff (given : List Template) :
    (empty.insertAll given).isEmpty = true ↔ given = [] := by
  rw [isEmpty, List.all_eq_true]
  constructor
  · intro bare
    cases given with
    | nil => rfl
    | cons template given =>
        have none := beq_iff_eq.mp (bare template.kind template.kind.mem_all)
        rw [count_eq_length_keys, keys_insertAll, List.length_eq_zero_iff] at none
        have first : template.key ∈ firstKeys template.kind (template :: given) :=
          mem_firstKeys_iff.mpr ⟨template, List.mem_cons_self, rfl, rfl⟩
        rw [none] at first
        cases first
  · rintro rfl kind -
    cases kind <;> rfl

theorem keeps_insertAll (given : List Template) : (empty.insertAll given).Keeps given where
  inStep := (empty.insertAll given).inStep
  catalog_eq := catalog_insertAll given
  nodup_keys := fun kind => ((empty.insertAll given).inStep kind).nodup
  mem_keys_iff := by
    intro kind key
    rw [keys_insertAll, mem_firstKeys_iff]
  keys_eq := keys_insertAll given
  find?_eq := find?_insertAll_empty given
  contains_iff := fun _ _ => contains_iff_mem_keys
  own := fun _ _ _ found => ⟨kind_of_find? found, key_of_find? found⟩
  listed := by
    intro kind
    rw [map_some_templates, keys_insertAll]
    refine List.map_congr_left fun key _ => ?_
    exact find?_insertAll_empty given kind key
  count_eq := by
    intro kind
    rw [count_eq_length_keys, keys_insertAll]
  isEmpty_iff := isEmpty_insertAll_iff given

/-- Whatever calls are made of an empty store, the order and the entries that it holds for each
kind are in step, and are an ordered map of their own of the templates of the kind that were
accepted: each key at the place where it first came, with the template that came last. Every
call is answered, those that are accepted with the kind of their template. There are as many
accepted ones as there are keys of all kinds and redefinitions pointed out. Any further call is
accepted as well, or is refused without a change to the store and without a notice. -/
theorem keeps_callAll (calls : List Call) :
    let served := empty.callAll calls
    served.store.Keeps (accepted calls) ∧
      served.answers.map Except.toOption =
        calls.map (fun call => call.template?.map Template.kind) ∧
      (accepted calls).length = (Kind.all.map served.store.count).sum +
        served.notices.countP Notice.isRedefinition ∧
      ∀ call, (∃ template, call.template? = some template) ∨
        ∃ error, served.store.call call = ⟨[.error error], served.store, []⟩ := by
  intro served
  have kept := keeps_insertAll (accepted calls)
  rw [← store_callAll] at kept
  refine ⟨kept, answers_callAll empty calls, ?_, ?_⟩
  · have counted : served.store.size + served.notices.countP Notice.isRedefinition =
        0 + (accepted calls).length := size_callAll empty calls
    rw [Nat.zero_add] at counted
    exact counted.symm
  · intro call
    rcases served.store.call_cases call with ⟨template, described, -⟩ | ⟨-, refused⟩
    · exact Or.inl ⟨template, described⟩
    · exact Or.inr refused

/-- A node that is defined again keeps its place, beside a service of the same key. -/
example :
    let one := Number.integer 1
    let node := fun key num => Template.node ⟨key, one, one, [], num⟩
    let served := empty.callAll [.insert (node "a" 1), .insert (node "b" 1), .add .null,
      .insert (.service ⟨"a", []⟩), .insert (node "a" 7)]
    served.store.templates .node = [node "a" 7, node "b" 1] ∧
      served.notices = [.redefined .node "a"] := by
  decide

end Store

end ClusterTopology
