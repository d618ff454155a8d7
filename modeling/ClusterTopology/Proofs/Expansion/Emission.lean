import ClusterTopology.Topology
import ClusterTopology.Proofs.Allocation.Agreement
import ClusterTopology.Proofs.Allocation.Issue
import ClusterTopology.Proofs.Unfolding.Basic

/-!
Emitting entries.

`Entry.emit` draws what one entry needs, an id and for a kind attached to the network
an address, and gives an instance that has no children yet; `emitAll` does so for a
list of entries, one after the other. `Entry.emit_ok` and `Entry.emit_error` say which
draws are made. What a run of `emitAll` issues is what its instances bear
(`emitAll_ok_issues`), and it fails only when the addresses run out
(`emitAll_error_isFatal`).
-/

namespace ClusterTopology

open Allocating

/-! ### Emitting entries -/

/-- The instance with these children in place of its own. -/
def Instance.withChildren : Instance → List String → Instance
  | .container it, _ => .container it
  | .pod it, children => .pod { it with containers := children }
  | .vnode it, children => .vnode { it with pods := children }
  | .node it, children => .node { it with vnodes := children }

/-- The numbers that an instance has from its template, in the order in which they are
written. -/
def Instance.attributes : Instance → List Number
  | .container it => [it.cpu.limit, it.cpu.used, it.cpu.request, it.mem.limit, it.mem.used,
      it.mem.request, it.qps.limit, it.qps.used]
  | .pod _ => []
  | .vnode it => [it.cpu, it.mem]
  | .node it => [it.cpu, it.mem]

/-- Draw what an entry needs. Its instance has no children yet. -/
def Entry.emit : Entry → Allocating Instance
  | .container template => do
    let id ← drawId .container template.key
    return .container ⟨id, template.cpu, template.mem, template.qps⟩
  | .pod template _ => do
    let id ← drawId .pod template.key
    return .pod ⟨id, []⟩
  | .vnode template _ => do
    let id ← drawId .vnode template.key
    let address ← drawAddress .vnode template.key
    return .vnode ⟨id, template.cpu, template.mem, address, []⟩
  | .node template _ => do
    let id ← drawId .node template.key
    let address ← drawAddress .node template.key
    return .node ⟨id, template.cpu, template.mem, address, []⟩

/-- Emit entries in order. -/
def emitAll (entries : List Entry) : Allocating (List Instance) := entries.mapM Entry.emit

theorem emitAll_append (entries others : List Entry) :
    emitAll (entries ++ others) = do
      let bares ← emitAll entries
      let more ← emitAll others
      return bares ++ more :=
  List.mapM_append

/-! ### One entry -/

namespace Instance

@[simp] theorem kind_withChildren (it : Instance) (children : List String) :
    (it.withChildren children).kind = it.kind := by
  cases it <;> rfl

@[simp] theorem id_withChildren (it : Instance) (children : List String) :
    (it.withChildren children).id = it.id := by
  cases it <;> rfl

@[simp] theorem address?_withChildren (it : Instance) (children : List String) :
    (it.withChildren children).address? = it.address? := by
  cases it <;> rfl

end Instance

/-- The instance of an entry with this id, this address if its kind has one, and these
children. -/
def Entry.instance? (entry : Entry) (id : String) (address? : Option Address)
    (children : List String) : Option Instance :=
  match entry with
  | .container template => some (.container ⟨id, template.cpu, template.mem, template.qps⟩)
  | .pod _ _ => some (.pod ⟨id, children⟩)
  | .vnode template _ => address?.map fun address =>
      .vnode ⟨id, template.cpu, template.mem, address, children⟩
  | .node template _ => address?.map fun address =>
      .node ⟨id, template.cpu, template.mem, address, children⟩

namespace Entry

/-- What it takes to emit an entry: an id, and then an address if its kind is attached to
the network. -/
structure Emitted (before : Context) (entry : Entry) (bare : Instance) (after : Context) :
    Prop where
  kind_eq : bare.kind = entry.kind
  instance_eq : ∀ children,
    entry.instance? bare.id bare.address? children = some (bare.withChildren children)
  draws : ∃ middle, drawId entry.kind entry.key before = .ok bare.id middle ∧
    if entry.kind.isNetworkAttached then
      ∃ address, bare.address? = some address ∧
        drawAddress entry.kind entry.key middle = .ok address after
    else bare.address? = none ∧ after = middle

theorem emit_ok {entry : Entry} {bare : Instance} {before after : Context}
    (emitted : entry.emit before = .ok bare after) : Emitted before entry bare after := by
  cases entry with
  | container template =>
      obtain ⟨id, middle, drawn, ⟨⟩⟩ := bind_eq_ok_iff.mp emitted
      exact ⟨rfl, fun _ => rfl, _, drawn, rfl, rfl⟩
  | pod template below =>
      obtain ⟨id, middle, drawn, ⟨⟩⟩ := bind_eq_ok_iff.mp emitted
      exact ⟨rfl, fun _ => rfl, _, drawn, rfl, rfl⟩
  | vnode template below =>
      obtain ⟨id, middle, drawn, rest⟩ := bind_eq_ok_iff.mp emitted
      obtain ⟨address, after, granted, ⟨⟩⟩ := bind_eq_ok_iff.mp rest
      exact ⟨rfl, fun _ => rfl, _, drawn, address, rfl, granted⟩
  | node template below =>
      obtain ⟨id, middle, drawn, rest⟩ := bind_eq_ok_iff.mp emitted
      obtain ⟨address, after, granted, ⟨⟩⟩ := bind_eq_ok_iff.mp rest
      exact ⟨rfl, fun _ => rfl, _, drawn, address, rfl, granted⟩

/-- An entry is refused nothing but an address, when its id has been drawn already. -/
theorem emit_error {entry : Entry} {error : Error} {before after : Context}
    (refused : entry.emit before = .error error after) :
    entry.kind.isNetworkAttached = true ∧ ∃ id middle,
      drawId entry.kind entry.key before = .ok id middle ∧
        drawAddress entry.kind entry.key middle = .error error after := by
  cases entry with
  | container template =>
      rcases bind_eq_error_iff.mp refused with noId | ⟨_, _, _, ⟨⟩⟩
      cases (drawId_error noId).1
  | pod template below =>
      rcases bind_eq_error_iff.mp refused with noId | ⟨_, _, _, ⟨⟩⟩
      cases (drawId_error noId).1
  | vnode template below =>
      rcases bind_eq_error_iff.mp refused with noId | ⟨id, middle, drawn, rest⟩
      · cases (drawId_error noId).1
      · rcases bind_eq_error_iff.mp rest with noAddress | ⟨_, _, _, ⟨⟩⟩
        exact ⟨rfl, id, middle, drawn, noAddress⟩
  | node template below =>
      rcases bind_eq_error_iff.mp refused with noId | ⟨id, middle, drawn, rest⟩
      · cases (drawId_error noId).1
      · rcases bind_eq_error_iff.mp rest with noAddress | ⟨_, _, _, ⟨⟩⟩
        exact ⟨rfl, id, middle, drawn, noAddress⟩

/-- The only failure is that the addresses have run out. -/
theorem emit_error_isFatal {entry : Entry} {error : Error} {before after : Context}
    (refused : entry.emit before = .error error after) : error.isFatal = true := by
  obtain ⟨attached, id, middle, -, noAddress⟩ := emit_error refused
  obtain ⟨addresses, -, ended⟩ := (drawAddress_error noAddress).2 attached
  obtain ⟨-, rfl⟩ := AddressAllocator.allocate_eq_error_iff.mp ended
  rfl

end Entry

/-- What an instance bears that was issued for it. -/
def Instance.issues (it : Instance) : List Issue :=
  .id it.kind it.id :: (it.address?.map (Issue.address it.kind)).toList

@[simp] theorem Instance.issues_withChildren (it : Instance) (children : List String) :
    (it.withChildren children).issues = it.issues := by
  simp [issues]

theorem sublist_flatMap_issues (instances : List Instance) :
    (instances.map fun it => Issue.id it.kind it.id).Sublist
      (instances.flatMap Instance.issues) := by
  induction instances with
  | nil => exact .refl _
  | cons it rest ih =>
      rw [List.map_cons, List.flatMap_cons, Instance.issues, List.cons_append]
      exact (ih.trans (List.sublist_append_right _ _)).cons_cons _

/-- What is issued for an entry is what its instance bears. -/
theorem Entry.Emitted.issues {entry : Entry} {bare : Instance} {before after : Context}
    (emitted : Emitted before entry bare after) : Issues before bare.issues after := by
  obtain ⟨middle, drawn, rest⟩ := emitted.draws
  unfold Instance.issues
  rw [emitted.kind_eq]
  split at rest
  · obtain ⟨address, borne, granted⟩ := rest
    rw [borne]
    exact .id drawn (.address granted (.none after))
  · obtain ⟨none, rfl⟩ := rest
    rw [none]
    exact .id drawn (.none after)

/-! ### Entries in order -/

theorem emitAll_nil_ok {bares : List Instance} {before after : Context}
    (emitted : emitAll [] before = .ok bares after) : bares = [] ∧ after = before := by
  cases emitted
  exact ⟨rfl, rfl⟩

/-- The first entry is emitted, and then the rest. -/
theorem emitAll_cons_ok {entry : Entry} {entries : List Entry} {bares : List Instance}
    {before after : Context} (emitted : emitAll (entry :: entries) before = .ok bares after) :
    ∃ bare middle rest, entry.emit before = .ok bare middle ∧
      emitAll entries middle = .ok rest after ∧ bares = bare :: rest := by
  rw [emitAll, List.mapM_cons] at emitted
  obtain ⟨bare, middle, first, others⟩ := bind_eq_ok_iff.mp emitted
  obtain ⟨rest, _, second, ⟨⟩⟩ := bind_eq_ok_iff.mp others
  exact ⟨bare, middle, rest, first, second, rfl⟩

/-- A failure is that of the first entry, or that of the rest after it. -/
theorem emitAll_cons_error {entry : Entry} {entries : List Entry} {error : Error}
    {before after : Context}
    (refused : emitAll (entry :: entries) before = .error error after) :
    entry.emit before = .error error after ∨ ∃ bare middle,
      entry.emit before = .ok bare middle ∧ emitAll entries middle = .error error after := by
  rw [emitAll, List.mapM_cons] at refused
  rcases bind_eq_error_iff.mp refused with here | ⟨bare, middle, first, others⟩
  · exact Or.inl here
  · rcases bind_eq_error_iff.mp others with there | ⟨_, _, _, ⟨⟩⟩
    exact Or.inr ⟨bare, middle, first, there⟩

/-- A run that fails has emitted the entries before the one that is refused. -/
theorem emitAll_error_split {entries : List Entry} {error : Error} {before after : Context}
    (refused : emitAll entries before = .error error after) :
    ∃ front entry back bares middle, entries = front ++ entry :: back ∧
      emitAll front before = .ok bares middle ∧ entry.emit middle = .error error after := by
  induction entries generalizing before with
  | nil => cases refused
  | cons entry entries ih =>
      rcases emitAll_cons_error refused with here | ⟨bare, middle, first, there⟩
      · exact ⟨[], entry, entries, [], before, rfl, rfl, here⟩
      · obtain ⟨front, other, back, bares, last, rfl, emitted, stopped⟩ := ih there
        refine ⟨entry :: front, other, back, bare :: bares, last, rfl, ?_, stopped⟩
        rw [emitAll, List.mapM_cons]
        refine bind_eq_ok_iff.mpr ⟨bare, middle, first, ?_⟩
        exact bind_eq_ok_iff.mpr ⟨bares, last, emitted, rfl⟩

/-- A run gives one instance for each entry. -/
theorem length_of_emitAll_ok {entries : List Entry} {bares : List Instance}
    {before after : Context} (emitted : emitAll entries before = .ok bares after) :
    bares.length = entries.length := by
  induction entries generalizing before bares with
  | nil =>
      obtain ⟨rfl, -⟩ := emitAll_nil_ok emitted
      rfl
  | cons entry entries ih =>
      obtain ⟨_, _, rest, -, there, rfl⟩ := emitAll_cons_ok emitted
      rw [List.length_cons, List.length_cons, ih there]

/-- What a run issues is what its instances bear, in their order. -/
theorem emitAll_ok_issues {entries : List Entry} {bares : List Instance}
    {before after : Context} (emitted : emitAll entries before = .ok bares after) :
    Issues before (bares.flatMap Instance.issues) after := by
  induction entries generalizing before bares with
  | nil =>
      obtain ⟨rfl, rfl⟩ := emitAll_nil_ok emitted
      exact .none _
  | cons entry entries ih =>
      obtain ⟨bare, middle, rest, first, second, rfl⟩ := emitAll_cons_ok emitted
      rw [List.flatMap_cons]
      exact (Entry.emit_ok first).issues.append (ih second)

/-- A run that fails has issued something on its way. -/
theorem emitAll_error_issues {entries : List Entry} {error : Error} {before after : Context}
    (refused : emitAll entries before = .error error after) :
    ∃ log, Issues before log after := by
  induction entries generalizing before with
  | nil => cases refused
  | cons entry entries ih =>
      rcases emitAll_cons_error refused with here | ⟨bare, middle, first, there⟩
      · obtain ⟨-, id, middle, drawn, noAddress⟩ := Entry.emit_error here
        obtain ⟨rfl, -⟩ := drawAddress_error noAddress
        exact ⟨_, .id drawn (.none _)⟩
      · obtain ⟨log, issues⟩ := ih there
        exact ⟨_, (Entry.emit_ok first).issues.append issues⟩

/-- A run fails only when the addresses have run out. -/
theorem emitAll_error_isFatal {entries : List Entry} {error : Error} {before after : Context}
    (refused : emitAll entries before = .error error after) : error.isFatal = true := by
  induction entries generalizing before with
  | nil => cases refused
  | cons entry entries ih =>
      rcases emitAll_cons_error refused with here | ⟨_, _, _, there⟩
      · exact Entry.emit_error_isFatal here
      · exact ih there

end ClusterTopology
