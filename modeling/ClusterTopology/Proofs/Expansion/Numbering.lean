import ClusterTopology.Proofs.Expansion.Run

/-!
The closed form of an expansion.

What an instance bears depends on the state before the run and on how many entries of
its kind, and of its kind and key, come before it: `Context.numberAfter` and
`Context.addressAfter?`. `After` is the invariant: where the allocators stand once
some entries have been emitted. `emitAll_closed` is the run, and
`instances_eq_mapIdx_unfolding` the whole expansion: its instances are computed entry
by entry from the unfolding, each by itself.
-/

namespace ClusterTopology

/-! ### The closed form -/

namespace Context

variable (context : Context)

/-- The number of an entry that comes after these others. -/
def numberAfter (earlier : List Entry) (entry : Entry) : Nat :=
  match context.numbering entry.kind with
  | .shared =>
    context.issued entry.kind + earlier.countP (fun other => other.kind == entry.kind) + 1
  | .perKey =>
    context.issuedFor entry.kind entry.key +
      earlier.countP (fun other => other.kind == entry.kind && other.key == entry.key) + 1

/-- The address of an entry that comes after these others. -/
def addressAfter? (earlier : List Entry) (entry : Entry) : Option Address :=
  (context.lastAddress? entry.kind).bind fun last =>
    last.successor? (earlier.countP (fun other => other.kind == entry.kind) + 1)

/-- The id of the entry at a place. -/
def idAt (entries : List Entry) (place : Nat) : String :=
  entries[place]?.elim "" fun entry =>
    IdAllocator.idOf entry.key (context.numberAfter (entries.take place) entry)

/-- The instance of the entry at a place. Its children are the ids at the places of
the entries directly below it. -/
def instanceAt? (entries : List Entry) (place : Nat) (entry : Entry) : Option Instance :=
  entry.instance? (context.idAt entries place)
    (context.addressAfter? (entries.take place) entry)
    (entry.below.map fun back => context.idAt entries (place - back))

end Context

/-! ### Where the allocators stand -/

/-- The keys of the entries of a kind, in order. -/
def keysOf (kind : Kind) (entries : List Entry) : List String :=
  (entries.filter fun entry => entry.kind == kind).map Entry.key

theorem length_keysOf (kind : Kind) (entries : List Entry) :
    (keysOf kind entries).length = entries.countP fun entry => entry.kind == kind := by
  rw [keysOf, List.length_map, List.countP_eq_length_filter]

theorem count_keysOf (kind : Kind) (key : String) (entries : List Entry) :
    (keysOf kind entries).count key =
      entries.countP fun entry => entry.kind == kind && entry.key == key := by
  rw [keysOf, List.count, List.countP_map, List.countP_filter]
  exact List.countP_congr fun entry _ => by simp [and_comm]

theorem keysOf_concat (kind : Kind) (entries : List Entry) (entry : Entry) :
    keysOf kind (entries ++ [entry]) =
      keysOf kind entries ++ if entry.kind = kind then [entry.key] else [] := by
  by_cases same : entry.kind = kind <;> simp [keysOf, same]

/-- Where the allocators stand once these entries have been emitted. -/
structure After (before : Context) (earlier : List Entry) (now : Context) : Prop where
  ids : ∀ kind, now.ids? kind =
    (before.ids? kind).map fun ids => ids.issueAll (keysOf kind earlier)
  last : ∀ kind, now.lastAddress? kind = (before.lastAddress? kind).bind fun last =>
    last.successor? (keysOf kind earlier).length

namespace After

variable {before now next : Context} {earlier : List Entry} {entry : Entry} {bare : Instance}

theorem start (before : Context) : After before [] before where
  ids := fun kind => by cases before.ids? kind <;> rfl
  last := fun kind => by cases before.lastAddress? kind <;> rfl

/-- One entry takes the allocators one step on. -/
theorem step (after : After before earlier now) (emitted : entry.Emitted now bare next) :
    After before (earlier ++ [entry]) next := by
  obtain ⟨middle, drawn, rest⟩ := emitted.draws
  have drawn := drawId_ok drawn
  -- Drawing an address, if the kind has one, leaves the ids as they were.
  have ids : ∀ kind, next.ids? kind = middle.ids? kind := by
    intro kind
    split at rest
    · obtain ⟨address, -, granted⟩ := rest
      exact (drawAddress_ok granted).ids kind
    · rw [rest.2]
  refine ⟨fun kind => ?_, fun kind => ?_⟩
  · rw [ids, keysOf_concat]
    by_cases same : entry.kind = kind
    · subst same
      obtain ⟨own, found, -, afterFound⟩ := drawn.issue
      rw [after.ids] at found
      obtain ⟨first, firstFound, rfl⟩ := Option.map_eq_some_iff.mp found
      simp [afterFound, firstFound, IdAllocator.issueAll_concat]
    · rw [drawn.others kind (Ne.symm same), after.ids, if_neg same, List.append_nil]
  · rw [keysOf_concat]
    split at rest
    · obtain ⟨address, -, granted⟩ := rest
      by_cases same : entry.kind = kind
      · subst same
        obtain ⟨last, found, step, moved⟩ := (drawAddress_ok granted).next
        rw [drawn.lastAddress, after.last] at found
        obtain ⟨first, firstFound, reached⟩ := Option.bind_eq_some_iff.mp found
        simp [moved, firstFound, Address.successor?, reached, step]
      · rw [(drawAddress_ok granted).lastAddress_of_ne (Ne.symm same), drawn.lastAddress,
          after.last, if_neg same, List.append_nil]
    · rename_i detached
      rw [rest.2, drawn.lastAddress, after.last]
      by_cases same : entry.kind = kind
      · subst same
        rw [before.lastAddress?_eq_none detached]
        rfl
      · rw [if_neg same, List.append_nil]

/-- The id of the next entry. -/
theorem id_eq (after : After before earlier now) (emitted : entry.Emitted now bare next) :
    bare.id = IdAllocator.idOf entry.key (before.numberAfter earlier entry) := by
  obtain ⟨middle, drawn, -⟩ := emitted.draws
  obtain ⟨own, found, named, -⟩ := (drawId_ok drawn).issue
  rw [after.ids] at found
  obtain ⟨first, firstFound, rfl⟩ := Option.map_eq_some_iff.mp found
  rw [named, IdAllocator.id_allocate, IdAllocator.lastNumber_issueAll, length_keysOf,
    count_keysOf]
  simp only [Context.numberAfter, Context.numbering, Context.issued_eq_elim, Context.issuedFor,
    firstFound, Option.elim_some]
  cases first.numbering <;> rfl

/-- The address of the next entry, if its kind has one. -/
theorem address?_eq (after : After before earlier now)
    (emitted : entry.Emitted now bare next) :
    bare.address? = before.addressAfter? earlier entry := by
  obtain ⟨middle, drawn, rest⟩ := emitted.draws
  rw [Context.addressAfter?, ← length_keysOf]
  split at rest
  · obtain ⟨address, borne, granted⟩ := rest
    obtain ⟨last, found, step, -⟩ := (drawAddress_ok granted).next
    rw [(drawId_ok drawn).lastAddress, after.last] at found
    obtain ⟨first, firstFound, reached⟩ := Option.bind_eq_some_iff.mp found
    simp [borne, firstFound, Address.successor?, reached, step]
  · rename_i detached
    rw [rest.1, before.lastAddress?_eq_none detached]
    rfl

/-- A run takes the allocators as many steps on as there are entries. -/
theorem run {entries : List Entry} {bares : List Instance} (after : After before earlier now)
    (emitted : emitAll entries now = .ok bares next) :
    After before (earlier ++ entries) next := by
  induction entries generalizing earlier now bares with
  | nil =>
      obtain ⟨-, rfl⟩ := emitAll_nil_ok emitted
      rwa [List.append_nil]
  | cons entry entries ih =>
      obtain ⟨bare, middle, rest, here, there, -⟩ := emitAll_cons_ok emitted
      have later := ih (after.step (Entry.emit_ok here)) there
      rwa [List.append_assoc] at later

end After

/-! ### The run -/

/-- The instance at every place of a run bears what the closed form says. -/
theorem emitAll_closed {before now after : Context} {earlier entries : List Entry}
    {bares : List Instance} (stands : After before earlier now)
    (emitted : emitAll entries now = .ok bares after) {offset : Nat} {entry : Entry}
    {bare : Instance} (entryAt : entries[offset]? = some entry)
    (bareAt : bares[offset]? = some bare) :
    bare.id = IdAllocator.idOf entry.key
        (before.numberAfter (earlier ++ entries.take offset) entry) ∧
      bare.address? = before.addressAfter? (earlier ++ entries.take offset) entry ∧
      ∀ children, entry.instance? bare.id bare.address? children =
        some (bare.withChildren children) := by
  induction entries generalizing earlier now bares offset with
  | nil => simp at entryAt
  | cons first entries ih =>
      obtain ⟨head, middle, rest, here, there, rfl⟩ := emitAll_cons_ok emitted
      have here := Entry.emit_ok here
      cases offset with
      | zero =>
          obtain rfl : first = entry := by simpa using entryAt
          obtain rfl : head = bare := by simpa using bareAt
          rw [List.take_zero, List.append_nil]
          exact ⟨stands.id_eq here, stands.address?_eq here, here.instance_eq⟩
      | succ offset =>
          have later := ih (stands.step here) there (by simpa using entryAt)
            (by simpa using bareAt)
          simpa using later

/-- The ids of a run are those of the closed form, at every place. -/
theorem idsOf_eq_idAt {entries : List Entry} {bares : List Instance} {before after : Context}
    (emitted : emitAll entries before = .ok bares after) : idsOf bares = before.idAt entries := by
  funext place
  unfold idsOf Context.idAt
  have paired := length_of_emitAll_ok emitted
  by_cases inside : place < entries.length
  · have entryAt := List.getElem?_eq_getElem inside
    have bareAt := List.getElem?_eq_getElem (paired.symm ▸ inside)
    rw [entryAt, bareAt]
    simpa using (emitAll_closed (.start before) emitted entryAt bareAt).1
  · rw [List.getElem?_eq_none (by omega), List.getElem?_eq_none (by omega)]
    rfl

/-- The instance at a place of an expansion is that of the entry there. -/
theorem getElem?_instances {store : Store} {context : Context} {expansion : Expansion}
    (finished : (store.expand context).result = .ok expansion) (place : Nat) :
    expansion.topology.instances[place]?.map some =
      store.unfolding[place]?.map (context.instanceAt? store.unfolding place) := by
  obtain ⟨bares, emitted, rfl⟩ := expand_ok finished
  rw [Store.assembled, idsOf_eq_idAt emitted, getElem?_assemble, Nat.zero_add]
  cases entryAt : store.unfolding[place]? with
  | none => rfl
  | some entry =>
      have inside : place < bares.length := by
        rw [length_of_emitAll_ok emitted]
        exact (List.getElem?_eq_some_iff.mp entryAt).1
      have bareAt := List.getElem?_eq_getElem inside
      obtain ⟨named, placed, bears⟩ := emitAll_closed (.start context) emitted entryAt bareAt
      have idEq : context.idAt store.unfolding place = bares[place].id := by
        rw [← idsOf_eq_idAt emitted, idsOf, bareAt, Option.elim_some]
      rw [List.nil_append] at placed
      simp only [bareAt, Option.bind_eq_bind, Option.bind_some, Option.pure_def, Option.map_some,
        Context.instanceAt?, idEq, ← placed, bears]

/-- The instances of an expansion, in order of production, are those that the closed form
computes from the unfolding of the store and the state of the allocators before the
run. -/
theorem instances_eq_mapIdx_unfolding {store : Store} {context : Context}
    {expansion : Expansion} (finished : (store.expand context).result = .ok expansion) :
    expansion.topology.instances.map some =
      store.unfolding.mapIdx (context.instanceAt? store.unfolding) := by
  refine List.ext_getElem? fun place => ?_
  rw [List.getElem?_map, List.getElem?_mapIdx]
  exact getElem?_instances finished place

theorem instances_eq_mapIdx_unfolding_twofold :
    let context := Context.fresh .shared ⟨10, 0, 0, 253⟩ ⟨10, 1, 0, 1⟩
    ∃ expansion, (Store.twofold.expand context).result = .ok expansion ∧
      expansion.topology.instances.map Instance.id =
        ["a-1", "a-2", "a-1", "b-1", "b-1", "a-3", "a-4", "a-2", "b-2", "b-2"] ∧
      expansion.topology.instances.map some =
        Store.twofold.unfolding.mapIdx (context.instanceAt? Store.twofold.unfolding) := by
  intro context
  have known : (Store.twofold.expand context).result.toOption.map
      (fun expansion => expansion.topology.instances.map Instance.id) =
        some ["a-1", "a-2", "a-1", "b-1", "b-1", "a-3", "a-4", "a-2", "b-2", "b-2"] := by
    decide +kernel
  obtain ⟨expansion, finished, ids⟩ := Run.exists_of_map_result known
  exact ⟨expansion, finished, ids, instances_eq_mapIdx_unfolding finished⟩

end ClusterTopology
