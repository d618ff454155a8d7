import ClusterTopology.Proofs.Expansion.Exhaustion

/-!
What stops the growing of a node.

The walk for missing references passes over what it has met and goes on after an error;
growing a node follows every reference each time it is listed and stops at the first
error. Both meet the same mention first that leads nowhere: `head?_missingBelow` says so
of the walk, `stopsAt_growNode` of the growing. Growing also keeps an account of the
addresses: what comes to its end has used as many as it asks for, and what is refused one
asks for more than there were. `expandNode_of_missingBelow` puts this together: a node
under which nothing is missing fails only when the addresses run out, and any other node
never comes to its end.
-/

namespace ClusterTopology

open Allocating

/-! ### The first fault among mentions -/

namespace Missing

/-- What is wrong with a mention, if it leads nowhere. -/
def Mention.fault? (store : Store) (mention : Mention) : Option Error :=
  if store.contains mention.kind mention.key then none else some mention.error

/-- What is wrong with the first mention that leads nowhere. -/
def firstFault? (store : Store) (mentions : List Mention) : Option Error :=
  mentions.findSome? (Mention.fault? store)

section FirstFault

variable {store : Store} {walk : Walk} {mention : Mention}

/-- As long as nothing has been reported, everything met leads somewhere. -/
def Walk.Sound (store : Store) (walk : Walk) : Prop :=
  walk.errors = [] → ∀ reference ∈ walk.met, store.contains reference.1 reference.2 = true

theorem Walk.Sound.visit (sound : walk.Sound store) (mention : Mention) :
    (visit store walk mention).Sound store := by
  intro quiet reference met
  obtain ⟨before, here⟩ := errors_visit_eq_nil_iff.mp quiet
  rcases mem_met_visit.mp met with rfl | earlier
  · rcases here with known | leads
    · exact sound before _ known
    · exact leads
  · exact sound before reference earlier

/-- A visit keeps the first error, or reports the first. -/
theorem getLast?_errors_visit (sound : walk.Sound store) (mention : Mention) :
    (visit store walk mention).errors.getLast? =
      walk.errors.getLast?.or (mention.fault? store) := by
  unfold Mention.fault?
  cases errors : walk.errors with
  | nil =>
      rw [List.getLast?_nil, Option.none_or]
      split
      · rename_i leads
        rw [errors_visit_eq_nil_iff.mpr ⟨errors, Or.inr leads⟩, List.getLast?_nil]
      · rename_i dangles
        have unmet : mention.reference ∉ walk.met := fun met => dangles (sound errors _ met)
        simp [Missing.visit, unmet, dangles, Walk.meet, Walk.report, errors]
  | cons error rest =>
      have kept : (visit store walk mention).errors.getLast? = (error :: rest).getLast? := by
        unfold Missing.visit
        split
        · rw [errors]
        · split
          · simp only [Walk.meet, errors]
          · simp only [Walk.meet, Walk.report, errors, List.getLast?_cons_cons]
      rw [kept, List.getLast?_cons, Option.some_or]

theorem getLast?_errors_foldl_visit (mentions : List Mention) (sound : walk.Sound store) :
    (mentions.foldl (visit store) walk).errors.getLast? =
      walk.errors.getLast?.or (firstFault? store mentions) := by
  induction mentions generalizing walk with
  | nil => rw [List.foldl_nil, firstFault?, List.findSome?_nil, Option.or_none]
  | cons mention mentions ih =>
      rw [List.foldl_cons, ih (sound.visit mention), getLast?_errors_visit sound, Option.or_assoc]
      congr 1
      rw [firstFault?, firstFault?, List.findSome?_cons]
      cases mention.fault? store <;> rfl

/-- The walk below a node reports first what is wrong with the first mention that leads
nowhere. -/
theorem head?_missingBelow (store : Store) (node : NodeTemplate) :
    (store.missingBelow node).head? = firstFault? store (nodeMentions store node) := by
  have sound : Walk.Sound store {} := fun _ _ met => absurd met List.not_mem_nil
  rw [Store.missingBelow, List.head?_reverse, belowNode_eq_foldl,
    getLast?_errors_foldl_visit _ sound, List.getLast?_nil, Option.none_or]

end FirstFault

end Missing

open Missing

/-! ### What stops a computation -/

/-- The addresses have run out: the allocator of a kind has been left without a next one and
names the last, and fewer were there before than the cost. -/
def RanOut (cost : Kind → Nat) (before : Context) (error : Error) (after : Context) : Prop :=
  ∃ kind key addresses, after.addresses? kind = some addresses ∧ addresses.last.next? = none ∧
    error = .addressesExhausted addresses.kind key addresses.last ∧
    before.remaining kind < cost kind

section StopsAt

variable {α β : Type}

/-- The computation comes to its end only if there is no fault, and then has used the
addresses that it costs. Otherwise it fails with the fault, unless the addresses run out
before. -/
def StopsAt (fault? : Option Error) (cost : Kind → Nat) (x : Allocating α) : Prop :=
  ∀ before, match x before with
    | .ok _ after =>
      fault? = none ∧ ∀ kind, before.remaining kind = after.remaining kind + cost kind
    | .error error after => fault? = some error ∨ RanOut cost before error after

/-- What a draw of one address costs. -/
def oneOf (kind : Kind) (other : Kind) : Nat := if other = kind then 1 else 0

namespace RanOut

variable {cost more : Kind → Nat} {before middle after : Context} {error : Error}

theorem mono (short : RanOut cost before error after) (more : Kind → Nat) :
    RanOut (fun kind => cost kind + more kind) before error after := by
  obtain ⟨kind, key, addresses, left, ended, named, fewer⟩ := short
  refine ⟨kind, key, addresses, left, ended, named, ?_⟩
  dsimp only
  omega

/-- What was used before adds to the cost. -/
theorem after_use (short : RanOut more middle error after)
    (used : ∀ kind, before.remaining kind = middle.remaining kind + cost kind) :
    RanOut (fun kind => cost kind + more kind) before error after := by
  obtain ⟨kind, key, addresses, left, ended, named, fewer⟩ := short
  refine ⟨kind, key, addresses, left, ended, named, ?_⟩
  rw [used]
  dsimp only
  omega

end RanOut

namespace StopsAt

variable {fault? later? : Option Error} {cost more : Kind → Nat} {x : Allocating α}
  {f : α → Allocating β} {store : Store}

theorem pure (a : α) : StopsAt none (fun _ => 0) (Pure.pure a : Allocating α) :=
  fun _ => ⟨rfl, fun _ => (Int.add_zero _).symm⟩

theorem costing (stops : StopsAt fault? cost x) (same : ∀ kind, cost kind = more kind) :
    StopsAt fault? more x :=
  funext same ▸ stops

/-- Of two faults the earlier one counts. -/
theorem bind (first : StopsAt fault? cost x) (second : ∀ a, StopsAt later? more (f a)) :
    StopsAt (fault?.or later?) (fun kind => cost kind + more kind) (x >>= f) := by
  intro before
  have stops := first before
  simp only [Bind.bind, EStateM.bind]
  cases ran : x before with
  | error error middle =>
      rw [ran] at stops
      rcases stops with fault | short
      · exact Or.inl (by rw [fault, Option.some_or])
      · exact Or.inr (short.mono more)
  | ok a middle =>
      rw [ran] at stops
      obtain ⟨rfl, used⟩ := stops
      rw [Option.none_or]
      have stopsLater := second a middle
      dsimp only
      cases ranOn : f a middle with
      | error error after =>
          rw [ranOn] at stopsLater
          exact stopsLater.imp_right fun short => short.after_use used
      | ok b after =>
          rw [ranOn] at stopsLater
          refine ⟨stopsLater.1, fun kind => ?_⟩
          have usedLater := stopsLater.2 kind
          have usedHere := used kind
          omega

/-- What follows without a fault of its own adds none. -/
theorem andThen (first : StopsAt fault? cost x) (second : ∀ a, StopsAt none more (f a)) :
    StopsAt fault? (fun kind => cost kind + more kind) (x >>= f) := by
  have both := first.bind second
  rwa [Option.or_none] at both

theorem drawId (kind : Kind) (expanded : kind.isExpanded = true) (key : String) :
    StopsAt none (fun _ => 0) (drawId kind key) := by
  intro before
  cases drawn : ClusterTopology.drawId kind key before with
  | ok id after =>
      refine ⟨rfl, fun other => ?_⟩
      rw [Context.remaining, Context.remaining, (drawId_ok drawn).lastAddress]
      exact (Int.add_zero _).symm
  | error error after =>
      obtain ⟨rfl, -⟩ := drawId_error drawn
      cases expanded

/-- An address is used, or there is none. -/
theorem drawAddress (kind : Kind) (attached : kind.isNetworkAttached = true) (key : String) :
    StopsAt none (oneOf kind) (drawAddress kind key) := by
  intro before
  cases drawn : ClusterTopology.drawAddress kind key before with
  | ok address after =>
      refine ⟨rfl, fun other => ?_⟩
      have step := drawAddress_ok drawn
      by_cases same : other = kind
      · subst same
        obtain ⟨last, here, next, there⟩ := step.next
        rw [Context.remaining, Context.remaining, here, there, oneOf, if_pos rfl,
          Option.elim_some, Option.elim_some, Address.remaining_of_next? next]
        omega
      · rw [Context.remaining, Context.remaining, step.lastAddress_of_ne same, oneOf, if_neg same]
        exact (Int.add_zero _).symm
  | error error after =>
      obtain ⟨rfl, refusal⟩ := drawAddress_error drawn
      obtain ⟨addresses, found, refused⟩ := refusal attached
      obtain ⟨ended, rfl⟩ := AddressAllocator.allocate_eq_error_iff.mp refused
      refine Or.inr ⟨kind, key, addresses, found, ended, rfl, ?_⟩
      rw [Context.remaining, Context.lastAddress?, found, Option.map_some, Option.elim_some,
        Address.next?_eq_none_iff.mp ended, oneOf, if_pos rfl]
      decide

/-- What grows a tree with an address over what is below it takes that address. -/
theorem drawBoth (kind : Kind) (expanded : kind.isExpanded = true)
    (attached : kind.isNetworkAttached = true) (key : String) {grown : String → Address → α} :
    StopsAt none (oneOf kind) (do
      let id ← ClusterTopology.drawId kind key
      let address ← ClusterTopology.drawAddress kind key
      return grown id address) := by
  refine costing ((drawId kind expanded key).andThen fun id =>
    (drawAddress kind attached key).andThen fun address => pure _) fun other => ?_
  rw [Nat.zero_add, Nat.add_zero]

/-- Growing trees one after the other stops at the first fault among them all. -/
theorem mapM {grow : String → Allocating β} {mentions : String → List Mention}
    {keys : List String}
    (each : ∀ key ∈ keys, StopsAt (firstFault? store (mentions key)) cost (grow key)) :
    StopsAt (firstFault? store (keys.flatMap mentions)) (fun kind => keys.length * cost kind)
      (keys.mapM grow) := by
  induction keys with
  | nil => exact (pure []).costing fun kind => (Nat.zero_mul (cost kind)).symm
  | cons key keys ih =>
      rw [List.mapM_cons, List.flatMap_cons, firstFault?, List.findSome?_append]
      have rest := ih fun other member => each other (List.mem_cons_of_mem _ member)
      have all := (each key List.mem_cons_self).bind fun grown =>
        rest.andThen fun growns => pure (grown :: growns)
      refine all.costing fun kind => ?_
      rw [List.length_cons, Nat.succ_mul]
      omega

/-- Following a reference stops at it if it leads nowhere, and otherwise below it. -/
theorem branch {find? : String → Option α} {mentions : α → List Mention}
    {grow : α → Allocating β} (mention : Mention)
    (stored : store.contains mention.kind mention.key = (find? mention.key).isSome)
    (below : ∀ template, StopsAt (firstFault? store (mentions template)) cost (grow template)) :
    StopsAt (firstFault? store (branch find? mentions mention)) cost
      (Store.resolve (find? mention.key) mention.kind mention.key mention.parentKind
        mention.parentKey >>= grow) := by
  unfold Missing.branch firstFault?
  rw [List.findSome?_cons, Mention.fault?, stored]
  cases found : find? mention.key with
  | none => exact fun _ => Or.inl rfl
  | some template =>
      simp only [Store.resolve, pure_bind]
      exact below template

end StopsAt

end StopsAt

/-! ### Level by level -/

section Levels

variable (store : Store)

theorem stopsAt_growContainer (parent key : String) :
    StopsAt (firstFault? store [⟨.container, key, .pod, parent⟩]) (fun _ => 0)
      (store.growContainer parent key) := by
  rw [← branch_nil store.containers.find?]
  refine StopsAt.branch ⟨.container, key, .pod, parent⟩ rfl fun template => ?_
  exact (StopsAt.drawId .container rfl key).andThen fun id => .pure _

theorem stopsAt_growPod (parent key : String) :
    StopsAt
      (firstFault? store (branch store.pods.find? podMentions ⟨.pod, key, .vnode, parent⟩))
      (fun _ => 0) (store.growPod parent key) := by
  refine StopsAt.branch ⟨.pod, key, .vnode, parent⟩ rfl fun pod => ?_
  rw [podMentions, List.map_eq_flatMap]
  have below := StopsAt.mapM fun key (_ : key ∈ pod.containers) =>
    stopsAt_growContainer store pod.key key
  exact below.andThen fun grown => (StopsAt.drawId .pod rfl key).andThen fun id => .pure _

theorem stopsAt_growVNode (parent key : String) :
    StopsAt
      (firstFault? store
        (branch store.vnodes.find? (vnodeMentions store) ⟨.vnode, key, .node, parent⟩))
      (oneOf .vnode) (store.growVNode parent key) := by
  refine StopsAt.branch ⟨.vnode, key, .node, parent⟩ rfl fun vnode => ?_
  have below := StopsAt.mapM fun key (_ : key ∈ vnode.pods) => stopsAt_growPod store vnode.key key
  refine StopsAt.costing (below.andThen fun grown => .drawBoth .vnode rfl rfl key) fun kind => ?_
  rw [Nat.mul_zero, Nat.zero_add]

/-- Growing a node stops at the first mention below it that leads nowhere. It takes one
address for the node and one for each vnode that it lists. -/
theorem stopsAt_growNode (node : NodeTemplate) :
    StopsAt (firstFault? store (nodeMentions store node))
      (fun kind => node.vnodes.length * oneOf .vnode kind + oneOf .node kind)
      (store.growNode node) := by
  have below := StopsAt.mapM fun key (_ : key ∈ node.vnodes) =>
    stopsAt_growVNode store node.key key
  exact below.andThen fun grown => .drawBoth .node rfl rfl node.key

/-- Every copy of a node stops where the first one does, so further ones change nothing. -/
theorem stopsAt_growNodes (node : NodeTemplate) (times : Nat) (done : List Grown) :
    StopsAt (if times = 0 then none else firstFault? store (nodeMentions store node))
      (fun kind => times * (node.vnodes.length * oneOf .vnode kind + oneOf .node kind))
      (store.growNodes node times done) := by
  induction times generalizing done with
  | zero => exact (StopsAt.pure _).costing fun kind => (Nat.zero_mul _).symm
  | succ times ih =>
      rw [Store.growNodes, if_neg (Nat.succ_ne_zero times)]
      have both := (stopsAt_growNode store node).bind fun grown => ih (grown :: done)
      have whole := both.costing fun kind => (Nat.add_comm _ _).trans (Nat.succ_mul times _).symm
      split at whole
      · rwa [Option.or_none] at whole
      · rwa [Option.or_self] at whole

/-- Expanding a node that is to be expanded at all stops at the first error of the walk. -/
theorem stopsAt_expandNode (node : NodeTemplate) :
    StopsAt (if node.num.toNat = 0 then none else (store.missingBelow node).head?) node.demand
      (store.expandNode node) := by
  rw [head?_missingBelow]
  refine (stopsAt_growNodes store node node.num.toNat []).costing fun kind => ?_
  cases kind <;> simp [oneOf, NodeTemplate.demand]

end Levels

/-! ### The walk and the growing -/

/-- The walk and the growing agree. A node below which nothing is missing is expanded, and then
as many addresses were left as it asks for, or the addresses run out. A node that is to be
expanded at all and below which something is missing is never expanded: it fails with the
first error of the walk, unless the addresses run out before. They run out only where an
allocator has no next address and fewer were left than the node asks for. -/
theorem expandNode_of_missingBelow (store : Store) (node : NodeTemplate) (context : Context) :
    (store.missingBelow node = [] →
      (∃ instances after, store.expandNode node context = .ok instances after ∧
        ∀ kind, (node.demand kind : Int) ≤ context.remaining kind) ∨
        ∃ error after, store.expandNode node context = .error error after ∧
          RanOut node.demand context error after) ∧
    ∀ first others, store.missingBelow node = first :: others → 1 ≤ node.num.toNat →
      ∃ error after, store.expandNode node context = .error error after ∧
        (error = first ∨ RanOut node.demand context error after) := by
  have stops := stopsAt_expandNode store node context
  constructor
  · intro complete
    rw [complete, List.head?_nil, ite_self] at stops
    cases ran : store.expandNode node context with
    | ok instances after =>
        rw [ran] at stops
        refine Or.inl ⟨instances, after, rfl, fun kind => ?_⟩
        have used := stops.2 kind
        have left := after.remaining_nonneg kind
        omega
    | error error after =>
        rw [ran] at stops
        rcases stops with ⟨⟨⟩⟩ | short
        exact Or.inr ⟨error, after, rfl, short⟩
  · intro first others missing repeated
    rw [missing, List.head?_cons, if_neg (Nat.one_le_iff_ne_zero.mp repeated)] at stops
    cases ran : store.expandNode node context with
    | ok instances after =>
        rw [ran] at stops
        cases stops.1
    | error error after =>
        rw [ran] at stops
        refine ⟨error, after, rfl, ?_⟩
        rcases stops with same | short
        · exact Or.inl (Option.some.inj same).symm
        · exact Or.inr short

/-- A node that is complete, one that lists a vnode that is not there, and the complete one
again where but one address is left for its two vnodes. -/
theorem expandNode_of_missingBelow_ghost :
    let one := Number.integer 1
    let whole : NodeTemplate := ⟨"b", one, one, ["b"], 2⟩
    let node : NodeTemplate := ⟨"c", one, one, ["b", "ghost"], 1⟩
    let context := Context.fresh .shared ⟨10, 0, 0, 253⟩ ⟨10, 1, 0, 1⟩
    let spent := Context.fresh .shared ⟨254, 254, 254, 253⟩ ⟨10, 1, 0, 1⟩
    (Store.twofold.missingBelow whole = [] ∧
      ∃ instances after, Store.twofold.expandNode whole context = .ok instances after) ∧
    (Store.twofold.missingBelow node = [.notFound .vnode "ghost" .node "c"] ∧
      1 ≤ node.num.toNat ∧
      ∃ after, Store.twofold.expandNode node context =
        .error (.notFound .vnode "ghost" .node "c") after) ∧
    ∃ error after, Store.twofold.expandNode whole spent = .error error after ∧
      RanOut whole.demand spent error after := by
  intro one whole node context spent
  have complete : Store.twofold.missingBelow whole = [] := by decide +kernel
  have missing : Store.twofold.missingBelow node = [.notFound .vnode "ghost" .node "c"] := by
    decide +kernel
  have repeated : 1 ≤ node.num.toNat := by decide
  -- Both nodes find addresses enough in the first context.
  have enough : ∀ kind, ¬ context.remaining kind < whole.demand kind ∧
      ¬ context.remaining kind < node.demand kind := by
    intro kind
    cases kind <;> decide +kernel
  refine ⟨⟨complete, ?_⟩, ⟨missing, repeated, ?_⟩, ?_⟩
  · rcases (expandNode_of_missingBelow Store.twofold whole context).1 complete with
      ⟨instances, after, ran, -⟩ | ⟨error, after, -, kind, -, -, -, -, -, short⟩
    · exact ⟨instances, after, ran⟩
    · exact absurd short (enough kind).1
  · obtain ⟨error, after, ran, rfl | ⟨kind, -, -, -, -, -, short⟩⟩ :=
      (expandNode_of_missingBelow Store.twofold node context).2 _ _ missing repeated
    · exact ⟨after, ran⟩
    · exact absurd short (enough kind).2
  · rcases (expandNode_of_missingBelow Store.twofold whole spent).1 complete with
      ⟨instances, after, -, enough⟩ | ran
    · exact absurd (enough .vnode) (by decide +kernel)
    · exact ran

end ClusterTopology
