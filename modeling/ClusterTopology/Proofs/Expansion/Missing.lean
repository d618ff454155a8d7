import ClusterTopology.Expansion.Missing
import ClusterTopology.Proofs.Unfolding.Basic

/-!
The walk for missing references, without its short cuts.

A mention is a reference together with the template that lists it.
`nodeMentions` lists every mention below a node, depth first and with all
repetitions. `belowNode_eq_foldl` says that the walk, which passes over what it has
met, comes out as if it had visited every one of them: whatever stands below a
reference met before has been met before too. `missingBelow_eq_nil_iff` follows:
nothing is reported exactly when every reference below the node leads somewhere.
-/

namespace ClusterTopology.Missing

/-- A reference and the template that lists it. -/
structure Mention where
  kind : Kind
  key : String
  parentKind : Kind
  parentKey : String
  deriving DecidableEq, Repr

namespace Mention

def reference (mention : Mention) : Reference := (mention.kind, mention.key)

/-- What is reported when the reference leads nowhere. -/
def error (mention : Mention) : Error :=
  .notFound mention.kind mention.key mention.parentKind mention.parentKey

end Mention

/-- A mention and the mentions below it, where it leads somewhere. -/
def branch {α : Type} (find? : String → Option α) (mentions : α → List Mention)
    (mention : Mention) : List Mention :=
  mention :: (find? mention.key).elim [] mentions

section Mentions

variable (store : Store)

/-- The mentions in a pod. -/
def podMentions (pod : PodTemplate) : List Mention :=
  pod.containers.map fun key => ⟨.container, key, .pod, pod.key⟩

/-- The mentions in a vnode, each followed by those below it. -/
def vnodeMentions (vnode : VNodeTemplate) : List Mention :=
  vnode.pods.flatMap fun key =>
    branch store.pods.find? podMentions ⟨.pod, key, .vnode, vnode.key⟩

/-- The mentions in a node, each followed by those below it. -/
def nodeMentions (node : NodeTemplate) : List Mention :=
  node.vnodes.flatMap fun key =>
    branch store.vnodes.find? (vnodeMentions store) ⟨.vnode, key, .node, node.key⟩

/-- Visit one mention: a reference met before is passed over, one that leads nowhere
is reported. -/
def visit (walk : Walk) (mention : Mention) : Walk :=
  if walk.met.contains mention.reference then walk
  else if store.contains mention.kind mention.key then walk.meet mention.reference
  else (walk.meet mention.reference).report mention.error

end Mentions

/-! ### Visits -/

section Visits

variable {store : Store}

/-- A visit meets its own reference and no other. -/
theorem mem_met_visit {walk : Walk} {mention : Mention} {reference : Reference} :
    reference ∈ (visit store walk mention).met ↔
      reference = mention.reference ∨ reference ∈ walk.met := by
  simp only [visit, List.contains_iff_mem]
  split
  · rename_i met
    exact ⟨Or.inr, fun h => h.elim (fun same => same ▸ met) id⟩
  · split <;> simp [Walk.meet, Walk.report]

theorem mem_met_foldl_visit {mentions : List Mention} {walk : Walk} {reference : Reference} :
    reference ∈ (mentions.foldl (visit store) walk).met ↔
      (∃ mention ∈ mentions, reference = mention.reference) ∨ reference ∈ walk.met := by
  induction mentions generalizing walk with
  | nil => simp
  | cons mention mentions ih =>
      rw [List.foldl_cons, ih, mem_met_visit]
      simp only [List.mem_cons, exists_eq_or_imp, or_assoc, or_left_comm]

/-- Visits to references that have all been met change nothing. -/
theorem foldl_visit_of_met {mentions : List Mention} {walk : Walk}
    (met : ∀ mention ∈ mentions, mention.reference ∈ walk.met) :
    mentions.foldl (visit store) walk = walk := by
  induction mentions with
  | nil => rfl
  | cons mention mentions ih =>
      have here : visit store walk mention = walk :=
        if_pos (List.contains_iff_mem.mpr (met mention List.mem_cons_self))
      rw [List.foldl_cons, here]
      exact ih fun other member => met other (List.mem_cons_of_mem _ member)

/-- A visit reports nothing exactly when the reference was known or leads somewhere. -/
theorem errors_visit_eq_nil_iff {walk : Walk} {mention : Mention} :
    (visit store walk mention).errors = [] ↔ walk.errors = [] ∧
      (mention.reference ∈ walk.met ∨ store.contains mention.kind mention.key = true) := by
  simp only [visit, List.contains_iff_mem]
  split
  · rename_i met
    simp [met]
  · rename_i unmet
    split
    · rename_i leads
      simp [Walk.meet, leads]
    · rename_i dangles
      simp [Walk.meet, Walk.report, unmet, dangles]

/-- Nothing has been reported exactly when every reference visited was known or leads
somewhere. -/
theorem errors_foldl_visit_eq_nil_iff {mentions : List Mention} {walk : Walk} :
    (mentions.foldl (visit store) walk).errors = [] ↔ walk.errors = [] ∧
      ∀ mention ∈ mentions, mention.reference ∈ walk.met ∨
        store.contains mention.kind mention.key = true := by
  induction mentions generalizing walk with
  | nil => simp
  | cons mention mentions ih =>
      rw [List.foldl_cons, ih, List.forall_mem_cons, errors_visit_eq_nil_iff, and_assoc]
      refine and_congr_right fun _ => and_congr_right fun here => ?_
      refine forall_congr' fun other => forall_congr' fun _ => ?_
      rw [mem_met_visit]
      constructor
      · rintro ((same | met) | leads)
        · have sameKind : other.kind = mention.kind := congrArg Prod.fst same
          have sameKey : other.key = mention.key := congrArg Prod.snd same
          rw [same, sameKind, sameKey]
          exact here
        · exact Or.inl met
        · exact Or.inr leads
      · rintro (met | leads)
        · exact Or.inl (Or.inr met)
        · exact Or.inr leads

end Visits

/-! ### The walk visits every mention -/

section Walks

variable {store : Store}

/-- Below every reference of this kind that has been met, everything has been met. -/
def Settled {α : Type} (kind : Kind) (find? : String → Option α) (mentions : α → List Mention)
    (walk : Walk) : Prop :=
  ∀ key template, (kind, key) ∈ walk.met → find? key = some template →
    ∀ mention ∈ mentions template, mention.reference ∈ walk.met

section Follow

variable {α : Type} {kind : Kind} {find? : String → Option α} {below : Walk → α → Walk}
  {mentions : α → List Mention}

/-- Visiting a whole branch keeps its kind settled. -/
theorem Settled.foldl_branch (store : Store) {walk : Walk} (settled : Settled kind find? mentions walk)
    (others : ∀ template, ∀ mention ∈ mentions template, mention.kind ≠ kind)
    (mention : Mention) :
    Settled kind find? mentions ((branch find? mentions mention).foldl (visit store) walk) := by
  intro key template met found lower member
  rw [mem_met_foldl_visit] at met ⊢
  rcases met with ⟨other, inside, same⟩ | met
  · rcases List.mem_cons.mp inside with rfl | inside
    · have sameKey : other.key = key := (congrArg Prod.snd same).symm
      refine Or.inl ⟨lower, List.mem_cons_of_mem _ ?_, rfl⟩
      simpa [sameKey, found] using member
    · cases leads : find? mention.key with
      | none => simp [leads] at inside
      | some reached =>
          have inside : other ∈ mentions reached := by simpa [leads] using inside
          exact absurd (congrArg Prod.fst same).symm (others reached other inside)
  · exact Or.inr (settled key template met found lower member)

/-- Following one reference is visiting its branch. `keeps` is whatever the walk below
needs and keeps. -/
theorem follow_single {keeps : Walk → Prop} {walk : Walk} (parentKind : Kind)
    (parentKey key : String)
    (stored : store.contains kind key = (find? key).isSome)
    (meets : ∀ {walk}, keeps walk → keeps (walk.meet (kind, key)))
    (reports : ∀ {walk} error, keeps walk → keeps (walk.report error))
    (lower : ∀ {walk} template, keeps walk →
      below walk template = (mentions template).foldl (visit store) walk ∧
        keeps (below walk template))
    (kept : keeps walk) (settled : Settled kind find? mentions walk) :
    follow kind find? parentKind parentKey below walk [key] =
        (branch find? mentions ⟨kind, key, parentKind, parentKey⟩).foldl (visit store) walk ∧
      keeps (follow kind find? parentKind parentKey below walk [key]) := by
  simp only [follow, List.foldl_cons, List.foldl_nil, branch, visit, Mention.reference, stored,
    List.contains_iff_mem]
  by_cases met : (kind, key) ∈ walk.met
  · simp only [met, if_true]
    refine ⟨?_, kept⟩
    cases found : find? key with
    | none => rfl
    | some template =>
        exact (foldl_visit_of_met (settled key template met found)).symm
  · simp only [met, if_false]
    cases found : find? key with
    | none => exact ⟨rfl, reports _ (meets kept)⟩
    | some template => exact lower template (meets kept)

/-- Following references is visiting their branches one after the other. -/
theorem follow_eq_foldl (keeps : Walk → Prop) (mentions : α → List Mention) {walk : Walk}
    (parentKind : Kind) (parentKey : String) (keys : List String)
    (stored : ∀ key, store.contains kind key = (find? key).isSome)
    (meets : ∀ {walk} key, keeps walk → keeps (walk.meet (kind, key)))
    (reports : ∀ {walk} error, keeps walk → keeps (walk.report error))
    (lower : ∀ {walk} template, keeps walk →
      below walk template = (mentions template).foldl (visit store) walk ∧
        keeps (below walk template))
    (others : ∀ template, ∀ mention ∈ mentions template, mention.kind ≠ kind)
    (kept : keeps walk) (settled : Settled kind find? mentions walk) :
    follow kind find? parentKind parentKey below walk keys =
        (keys.flatMap fun key => branch find? mentions ⟨kind, key, parentKind, parentKey⟩).foldl
          (visit store) walk ∧
      keeps (follow kind find? parentKind parentKey below walk keys) ∧
      Settled kind find? mentions (follow kind find? parentKind parentKey below walk keys) := by
  induction keys generalizing walk with
  | nil => exact ⟨rfl, kept, settled⟩
  | cons key keys ih =>
      obtain ⟨first, firstKept⟩ := follow_single parentKind parentKey key (stored key)
        (meets key) reports lower kept settled
      have firstSettled := settled.foldl_branch store others ⟨kind, key, parentKind, parentKey⟩
      rw [← first] at firstSettled
      have rest := ih firstKept firstSettled
      rw [List.flatMap_cons, List.foldl_append, ← first]
      exact rest

end Follow

/-! ### Level by level -/

/-- Nothing is below a container. -/
theorem branch_nil {α : Type} (find? : String → Option α) (mention : Mention) :
    branch find? (fun _ => []) mention = [mention] := by
  unfold branch
  cases find? mention.key <;> rfl

/-- The walk below a pod visits the mentions in it. -/
theorem belowPod_eq_foldl (walk : Walk) (pod : PodTemplate) :
    belowPod store walk pod = (podMentions pod).foldl (visit store) walk := by
  have visits : belowPod store walk pod = _ ∧ _ :=
    follow_eq_foldl (fun _ => True) (fun _ => []) .pod pod.key
      pod.containers (fun _ => rfl) (fun _ _ => trivial) (fun _ _ => trivial)
      (fun _ _ => ⟨rfl, trivial⟩) (by simp) trivial (by simp [Settled])
  simpa only [branch_nil, podMentions, List.map_eq_flatMap] using visits.1

/-- Meeting a reference of another kind, or reporting one, leaves a kind settled. -/
theorem Settled.meet {α : Type} {kind : Kind} {find? : String → Option α}
    {mentions : α → List Mention} {walk : Walk} {reference : Reference}
    (settled : Settled kind find? mentions walk) (other : reference.1 ≠ kind) :
    Settled kind find? mentions (walk.meet reference) := by
  intro key template met found mention member
  rcases List.mem_cons.mp met with same | met
  · exact absurd (congrArg Prod.fst same).symm other
  · exact List.mem_cons_of_mem _ (settled key template met found mention member)

/-- The walk below a vnode visits the mentions in it, and leaves the pods settled. -/
theorem belowVNode_eq_foldl {walk : Walk} (vnode : VNodeTemplate)
    (settled : Settled .pod store.pods.find? podMentions walk) :
    belowVNode store walk vnode = (vnodeMentions store vnode).foldl (visit store) walk ∧
      Settled .pod store.pods.find? podMentions (belowVNode store walk vnode) := by
  have visits : belowVNode store walk vnode = _ ∧ _ :=
    follow_eq_foldl (fun _ => True) podMentions .vnode vnode.key vnode.pods (fun _ => rfl)
      (fun _ _ => trivial) (fun _ _ => trivial)
      (fun pod _ => ⟨belowPod_eq_foldl _ pod, trivial⟩) (by simp [podMentions]) trivial settled
  exact ⟨visits.1, visits.2.2⟩

/-- A vnode mentions pods, and below them containers. -/
theorem kind_ne_of_mem_vnodeMentions {vnode : VNodeTemplate} {mention : Mention}
    (member : mention ∈ vnodeMentions store vnode) : mention.kind ≠ .vnode := by
  obtain ⟨key, -, inside⟩ := List.mem_flatMap.mp member
  rcases List.mem_cons.mp inside with rfl | inside
  · simp
  · cases found : store.pods.find? key with
    | none => simp [found] at inside
    | some pod =>
        simp only [found, Option.elim_some, podMentions] at inside
        obtain ⟨_, -, rfl⟩ := List.mem_map.mp inside
        simp

/-- The walk below a node visits every mention below it. -/
theorem belowNode_eq_foldl (node : NodeTemplate) :
    belowNode store node = (nodeMentions store node).foldl (visit store) {} := by
  have visits : belowNode store node = _ ∧ _ :=
    follow_eq_foldl (Settled .pod store.pods.find? podMentions) (vnodeMentions store) .node
      node.key node.vnodes (fun _ => rfl) (fun _ settled => settled.meet (by simp))
      (fun _ settled => settled) (fun vnode settled => belowVNode_eq_foldl vnode settled)
      (fun _ _ member => kind_ne_of_mem_vnodeMentions member) (by simp [Settled])
      (by simp [Settled])
  exact visits.1

/-! ### What is reported -/

/-- Every mention in a branch leads somewhere exactly when the first does and those
below it do. -/
theorem forall_mem_branch_iff {α : Type} {find? : String → Option α}
    {mentions : α → List Mention} {mention : Mention}
    (stored : store.contains mention.kind mention.key = (find? mention.key).isSome) :
    (∀ other ∈ branch find? mentions mention, store.contains other.kind other.key = true) ↔
      ∃ template, find? mention.key = some template ∧
        ∀ other ∈ mentions template, store.contains other.kind other.key = true := by
  unfold branch
  cases found : find? mention.key with
  | none => simp [stored, found]
  | some template => simp [stored, found]

/-- Every mention below a node leads somewhere exactly when the node resolves. -/
theorem nodeMentions_lead_iff (node : NodeTemplate) :
    (∀ mention ∈ nodeMentions store node, store.contains mention.kind mention.key = true) ↔
      store.nodeResolves node = true := by
  simp only [nodeMentions, List.forall_mem_flatMap, store.nodeResolves_iff,
    store.vnodeResolves_iff, store.podResolves_iff]
  refine forall₂_congr fun vnodeKey _ => (forall_mem_branch_iff rfl).trans ?_
  refine exists_congr fun vnode => and_congr_right fun _ => ?_
  rw [vnodeMentions, List.forall_mem_flatMap]
  refine forall₂_congr fun podKey _ => (forall_mem_branch_iff rfl).trans ?_
  refine exists_congr fun pod => and_congr_right fun _ => ?_
  simp [podMentions, Store.contains]

end Walks

end ClusterTopology.Missing

namespace ClusterTopology.Store

/-- Nothing is missing below a node exactly when every reference below it leads
somewhere. -/
theorem missingBelow_eq_nil_iff {store : Store} {node : NodeTemplate} :
    store.missingBelow node = [] ↔ store.nodeResolves node = true := by
  rw [missingBelow, List.reverse_eq_nil_iff, Missing.belowNode_eq_foldl,
    Missing.errors_foldl_visit_eq_nil_iff, ← Missing.nodeMentions_lead_iff]
  simp

theorem isEmpty_missingBelow (store : Store) (node : NodeTemplate) :
    (store.missingBelow node).isEmpty = store.nodeResolves node := by
  rw [Bool.eq_iff_iff, List.isEmpty_iff, missingBelow_eq_nil_iff]

end ClusterTopology.Store
