import Mathlib.Data.List.Basic
import Mathlib.Data.List.Induction
import Mathlib.Logic.Relation
import ClusterTopology.Proofs.Expansion.Run
import ClusterTopology.Proofs.Template.Shelf

/-!
What is reported as missing.

A template lists keys, and a key leads to the template that the store holds under it:
`Store.Reaches` follows such references any number of times. The mentions below a node are
those made by the templates that the node reaches (`mem_mentionsIn_iff_reaches`), and the
walk reports of them exactly the references that lead nowhere, each by its first mention and
in the order of the first mentions (`FirstOfMissing`). `missingBelow_exact` says so of every
node, and which nodes an expansion skips on account of it.
-/

namespace ClusterTopology

/-! ### Reached templates -/

/-- How far above the leaves a kind stands. -/
def Kind.height : Kind → Nat
  | .container | .service => 0
  | .pod => 1
  | .vnode => 2
  | .node => 3

/-- The template lists this key among those of this kind. -/
def Template.Lists (template : Template) (kind : Kind) (key : String) : Prop :=
  template.kind.below? = some kind ∧ key ∈ template.references

namespace Store

/-- The upper template lists a key under which the store holds the lower one. -/
def LeadsTo (store : Store) (upper lower : Template) : Prop :=
  ∃ kind key, upper.Lists kind key ∧ store.find? kind key = some lower

/-- The lower template is the upper one, or stands below it through references that lead
somewhere. -/
def Reaches (store : Store) : Template → Template → Prop :=
  Relation.ReflTransGen store.LeadsTo

variable {store : Store}

/-- References lead downwards. -/
theorem LeadsTo.height_lt {upper lower : Template} (leads : store.LeadsTo upper lower) :
    lower.kind.height < upper.kind.height := by
  obtain ⟨kind, key, ⟨below, -⟩, found⟩ := leads
  rw [kind_of_find? found]
  cases upper with
  | container | service => cases below
  | pod | vnode | node =>
      cases below
      exact Nat.lt_add_one _

end Store

namespace Missing

/-- The template makes this mention. -/
def Mention.MadeBy (mention : Mention) (template : Template) : Prop :=
  template.Lists mention.kind mention.key ∧ mention.parentKind = template.kind ∧
    mention.parentKey = template.key

/-- The mentions in a template, each followed by those below it. -/
def mentionsIn (store : Store) : Template → List Mention
  | .pod pod => podMentions pod
  | .vnode vnode => vnodeMentions store vnode
  | .node node => nodeMentions store node
  | .container _ | .service _ => []

section Reached

variable {store : Store} {mention : Mention}

/-- A mention in the branches of a template is made by it, or stands in a template that it
leads to. `wrap` makes templates of the entries that the branches look up. -/
theorem mem_branches_iff {α : Type} (upper : Template) {kind : Kind}
    {find? : String → Option α} {wrap : α → Template} {mentions : α → List Mention}
    (below : upper.kind.below? = some kind)
    (stored : ∀ key, store.find? kind key = (find? key).map wrap)
    (inside : ∀ template, mentionsIn store (wrap template) = mentions template) :
    (mention ∈ upper.references.flatMap fun key =>
        branch find? mentions ⟨kind, key, upper.kind, upper.key⟩) ↔
      mention.MadeBy upper ∨
        ∃ lower, store.LeadsTo upper lower ∧ mention ∈ mentionsIn store lower := by
  simp only [List.mem_flatMap, branch, List.mem_cons]
  constructor
  · rintro ⟨key, listed, rfl | deeper⟩
    · exact Or.inl ⟨⟨below, listed⟩, rfl, rfl⟩
    · cases found : find? key with
      | none => simp [found] at deeper
      | some template =>
          rw [found, Option.elim_some, ← inside] at deeper
          exact Or.inr ⟨wrap template, ⟨kind, key, ⟨below, listed⟩, by rw [stored, found]; rfl⟩,
            deeper⟩
  · rintro (⟨⟨ownBelow, listed⟩, parentKind, parentKey⟩ |
      ⟨lower, ⟨lowerKind, key, ⟨ownBelow, listed⟩, found⟩, deeper⟩)
    · obtain rfl : kind = mention.kind := Option.some.inj (below.symm.trans ownBelow)
      exact ⟨mention.key, listed, Or.inl (by rw [← parentKind, ← parentKey])⟩
    · obtain rfl : kind = lowerKind := Option.some.inj (below.symm.trans ownBelow)
      rw [stored] at found
      obtain ⟨template, own, rfl⟩ := Option.map_eq_some_iff.mp found
      refine ⟨key, listed, Or.inr ?_⟩
      rwa [own, Option.elim_some, ← inside]

theorem mem_mentionsIn_iff {upper : Template} :
    mention ∈ mentionsIn store upper ↔ mention.MadeBy upper ∨
      ∃ lower, store.LeadsTo upper lower ∧ mention ∈ mentionsIn store lower := by
  cases upper with
  | pod pod =>
      have below : (Template.pod pod).kind.below? = some .container := rfl
      rw [mentionsIn, podMentions, List.map_eq_flatMap]
      simp only [← branch_nil store.containers.find?]
      exact mem_branches_iff (.pod pod) below (fun _ => rfl) fun _ => rfl
  | vnode vnode =>
      have below : (Template.vnode vnode).kind.below? = some .pod := rfl
      exact mem_branches_iff (.vnode vnode) below (fun _ => rfl) fun _ => rfl
  | node node =>
      have below : (Template.node node).kind.below? = some .vnode := rfl
      exact mem_branches_iff (.node node) below (fun _ => rfl) fun _ => rfl
  | container template | service template =>
      constructor
      · intro member
        cases member
      · rintro (⟨⟨below, -⟩, -⟩ | ⟨lower, ⟨kind, key, ⟨below, -⟩, -⟩, -⟩) <;> cases below

/-- The mentions in a template are those made by the templates that it reaches. -/
theorem mem_mentionsIn_iff_reaches {upper : Template} :
    mention ∈ mentionsIn store upper ↔
      ∃ lister, store.Reaches upper lister ∧ mention.MadeBy lister := by
  constructor
  · intro member
    induction height : upper.kind.height using Nat.strongRecOn generalizing upper with
    | ind height ih =>
        subst height
        rcases mem_mentionsIn_iff.mp member with made | ⟨lower, leads, below⟩
        · exact ⟨upper, .refl, made⟩
        · obtain ⟨lister, reaches, made⟩ := ih _ leads.height_lt below rfl
          exact ⟨lister, .head leads reaches, made⟩
  · rintro ⟨lister, reaches, made⟩
    induction reaches using Relation.ReflTransGen.head_induction_on with
    | refl => exact mem_mentionsIn_iff.mpr (Or.inl made)
    | head leads _ ih => exact mem_mentionsIn_iff.mpr (Or.inr ⟨_, leads, ih⟩)

/-- The references in a template are those that the templates it reaches list. -/
theorem mem_references_iff (upper : Template) {kind : Kind} {key : String} :
    (kind, key) ∈ (mentionsIn store upper).map Mention.reference ↔
      ∃ lister, store.Reaches upper lister ∧ lister.Lists kind key := by
  rw [List.mem_map]
  constructor
  · rintro ⟨mention, member, ⟨⟩⟩
    obtain ⟨lister, reaches, made⟩ := mem_mentionsIn_iff_reaches.mp member
    exact ⟨lister, reaches, made.1⟩
  · rintro ⟨lister, reaches, lists⟩
    refine ⟨⟨kind, key, lister.kind, lister.key⟩, ?_, rfl⟩
    exact mem_mentionsIn_iff_reaches.mpr ⟨lister, reaches, lists, rfl, rfl⟩

end Reached

/-! ### First mentions -/

/-- These are to be reported of the mentions: of every reference that leads nowhere the first
mention, in the order of the mentions. -/
structure FirstOfMissing (store : Store) (mentions reported : List Mention) : Prop where
  missing : ∀ reference, reference ∈ reported.map Mention.reference ↔
    reference ∈ mentions.map Mention.reference ∧
      store.contains reference.1 reference.2 = false
  first : ∀ mention ∈ reported,
    mentions.find? (fun other => other.reference == mention.reference) = some mention
  ordered : reported.Pairwise fun mention later =>
    (mentions.map Mention.reference).idxOf mention.reference <
      (mentions.map Mention.reference).idxOf later.reference

namespace FirstOfMissing

variable {store : Store} {mentions reported : List Mention} {mention : Mention}

theorem nil (store : Store) : FirstOfMissing store [] [] := ⟨by simp, by simp, .nil⟩

theorem mem_references (firsts : FirstOfMissing store mentions reported)
    (member : mention ∈ reported) : mention.reference ∈ mentions.map Mention.reference :=
  ((firsts.missing _).mp (List.mem_map_of_mem member)).1

/-- First mentions stay first when others follow. -/
theorem first_append (firsts : FirstOfMissing store mentions reported) (more : List Mention) :
    ∀ mention ∈ reported,
      (mentions ++ more).find? (fun other => other.reference == mention.reference) =
        some mention := by
  intro mention member
  rw [List.find?_append, firsts.first mention member, Option.some_or]

/-- Their order stays the same as well. -/
theorem ordered_append (firsts : FirstOfMissing store mentions reported)
    (more : List Mention) :
    reported.Pairwise fun mention later =>
      ((mentions ++ more).map Mention.reference).idxOf mention.reference <
        ((mentions ++ more).map Mention.reference).idxOf later.reference := by
  refine firsts.ordered.imp_of_mem fun member laterMember before => ?_
  rw [List.map_append, List.idxOf_append_of_mem (firsts.mem_references member),
    List.idxOf_append_of_mem (firsts.mem_references laterMember)]
  exact before

/-- A mention of a reference that is known or leads somewhere is not reported. -/
theorem pass (firsts : FirstOfMissing store mentions reported)
    (known : mention.reference ∈ mentions.map Mention.reference ∨
      store.contains mention.kind mention.key = true) :
    FirstOfMissing store (mentions ++ [mention]) reported where
  missing := by
    intro reference
    rw [firsts.missing, List.map_append, List.mem_append]
    refine and_congr_left fun absent => ⟨Or.inl, ?_⟩
    rintro (earlier | last)
    · exact earlier
    · obtain rfl : reference = mention.reference := by simpa using last
      rcases known with earlier | leads
      · exact earlier
      · exact absurd leads (by simpa [Mention.reference] using absent)
  first := firsts.first_append [mention]
  ordered := firsts.ordered_append [mention]

/-- The first mention of a reference that leads nowhere is reported last. -/
theorem report (firsts : FirstOfMissing store mentions reported)
    (fresh : mention.reference ∉ mentions.map Mention.reference)
    (absent : store.contains mention.kind mention.key = false) :
    FirstOfMissing store (mentions ++ [mention]) (reported ++ [mention]) where
  missing := by
    intro reference
    rw [List.map_append, List.map_append, List.mem_append, List.mem_append, firsts.missing]
    by_cases last : reference = mention.reference
    · subst last
      simp [Mention.reference, absent]
    · simp [last]
  first := by
    intro other member
    rcases List.mem_append.mp member with earlier | last
    · exact firsts.first_append [mention] other earlier
    · obtain rfl := List.mem_singleton.mp last
      have unknown : mentions.find? (fun earlier => earlier.reference == other.reference) = none :=
        List.find?_eq_none.mpr fun earlier inside same =>
          fresh (List.mem_map.mpr ⟨earlier, inside, beq_iff_eq.mp same⟩)
      rw [List.find?_append, unknown, Option.none_or]
      exact List.find?_cons_of_pos (beq_self_eq_true _)
  ordered := by
    refine List.pairwise_append.mpr
      ⟨firsts.ordered_append [mention], List.pairwise_singleton _ _, ?_⟩
    intro earlier member other last
    obtain rfl := List.mem_singleton.mp last
    have known := firsts.mem_references member
    rw [List.map_append, List.idxOf_append_of_mem known, List.idxOf_append_of_notMem fresh]
    exact Nat.lt_add_right _ (List.idxOf_lt_length_of_mem known)

/-- No reference is reported twice. -/
theorem nodup (firsts : FirstOfMissing store mentions reported) :
    (reported.map Mention.reference).Nodup := by
  refine List.pairwise_map.mpr (firsts.ordered.imp fun before same => ?_)
  rw [same] at before
  exact Nat.lt_irrefl _ before

end FirstOfMissing

/-- Visiting mentions one after the other reports the first ones of the references that lead
nowhere. -/
theorem foldl_visit_reports (store : Store) (mentions : List Mention) :
    ∃ reported, (mentions.foldl (visit store) {}).errors =
        (reported.map Mention.error).reverse ∧ FirstOfMissing store mentions reported := by
  induction mentions using List.reverseRecOn with
  | nil => exact ⟨[], rfl, .nil store⟩
  | append_singleton mentions mention ih =>
      obtain ⟨reported, errors, firsts⟩ := ih
      have met : mention.reference ∈ (mentions.foldl (visit store) {}).met ↔
          mention.reference ∈ mentions.map Mention.reference := by
        rw [mem_met_foldl_visit, List.mem_map]
        simp [eq_comm]
      rw [List.foldl_append, List.foldl_cons, List.foldl_nil]
      simp only [visit, List.contains_iff_mem, met]
      split
      · rename_i known
        exact ⟨reported, errors, firsts.pass (Or.inl known)⟩
      · rename_i fresh
        split
        · rename_i leads
          exact ⟨reported, errors, firsts.pass (Or.inr leads)⟩
        · rename_i dangles
          refine ⟨reported ++ [mention], ?_, firsts.report fresh (Bool.eq_false_iff.mpr dangles)⟩
          simp [Walk.report, Walk.meet, errors]

end Missing

/-! ### Nodes -/

open Missing

/-- A report of what is missing below a node. -/
structure Store.MissingReport (store : Store) (node : NodeTemplate) (reported : List Mention) :
    Prop where
  /-- A reference is reported exactly when nothing is stored under it and some template that
  the node reaches lists it. -/
  missing : ∀ kind key, (kind, key) ∈ reported.map Mention.reference ↔
    store.contains kind key = false ∧
      ∃ lister, store.Reaches (.node node) lister ∧ lister.Lists kind key
  /-- It is reported once. -/
  once : (reported.map Mention.reference).Nodup
  /-- It is reported for a template that lists it. -/
  made : ∀ mention ∈ reported, ∃ lister, store.Reaches (.node node) lister ∧
    mention.MadeBy lister
  /-- That is the first one that lists it, depth first. -/
  first : ∀ mention ∈ reported,
    (nodeMentions store node).find? (fun other => other.reference == mention.reference) =
      some mention
  /-- The references stand in the order of their first mentions. -/
  ordered : reported.Pairwise fun mention later =>
    ((nodeMentions store node).map Mention.reference).idxOf mention.reference <
      ((nodeMentions store node).map Mention.reference).idxOf later.reference

theorem exists_missingReport (store : Store) (node : NodeTemplate) :
    ∃ reported, store.missingBelow node = reported.map Mention.error ∧
      store.MissingReport node reported := by
  obtain ⟨reported, errors, firsts⟩ := foldl_visit_reports store (nodeMentions store node)
  have report : store.missingBelow node = reported.map Mention.error := by
    rw [Store.missingBelow, belowNode_eq_foldl, errors, List.reverse_reverse]
  refine ⟨reported, report, fun kind key => ?_, firsts.nodup, fun mention member => ?_,
    firsts.first, firsts.ordered⟩
  · rw [firsts.missing, and_comm]
    exact and_congr_right fun _ => mem_references_iff (.node node)
  · have mentioned := List.mem_of_find?_eq_some (firsts.first mention member)
    exact mem_mentionsIn_iff_reaches.mp mentioned

/-- The nodes that an expansion skips are those below which something is missing. -/
theorem skipped_eq_map_filter {store : Store} {context : Context} {expansion : Expansion}
    (finished : (store.expand context).result = .ok expansion) :
    expansion.skipped =
      (store.nodes.values.filter fun node => !(store.missingBelow node).isEmpty).map fun node =>
        ⟨.node, node.key, store.missingBelow node⟩ := by
  obtain ⟨bares, -, rfl⟩ := expand_ok finished
  simp only [Store.assembled, Store.skipped, store.isEmpty_missingBelow]

theorem nodup_map_key_skipped {store : Store} {context : Context} {expansion : Expansion}
    (finished : (store.expand context).result = .ok expansion) :
    (expansion.skipped.map Skipped.key).Nodup := by
  have distinct : (store.nodes.values.map NodeTemplate.key).Nodup := by
    rw [store.nodes.map_keyOf_values]
    exact store.nodes.inStep.nodup
  rw [skipped_eq_map_filter finished, List.map_map]
  exact distinct.sublist (List.filter_sublist.map _)

/-- What is missing below a node is reported exactly: the references listed by the templates
that the node reaches under which nothing is stored, each once, for the first template that
lists it, in the order in which they are first met depth first. An expansion that comes to its
end has skipped the nodes below which something is missing, in the order of the store, each
once and with all that is missing below it. -/
theorem missingBelow_exact (store : Store) :
    (∀ node, ∃ reported, store.missingBelow node = reported.map Mention.error ∧
      store.MissingReport node reported) ∧
    ∀ context expansion, (store.expand context).result = .ok expansion →
      expansion.skipped =
          (store.nodes.values.filter fun node => !(store.missingBelow node).isEmpty).map
            (fun node => ⟨.node, node.key, store.missingBelow node⟩) ∧
        (expansion.skipped.map Skipped.key).Nodup :=
  ⟨exists_missingReport store, fun _ _ finished =>
    ⟨skipped_eq_map_filter finished, nodup_map_key_skipped finished⟩⟩

/-- A node that lists one key as a vnode, below it as a pod and below that as a container, none
of which is stored, and lists it again; and beside it a node that is complete. -/
theorem missingBelow_exact_ghost :
    let one := Number.integer 1
    let store := [
      Template.pod ⟨"p", ["ghost", "a", "ghost"]⟩,
      Template.vnode ⟨"v", one, one, ["p", "ghost", "p"]⟩,
      Template.node ⟨"n", one, one, ["v", "ghost", "v", "ghost"], 3⟩].foldl
        Store.insert .twofold
    let context := Context.fresh .shared ⟨10, 1, 1, 1⟩ ⟨200, 1, 1, 1⟩
    ∃ expansion, (store.expand context).result = .ok expansion ∧
      expansion.skipped = [⟨.node, "n", [.notFound .container "ghost" .pod "p",
        .notFound .pod "ghost" .vnode "v", .notFound .vnode "ghost" .node "n"]⟩] := by
  intro one store context
  obtain ⟨expansion, finished⟩ : ∃ expansion, (store.expand context).result = .ok expansion :=
    Run.exists_of_isOk (by decide +kernel)
  obtain ⟨skipped, -⟩ := (missingBelow_exact store).2 context expansion finished
  exact ⟨expansion, finished, skipped.trans (by decide +kernel)⟩

end ClusterTopology
