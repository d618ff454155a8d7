import ClusterTopology.Proofs.Expansion.Growth
import ClusterTopology.Proofs.Expansion.Missing

/-!
A whole run.

Expanding a store does to the allocators what emitting its unfolding does, skipped
nodes and all, and ends as that does: `expand_ended`. The nodes skipped are those under
which a reference dangles, each with what is missing below it, and the fallback that
skips a node after growing it has failed is never taken.
-/

namespace ClusterTopology

open Allocating

namespace Store

/-- What is reported of those of these nodes under which a reference dangles. -/
def skipped (store : Store) (nodes : List NodeTemplate) : List Skipped :=
  (nodes.filter fun node => !store.nodeResolves node).map fun node =>
    ⟨.node, node.key, store.missingBelow node⟩

end Store

/-- How a run ended, without its notices. -/
def Run.ended (run : Run) : EStateM.Result Error Context Expansion :=
  match run.result with
  | .ok expansion => .ok expansion run.context
  | .error error => .error error run.context

theorem Run.exists_of_isOk {run : Run} (ended : run.result.isOk = true) :
    ∃ expansion, run.result = .ok expansion := by
  cases result : run.result with
  | ok expansion => exact ⟨expansion, rfl⟩
  | error error =>
      rw [result] at ended
      cases ended

/-- What is read off the result of a run tells that the run came to its end. -/
theorem Run.exists_of_map_result {α : Type} {run : Run} {read : Expansion → α} {value : α}
    (known : run.result.toOption.map read = some value) :
    ∃ expansion, run.result = .ok expansion ∧ read expansion = value := by
  cases result : run.result with
  | ok expansion =>
      rw [result] at known
      exact ⟨expansion, rfl, Option.some.inj known⟩
  | error error =>
      rw [result] at known
      cases known

theorem Run.ended_eq_ok_iff {run : Run} {expansion : Expansion} {after : Context} :
    run.ended = .ok expansion after ↔ run.result = .ok expansion ∧ run.context = after := by
  obtain ⟨result, context, notices⟩ := run
  cases result <;> simp [ended]

theorem Run.ended_eq_error_iff {run : Run} {error : Error} {after : Context} :
    run.ended = .error error after ↔ run.result = .error error ∧ run.context = after := by
  obtain ⟨result, context, notices⟩ := run
  cases result <;> simp [ended]

/-- Expanding nodes in order, as a computation. -/
def Store.expanding (store : Store) (nodes : List NodeTemplate) : Allocating Expansion :=
  fun before => (store.expandNodes nodes before).ended

section Nodes

variable {store : Store} {node : NodeTemplate} {nodes : List NodeTemplate}

theorem Run.ended_skipping (errors : List Error) (notices : List Notice) (run : Run) :
    (run.skipping node errors notices).ended = match run.ended with
      | .ok expansion after =>
        .ok { expansion with skipped := ⟨.node, node.key, errors⟩ :: expansion.skipped } after
      | .error error after => .error error after := by
  obtain ⟨result, context, given⟩ := run
  cases result <;> rfl

theorem Run.ended_after (instances : List Instance) (run : Run) :
    (run.after instances).ended = match run.ended with
      | .ok expansion after =>
        .ok { expansion with topology := ⟨instances ++ expansion.topology.instances⟩ } after
      | .error error after => .error error after := by
  obtain ⟨result, context, given⟩ := run
  cases result <;> rfl

/-- Growing a node under which no reference dangles fails only when the addresses have
run out. -/
theorem expandNode_error_isFatal {error : Error} {before after : Context}
    (resolves : store.nodeResolves node = true)
    (refused : store.expandNode node before = .error error after) : error.isFatal = true := by
  have alike := agree_expandNode resolves before
  rw [refused] at alike
  exact emitAll_error_isFatal alike.of_error

/-- A node under which a reference dangles is skipped, and nothing is drawn for it. -/
theorem expanding_cons_of_dangles (dangles : ¬ store.nodeResolves node = true) :
    store.expanding (node :: nodes) = do
      let expansion ← store.expanding nodes
      return { expansion with
        skipped := ⟨.node, node.key, store.missingBelow node⟩ :: expansion.skipped } := by
  have missing : store.missingBelow node ≠ [] :=
    fun none => dangles (Store.missingBelow_eq_nil_iff.mp none)
  obtain ⟨error, errors, listed⟩ := List.exists_cons_of_ne_nil missing
  funext before
  simp only [Store.expanding, Store.expandNodes, listed, Run.ended_skipping, bind, EStateM.bind]
  cases (store.expandNodes nodes before).ended <;> rfl

/-- Any other node is grown, and the fallback for a failure is not taken. -/
theorem expanding_cons_of_resolves (resolves : store.nodeResolves node = true) :
    store.expanding (node :: nodes) = do
      let instances ← store.expandNode node
      let expansion ← store.expanding nodes
      return { expansion with topology := ⟨instances ++ expansion.topology.instances⟩ } := by
  have complete := Store.missingBelow_eq_nil_iff.mpr resolves
  funext before
  simp only [Store.expanding, Store.expandNodes, complete, bind, EStateM.bind, EStateM.run]
  cases grown : store.expandNode node before with
  | error error middle =>
      have fatal := expandNode_error_isFatal resolves grown
      simp only [fatal, if_true]
      rfl
  | ok instances middle =>
      simp only [Run.ended_after]
      cases (store.expandNodes nodes middle).ended <;> rfl

end Nodes

/-! ### The run as an emission -/

/-- An expansion of these nodes whose instances are assembled from `bares`. -/
structure Assembled (store : Store) (nodes : List NodeTemplate) (bares : List Instance)
    (expansion : Expansion) : Prop where
  bears : Bears (store.unfoldNodes nodes) bares expansion.topology.instances
  skipped_eq : expansion.skipped = store.skipped nodes
  ignored_eq : expansion.ignoredServices = []

/-- Expanding nodes agrees with emitting the unfolding of those that resolve. -/
theorem agree_expanding (store : Store) (nodes : List NodeTemplate) :
    Agree (Assembled store nodes) (emitAll (store.unfoldNodes nodes)) (store.expanding nodes) := by
  induction nodes with
  | nil => exact .pure ⟨⟨rfl, fun _ _ _ => rfl⟩, rfl, rfl⟩
  | cons node nodes ih =>
      by_cases resolves : store.nodeResolves node = true
      · have unfolded : store.unfoldNodes (node :: nodes) =
            store.copies node ++ store.unfoldNodes nodes := by
          simp [Store.unfoldNodes, resolves]
        rw [expanding_cons_of_resolves resolves, unfolded, emitAll_append]
        refine (agree_expandNode resolves).bind fun bares instances first => ?_
        refine ih.bind fun more expansion rest => .pure ⟨?_, ?_, rest.ignored_eq⟩
        · rw [unfolded]
          exact first.append rest.bears
        · simpa [Store.skipped, resolves] using rest.skipped_eq
      · have unfolded : store.unfoldNodes (node :: nodes) = store.unfoldNodes nodes := by
          simp [Store.unfoldNodes, resolves]
        rw [expanding_cons_of_dangles resolves, unfolded, ← bind_pure (emitAll _)]
        refine ih.bind fun bares expansion rest => .pure ⟨?_, ?_, rest.ignored_eq⟩
        · rw [unfolded]
          exact rest.bears
        · simp [Store.skipped, resolves, rest.skipped_eq]

/-- The expansion of a store whose unfolding was emitted as these instances. -/
def Store.assembled (store : Store) (bares : List Instance) : Expansion where
  topology := ⟨assemble (idsOf bares) 0 store.unfolding bares⟩
  skipped := store.skipped store.nodes.values
  ignoredServices := store.services.values.map ServiceTemplate.key

/-- A run does what emitting the unfolding does, and ends as that does. -/
theorem expand_ended (store : Store) (context : Context) :
    (store.expand context).ended = match emitAll store.unfolding context with
      | .ok bares after => .ok (store.assembled bares) after
      | .error error after => .error error after := by
  have alike := agree_expanding store store.nodes.values context
  unfold Store.expanding at alike
  unfold Store.expand
  generalize store.expandNodes store.nodes.values context = run at alike
  obtain ⟨result, after, notices⟩ := run
  cases result with
  | error error =>
      have refused : emitAll store.unfolding context = _ := alike.of_error
      rw [refused]
      rfl
  | ok expansion =>
      obtain ⟨bares, emitted, grown⟩ := alike.of_ok
      have emitted : emitAll store.unfolding context = _ := emitted
      obtain ⟨⟨instances⟩, skipped, ignored⟩ := expansion
      obtain rfl : skipped = _ := grown.skipped_eq
      obtain rfl : _ = instances := grown.bears.assembled _ 0 (names_idsOf bares)
      rw [emitted]
      rfl

/-- An expansion that comes to its end has emitted its unfolding. -/
theorem expand_ok {store : Store} {context : Context} {expansion : Expansion}
    (finished : (store.expand context).result = .ok expansion) :
    ∃ bares, emitAll store.unfolding context = .ok bares (store.expand context).context ∧
      store.assembled bares = expansion := by
  have ended := expand_ended store context
  rw [Run.ended_eq_ok_iff.mpr ⟨finished, rfl⟩] at ended
  split at ended
  · rename_i bares after emitted
    obtain ⟨rfl, rfl⟩ := EStateM.Result.ok.inj ended
    exact ⟨bares, emitted, rfl⟩
  · cases ended

/-- An expansion that fails has failed to emit its unfolding. -/
theorem expand_error {store : Store} {context : Context} {error : Error}
    (failed : (store.expand context).result = .error error) :
    emitAll store.unfolding context = .error error (store.expand context).context := by
  have ended := expand_ended store context
  rw [Run.ended_eq_error_iff.mpr ⟨failed, rfl⟩] at ended
  split at ended
  · cases ended
  · rename_i reason after refused
    obtain ⟨rfl, rfl⟩ := EStateM.Result.error.inj ended
    exact refused

/-! ### What a run issues -/

/-- An expansion that comes to its end has issued what its instances bear. -/
theorem expand_ok_issues {store : Store} {context : Context} {expansion : Expansion}
    (finished : (store.expand context).result = .ok expansion) :
    Issues context (expansion.topology.instances.flatMap Instance.issues)
      (store.expand context).context := by
  obtain ⟨bares, emitted, rfl⟩ := expand_ok finished
  rw [Store.assembled, flatMap_issues_assemble (length_of_emitAll_ok emitted)]
  exact emitAll_ok_issues emitted

/-- An expansion that fails has issued something on its way. -/
theorem expand_error_issues {store : Store} {context : Context} {error : Error}
    (failed : (store.expand context).result = .error error) :
    ∃ log, Issues context log (store.expand context).context :=
  emitAll_error_issues (expand_error failed)

end ClusterTopology
