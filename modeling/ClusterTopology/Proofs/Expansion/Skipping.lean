import ClusterTopology.Proofs.Expansion.Run
import ClusterTopology.Proofs.Template.Shelf

/-!
Skipping a node leaves no trace but the report of it.

A store and the same store without the nodes under which a reference dangles have one
unfolding (`Store.unfolding_withoutBroken`), so they give the same topology or the same
failure and leave the same allocators behind: `expand_withoutBroken`.
-/

namespace ClusterTopology

namespace Store

variable (store : Store)

/-- The store without the nodes under which a reference dangles. -/
def withoutBroken : Store := { store with nodes := store.nodes.filter store.nodeResolves }

theorem values_nodes_withoutBroken :
    store.withoutBroken.nodes.values = store.nodes.values.filter store.nodeResolves :=
  Register.values_filter _

/-- Nodes are not referred to, so the others resolve as before. -/
theorem nodeResolves_withoutBroken :
    store.withoutBroken.nodeResolves = store.nodeResolves := rfl

theorem unfolding_withoutBroken : store.withoutBroken.unfolding = store.unfolding := by
  rw [unfolding, unfoldNodes, values_nodes_withoutBroken, nodeResolves_withoutBroken,
    List.filter_filter]
  simp only [Bool.and_self]
  rfl

theorem skipped_withoutBroken :
    store.withoutBroken.skipped store.withoutBroken.nodes.values = [] := by
  rw [skipped, values_nodes_withoutBroken, nodeResolves_withoutBroken, List.filter_filter]
  simp

theorem assembled_withoutBroken (bares : List Instance) :
    store.withoutBroken.assembled bares = { store.assembled bares with skipped := [] } := by
  rw [assembled, unfolding_withoutBroken, skipped_withoutBroken]
  rfl

end Store

theorem Error.isFatal_iff {error : Error} :
    error.isFatal = true ↔ ∃ kind key last, error = .addressesExhausted kind key last := by
  cases error <;> simp [isFatal]

/-- Without its broken nodes a store expands to the same topology, or fails alike for want
of addresses, leaves the same allocators behind, and has nothing to skip. -/
theorem expand_withoutBroken (store : Store) (context : Context) :
    (store.withoutBroken.expand context).context = (store.expand context).context ∧
      (store.withoutBroken.expand context).result =
        (store.expand context).result.map (fun expansion => { expansion with skipped := [] }) ∧
      ((∃ expansion, (store.expand context).result = .ok expansion) ∨
        ∃ kind key last,
          (store.expand context).result = .error (.addressesExhausted kind key last)) := by
  have ended := expand_ended store context
  have endedWithout := expand_ended store.withoutBroken context
  rw [store.unfolding_withoutBroken] at endedWithout
  cases emitted : emitAll store.unfolding context with
  | ok bares after =>
      rw [emitted] at ended endedWithout
      obtain ⟨result, left⟩ := Run.ended_eq_ok_iff.mp ended
      obtain ⟨resultWithout, leftWithout⟩ := Run.ended_eq_ok_iff.mp endedWithout
      rw [result, resultWithout, left, leftWithout, store.assembled_withoutBroken]
      exact ⟨rfl, rfl, Or.inl ⟨_, rfl⟩⟩
  | error error after =>
      rw [emitted] at ended endedWithout
      obtain ⟨result, left⟩ := Run.ended_eq_error_iff.mp ended
      obtain ⟨resultWithout, leftWithout⟩ := Run.ended_eq_error_iff.mp endedWithout
      obtain ⟨kind, key, last, rfl⟩ := Error.isFatal_iff.mp (emitAll_error_isFatal emitted)
      rw [result, resultWithout, left, leftWithout]
      exact ⟨rfl, rfl, Or.inr ⟨kind, key, last, rfl⟩⟩

end ClusterTopology
