import ClusterTopology.CommandLine.Outcome
import ClusterTopology.Summary.Basic
import ClusterTopology.Proofs.Expansion.Count
import ClusterTopology.Proofs.Summary.Drawing

/-!
A summary and the run that it sums up.

The rows of a summary are counts of their own, kind by kind, and the outcome of a run is read
off the lists that the run gives. `tallies_rows` says that they agree. However a display draws
tables, the text is the heading, the table of the kinds and a line of status, and, when
anything was dropped, the table of what was dropped (`render_eq`). What that table holds is said
of the table and not of its drawing. What the text tells about the outcome follows
(`tells_render`), and the two together are `summary_agrees`.
-/

namespace ClusterTopology

/-- No instance is a service. -/
theorem Topology.count_service (topology : Topology) : topology.count .service = 0 := by
  rw [count, ofKind, List.length_eq_zero_iff, List.filter_eq_nil_iff]
  intro it _
  cases it <;> simp [Instance.kind]

namespace Store

/-- The nodes that are expanded, as no reference is missing below them. -/
def expandedNodes (store : Store) : List NodeTemplate :=
  store.nodes.values.filter fun node => (store.missingBelow node).isEmpty

/-- Every node is skipped or expanded. -/
theorem count_node (store : Store) :
    store.count .node =
      (store.skipped store.nodes.values).length + store.expandedNodes.length := by
  have size : store.count .node = store.nodes.values.length := store.nodes.inStep.length_values.symm
  rw [size, skipped, List.length_map, expandedNodes, filter_missingBelow, Nat.add_comm]
  exact List.length_eq_length_filter_add store.nodeResolves

end Store

namespace Summary

/-! ### Rows -/

section Rows

variable (store : Store) (topology : Topology) (skipped : List Skipped)

theorem mem_rows_iff {row : Row} : row ∈ rows store topology skipped ↔
    row = ⟨row.kind, store.count row.kind, topology.count row.kind,
      (skipped.filter fun entry => entry.kind == row.kind).length⟩ := by
  rw [rows, List.mem_map]
  constructor
  · rintro ⟨kind, -, rfl⟩
    rfl
  · intro same
    exact ⟨row.kind, Kind.mem_all _, same.symm⟩

theorem totalInstances_eq_sum (rows : List Row) :
    totalInstances rows = (rows.map fun row => row.tally.instances).sum := by
  induction rows with
  | nil => rfl
  | cons row rows ih => rw [List.map_cons, List.sum_cons, ← ih, totalInstances, List.foldr_cons,
      ← totalInstances]

/-- Every instance is counted in one row. -/
theorem sum_instances_rows :
    ((rows store topology skipped).map fun row => row.tally.instances).sum = topology.size := by
  have column : ((rows store topology skipped).map fun row => row.tally.instances).sum =
      topology.count .container + (topology.count .pod + (topology.count .vnode +
        (topology.count .node + (topology.count .service + 0)))) := rfl
  rw [column, topology.count_service, ← topology.size_eq_add]
  omega

/-- Every skipped template is counted in one row. -/
theorem sum_skipped_rows :
    ((rows store topology skipped).map fun row => row.tally.skipped).sum = skipped.length := by
  induction skipped with
  | nil => rfl
  | cons entry skipped ih =>
      rw [List.length_cons, ← ih]
      cases kind : entry.kind <;> simp [rows, Kind.all, kind] <;> omega

end Rows

/-! ### The text -/

/-- The first line of a summary. -/
def heading (colors : Bool) (instances : Nat) : String :=
  let total := inked colors .faint ("[" ++ toString instances ++ " instances]")
  "╭─ Generated Topology " ++ total ++ " ─╮"

/-- What stands before the line of status: the heading and the table of the kinds. -/
def opening (display : Display) (rows : List Row) (instances : Nat) : String :=
  heading display.colors instances ++ "\n" ++ display.draw (kindTable rows) ++ "\n"

/-- The line of status of a run that dropped nothing, or of one that dropped something. -/
def statusLine (colors clean : Bool) : String :=
  if clean then "Status: " ++ inked colors .green "✓" ++ " Complete"
  else "Status: " ++ inked colors .yellow "⚠" ++ " " ++ inked colors .yellow "Partial"

/-- The text of a run that dropped nothing. -/
def completeText (display : Display) (rows : List Row) (instances : Nat) : String :=
  opening display rows instances ++ (statusLine display.colors true ++ "\n")

/-- The text of a run that dropped something, with the table of it. -/
def partialText (display : Display) (rows : List Row) (instances : Nat) (dropped : Table) :
    String :=
  opening display rows instances ++
    (statusLine display.colors false ++ "\n" ++ (display.draw dropped ++ "\n"))

theorem newline_notMem_statusLine (colors clean : Bool) :
    '\n' ∉ (statusLine colors clean).toList := by
  cases colors <;> cases clean <;> decide

/-- The two lines of status differ, so no text is both. -/
theorem completeText_ne_partialText (display : Display) (rows : List Row) (instances : Nat)
    (dropped : Table) :
    completeText display rows instances ≠ partialText display rows instances dropped := by
  intro same
  -- What comes before the line of status is the same in both, so that line decides.
  have ends : statusLine display.colors true ++ "\n" ++ "" =
      statusLine display.colors false ++ "\n" ++ (display.draw dropped ++ "\n") := by
    rw [String.append_empty]
    exact (String.append_right_inj _).mp same
  have lines := congrArg linesOf ends
  rw [linesOf_append, linesOf_append, linesOf_of_notMem (newline_notMem_statusLine _ _),
    linesOf_of_notMem (newline_notMem_statusLine _ _)] at lines
  have first : (statusLine display.colors true).toList = (statusLine display.colors false).toList :=
    (List.cons.inj lines).1
  revert first
  cases display.colors <;> decide

theorem title_eq (colors : Bool) (rows : List Row) :
    title colors rows = heading colors (totalInstances rows) ++ "\n" := by
  have last : " ─╮\n" = " ─╮" ++ "\n" := by decide
  show "╭─ Generated Topology " ++
      inked colors .faint ("[" ++ toString (totalInstances rows) ++ " instances]") ++ " ─╮\n" = _
  rw [last, ← String.append_assoc]
  rfl

/-- The text of a summary is one or the other. -/
theorem render_eq (display : Display) (rows : List Row) (skipped : List Skipped)
    (rejected : Nat) :
    render display rows skipped rejected =
      if skipped.isEmpty && rejected == 0 then completeText display rows (totalInstances rows)
      else partialText display rows (totalInstances rows) (droppedTable skipped rejected) := by
  by_cases clean : skipped = [] ∧ rejected = 0
  · have status : s!"Status: {inked display.colors .green successSign} {statusWord 0}\n" =
        statusLine display.colors true ++ "\n" := by
      cases display.colors <;> rfl
    obtain ⟨rfl, rfl⟩ := clean
    simp only [render, and_self, if_true, List.length_nil, Nat.add_zero]
    rw [status, title_eq]
    rfl
  · have differs : ¬ (skipped.isEmpty && rejected == 0) = true := by
      rw [Bool.and_eq_true, List.isEmpty_iff, beq_iff_eq]
      exact clean
    have dropped : statusWord (skipped.length + rejected) = "Partial" := by
      refine if_neg fun none => clean ?_
      exact ⟨List.length_eq_zero_iff.mp (Nat.eq_zero_of_add_eq_zero_right none),
        Nat.eq_zero_of_add_eq_zero_left none⟩
    have status : ∀ word, word = "Partial" →
        s!"Status: {inked display.colors .yellow warningSign} " ++
          s!"{inked display.colors .yellow word}\n" = statusLine display.colors false ++ "\n" := by
      rintro word rfl
      cases display.colors <;> decide
    have table : statusLine display.colors false ++ "\n" ++
        display.draw (droppedTable skipped rejected) ++ "\n" =
          statusLine display.colors false ++ "\n" ++
            (display.draw (droppedTable skipped rejected) ++ "\n") := String.append_assoc
    simp only [render, if_neg clean, if_neg differs]
    rw [status _ dropped, table, title_eq]
    rfl

/-! ### What a summary tells -/

/-- The rows of a summary add up to the run. Every instance and every skipped template is in
one row, the templates skipped are nodes, and the other nodes are expanded: they are the ones
that no reference is missing below, and there are as many instances of nodes as copies of
them. -/
structure Tallies (store : Store) (expansion : Expansion) (rows : List Row) : Prop where
  kinds : rows.map Row.kind = Kind.all
  instances : (rows.map fun row => row.tally.instances).sum = expansion.topology.size
  skipped : (rows.map fun row => row.tally.skipped).sum = expansion.skipped.length
  onlyNodes : ∀ row ∈ rows, row.tally.skipped ≠ 0 → row.kind = .node
  expanded : ∀ row ∈ rows, row.kind = .node →
    row.tally.skipped ≤ row.tally.templates ∧
      row.tally.templates - row.tally.skipped = store.expandedNodes.length
  copies : expansion.topology.count .node =
    (store.expandedNodes.map fun node => node.num.toNat).sum
  others : expansion.skipped =
    (store.nodes.values.filter fun node => !(store.missingBelow node).isEmpty).map fun node =>
      ⟨.node, node.key, store.missingBelow node⟩

/-- A summary tells how a run ended, however tables are drawn. It bears the number of
instances; it says that the run is complete and has no second table exactly when the run is
clean, and otherwise says that it is partial and has a second table. That has a row for the
input if lines were rejected, and then a row for every skipped template with the lines of all
its errors. Where tables are drawn plainly each of these lines is to be seen in the text. -/
structure Tells (display : Display) (text : String) (rows : List Row) (skipped : List Skipped)
    (outcome : CommandLine.Outcome) : Prop where
  exits : outcome.exitCode = 0 ↔ outcome.isClean = true
  complete : outcome.isClean = true ↔ text = completeText display rows outcome.instances
  partly : outcome.isClean = false ↔ text =
    partialText display rows outcome.instances (droppedTable skipped outcome.rejectedLines)
  dropped : (droppedTable skipped outcome.rejectedLines).rows =
    (if 0 < outcome.rejectedLines then
      [[⟨"✗ input", .left, some .red⟩,
        ⟨toString outcome.rejectedLines ++ " malformed input lines dropped", .left, some .red⟩]]
    else []) ++ skipped.map skippedRow
  reasons : ∀ entry ∈ skipped, ∃ reason : Cell,
    skippedRow entry =
      [⟨"⚠ " ++ entry.kind.name ++ " " ++ entry.key, .left, some .yellow⟩, reason] ∧
      reason.lines = entry.errors.flatMap fun error => linesOf error.message
  shown : display.draw = Table.render → ∀ entry ∈ skipped, ∀ error ∈ entry.errors,
    ∀ line ∈ linesOf error.message, ∃ drawn ∈ linesOf text, line <:+: drawn

/-- Every row of the table of what was dropped has two cells, as its header has. -/
theorem shaped_droppedTable (skipped : List Skipped) (rejected : Nat) :
    ∀ row ∈ (droppedTable skipped rejected).rows,
      row.length = (droppedTable skipped rejected).header.length := by
  intro row member
  rcases List.mem_append.mp member with input | template
  · unfold rejectedRow at input
    split at input
    · cases input
    · rw [List.mem_singleton.mp input]
      rfl
  · obtain ⟨entry, -, rfl⟩ := List.mem_map.mp template
    rfl

/-- The lines of the second cell of a skipped template are those of its errors. -/
theorem lines_reasons {errors : List Error} (some : errors ≠ []) :
    (Cell.lines ⟨"\n".intercalate (errors.map Error.message), .left, none⟩) =
      errors.flatMap fun error => linesOf error.message := by
  rw [Cell.lines_eq_linesOf, linesOf_intercalate (mt List.map_eq_nil_iff.mp some),
    List.flatMap_map]

/-- Plainly drawn, the lines of the table of what was dropped are lines of the text. -/
theorem mem_linesOf_partialText {display : Display} {rows : List Row} {instances : Nat}
    {dropped : Table} {line : List Char} (plain : display.draw = Table.render)
    (drawn : line ∈ dropped.draw) :
    line ∈ linesOf (partialText display rows instances dropped) := by
  have whole : partialText display rows instances dropped =
      heading display.colors instances ++ "\n" ++ display.draw (kindTable rows) ++ "\n" ++
        (statusLine display.colors false ++ "\n" ++ (dropped.render ++ "\n" ++ "")) := by
    rw [partialText, opening, plain, String.append_empty]
  rw [whole, linesOf_append, linesOf_append, linesOf_append, linesOf_append,
    Table.linesOf_render]
  exact List.mem_append_right _ (List.mem_append_right _ (List.mem_append_left _ drawn))

theorem isClean_eq {outcome : CommandLine.Outcome} {skipped : List Skipped}
    (length : outcome.skippedTemplates = skipped.length) :
    outcome.isClean = (skipped.isEmpty && outcome.rejectedLines == 0) := by
  rw [CommandLine.Outcome.isClean, length]
  cases skipped <;> rfl

theorem tells_render (display : Display) {rows : List Row} {skipped : List Skipped}
    {outcome : CommandLine.Outcome} (instances : totalInstances rows = outcome.instances)
    (length : outcome.skippedTemplates = skipped.length)
    (reasoned : ∀ entry ∈ skipped, entry.errors ≠ []) :
    Tells display (render display rows skipped outcome.rejectedLines) rows skipped outcome := by
  have text := render_eq display rows skipped outcome.rejectedLines
  rw [← isClean_eq length, instances] at text
  have apart := completeText_ne_partialText display rows outcome.instances
    (droppedTable skipped outcome.rejectedLines)
  refine ⟨?_, ?_, ?_, ?_, ?_, ?_⟩
  · rw [CommandLine.Outcome.exitCode]
    cases outcome.isClean <;> simp
  · rw [text]
    cases outcome.isClean with
    | true => exact iff_of_true rfl rfl
    | false => exact iff_of_false nofun apart.symm
  · rw [text]
    cases outcome.isClean with
    | true => exact iff_of_false nofun apart
    | false => exact iff_of_true rfl rfl
  · refine congrArg (· ++ skipped.map skippedRow) ?_
    unfold rejectedRow
    split
    · rename_i none
      rw [none]
      rfl
    · rename_i some
      rw [if_pos (Nat.pos_of_ne_zero some)]
      rfl
  · intro entry member
    exact ⟨_, rfl, lines_reasons (reasoned entry member)⟩
  · intro plain entry member error given line inside
    have unclean : outcome.isClean = false := by
      rw [isClean_eq length, List.isEmpty_eq_false_iff.mpr (List.ne_nil_of_mem member)]
      rfl
    have row : skippedRow entry ∈ (droppedTable skipped outcome.rejectedLines).rows :=
      List.mem_append_right _ (List.mem_map_of_mem member)
    have cell : (⟨"\n".intercalate (entry.errors.map Error.message), .left, none⟩ : Cell) ∈
        skippedRow entry := List.mem_cons_of_mem _ List.mem_cons_self
    have lineIn := lines_reasons (reasoned entry member) ▸
      List.mem_flatMap.mpr ⟨error, given, inside⟩
    obtain ⟨drawn, among, shown⟩ :=
      Table.exists_infix_draw (shaped_droppedTable _ _) row cell lineIn
    refine ⟨drawn, ?_, shown⟩
    rw [text, unclean]
    exact mem_linesOf_partialText plain among

end Summary

section Expanded

variable {store : Store} {context : Context} {expansion : Expansion}

theorem skipped_of_expand (finished : (store.expand context).result = .ok expansion) :
    expansion.skipped = store.skipped store.nodes.values := by
  obtain ⟨bares, -, rfl⟩ := expand_ok finished
  rfl

open Summary

theorem tallies_rows (finished : (store.expand context).result = .ok expansion) :
    Tallies store expansion (rows store expansion.topology expansion.skipped) := by
  have skipped := skipped_of_expand finished
  have nodes : ∀ entry ∈ expansion.skipped, entry.kind = .node := by
    rw [skipped]
    intro entry member
    obtain ⟨node, -, rfl⟩ := List.mem_map.mp member
    rfl
  refine ⟨rfl, sum_instances_rows _ _ _, sum_skipped_rows _ _ _, ?_, ?_, ?_, ?_⟩
  · intro row member some
    rw [mem_rows_iff] at member
    rw [member] at some
    obtain ⟨entry, kept⟩ := List.exists_mem_of_length_pos (Nat.pos_of_ne_zero some)
    obtain ⟨inside, same⟩ := List.mem_filter.mp kept
    exact (beq_iff_eq.mp same).symm.trans (nodes entry inside)
  · intro row member node
    rw [mem_rows_iff, node] at member
    have all : (expansion.skipped.filter fun entry => entry.kind == .node) = expansion.skipped :=
      List.filter_eq_self.mpr fun entry inside => beq_iff_eq.mpr (nodes entry inside)
    have templates := store.count_node
    rw [member, all, skipped]
    dsimp only
    omega
  · rw [count_eq_countOf finished, store.countOf_unfolding_eq_sum_yield]
    rfl
  · rw [skipped, Store.skipped]
    congr 1
    refine List.filter_congr fun node _ => ?_
    rw [store.isEmpty_missingBelow]

/-- The summary of a run agrees with the run, whatever was rejected before it and on whatever
display it is shown: the rows add up to what the expansion gave and skipped, and the text tells
the outcome. -/
theorem summary_agrees (finished : (store.expand context).result = .ok expansion)
    (report : TemplateFile.LoadReport) (display : Display) :
    let outcome := CommandLine.Outcome.of report expansion
    let rows := rows store expansion.topology expansion.skipped
    let text := render display rows expansion.skipped report.rejected.length
    Tallies store expansion rows ∧ outcome.instances = expansion.topology.size ∧
      Tells display text rows expansion.skipped outcome := by
  intro outcome rows text
  have total : totalInstances rows = outcome.instances := by
    rw [totalInstances_eq_sum]
    exact sum_instances_rows _ _ _
  have reasoned : ∀ entry ∈ expansion.skipped, entry.errors ≠ [] := by
    rw [skipped_of_expand finished]
    intro entry member none
    obtain ⟨node, kept, rfl⟩ := List.mem_map.mp member
    have dangles := (List.mem_filter.mp kept).2
    rw [Store.missingBelow_eq_nil_iff.mp none] at dangles
    cases dangles
  exact ⟨tallies_rows finished, rfl, tells_render display total rfl reasoned⟩

/-- A run in which a line was rejected and a node skipped. Its text is that of a partial run on
any display, and where tables are drawn plainly the reason is to be seen. -/
theorem summary_agrees_ghost :
    let one := Number.integer 1
    let store := Store.twofold.insert (.node ⟨"c", one, one, ["b", "ghost"], 1⟩)
    let missing := Error.notFound .vnode "ghost" .node "c"
    let report : TemplateFile.LoadReport :=
      { records := 5, rejected := [.malformedLine 2 "no record"] }
    ∃ expansion,
      (store.expand (.fresh .shared ⟨10, 0, 0, 1⟩ ⟨10, 1, 0, 1⟩)).result = .ok expansion ∧
        expansion.skipped = [⟨.node, "c", [missing]⟩] ∧
        (CommandLine.Outcome.of report expansion).exitCode = 3 ∧
        Tallies store expansion (rows store expansion.topology expansion.skipped) ∧
        (∀ display, render display (rows store expansion.topology expansion.skipped)
          expansion.skipped 1 = partialText display
            (rows store expansion.topology expansion.skipped) expansion.topology.size
            (droppedTable expansion.skipped 1)) ∧
        ∀ line ∈ linesOf missing.message, ∃ drawn ∈ linesOf (render (.plain false)
          (rows store expansion.topology expansion.skipped) expansion.skipped 1),
            line <:+: drawn := by
  intro one store missing report
  obtain ⟨expansion, finished⟩ : ∃ expansion,
      (store.expand (.fresh .shared ⟨10, 0, 0, 1⟩ ⟨10, 1, 0, 1⟩)).result = .ok expansion :=
    Run.exists_of_isOk (by decide +kernel)
  have skipped : expansion.skipped = [⟨.node, "c", [missing]⟩] := by
    rw [skipped_of_expand finished]
    decide +kernel
  have unclean : (CommandLine.Outcome.of report expansion).isClean = false := by
    rw [isClean_eq rfl, skipped]
    rfl
  have exits : (CommandLine.Outcome.of report expansion).exitCode = 3 := by
    rw [CommandLine.Outcome.exitCode, unclean]
    rfl
  have member : ⟨.node, "c", [missing]⟩ ∈ expansion.skipped := by
    rw [skipped]
    exact List.mem_singleton_self _
  refine ⟨expansion, finished, skipped, exits, ?_, ?_, ?_⟩
  · exact (summary_agrees finished report (.plain false)).1
  · intro display
    obtain ⟨-, -, tells⟩ := summary_agrees finished report display
    exact tells.partly.mp unclean
  · obtain ⟨-, -, tells⟩ := summary_agrees finished report (.plain false)
    exact tells.shown rfl _ member missing List.mem_cons_self

end Expanded

end ClusterTopology
