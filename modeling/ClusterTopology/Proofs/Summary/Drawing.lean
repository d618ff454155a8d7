import Mathlib.Data.List.Basic
import ClusterTopology.Summary.Table
import ClusterTopology.Proofs.Text.Lines

/-!
What a drawn table shows.

No line of a drawing holds a line feed, whatever the cells hold, so the lines of the text of a
table are the lines drawn (`Table.linesOf_render`). If its rows have as many cells as its
header, every line of every cell stands in one of them (`Table.exists_infix_draw`).
-/

namespace ClusterTopology

namespace Summary

theorem Cell.lines_eq_linesOf (cell : Cell) : cell.lines = linesOf cell.text :=
  Text.pieces_eq_splitOn '\n' cell.text.toList

theorem Rule.notMem_draw {rule : Rule} {c : Char} (widths : List Nat) (left : c ≠ rule.left)
    (line : c ≠ rule.line) (crossing : c ≠ rule.crossing) (right : c ≠ rule.right) :
    c ∉ rule.draw widths := by
  intro inside
  rw [Rule.draw, List.mem_cons, List.mem_append, List.mem_singleton] at inside
  rcases inside with same | inside | same
  · exact left same
  · rcases mem_intercalate inside with between | ⟨stroke, member, inside⟩
    · exact crossing (List.mem_singleton.mp between)
    · obtain ⟨width, -, rfl⟩ := List.mem_map.mp member
      exact line (List.eq_of_mem_replicate inside)
  · exact right same

namespace Table

variable {table : Table} {widths : List Nat} {row : List Cell} {cell : Cell} {line : List Char}

/-! ### Single lines -/

theorem newline_notMem_fill {alignment : Alignment} {width : Nat} (single : '\n' ∉ line) :
    '\n' ∉ fill alignment width line := by
  have blanks : '\n' ∉ List.replicate (width - Text.displayWidth line) ' ' := by
    intro inside
    exact absurd (List.eq_of_mem_replicate inside) (by decide)
  unfold fill
  cases alignment with
  | left => exact fun inside => (List.mem_append.mp inside).elim single blanks
  | right => exact fun inside => (List.mem_append.mp inside).elim blanks single

/-- What stands between two bars: the line of this number of a cell. -/
def drawPart (number : Nat) (cell : Cell) (width : Nat) : List Char :=
  ' ' :: (fill cell.alignment width (cell.lines[number]?.getD []) ++ [' '])

theorem drawLine_eq (widths : List Nat) (row : List Cell) (number : Nat) :
    drawLine widths row number =
      '│' :: (['┆'].intercalate (List.zipWith (drawPart number) row widths) ++ ['│']) := rfl

theorem newline_notMem_drawPart (number : Nat) (cell : Cell) (width : Nat) :
    '\n' ∉ drawPart number cell width := by
  intro inside
  have single : '\n' ∉ cell.lines[number]?.getD [] := by
    cases found : cell.lines[number]? with
    | none => exact List.not_mem_nil
    | some line =>
        have member := List.mem_of_getElem? found
        rw [cell.lines_eq_linesOf] at member
        exact newline_notMem_of_mem_linesOf member
  rw [drawPart, List.mem_cons, List.mem_append, List.mem_singleton] at inside
  rcases inside with same | inside | same
  · exact absurd same (by decide)
  · exact newline_notMem_fill single inside
  · exact absurd same (by decide)

/-- One line across a row holds nothing but lines of cells, blanks and bars. -/
theorem newline_notMem_drawLine (widths : List Nat) (row : List Cell) (number : Nat) :
    '\n' ∉ drawLine widths row number := by
  intro inside
  rw [drawLine_eq, List.mem_cons, List.mem_append, List.mem_singleton] at inside
  rcases inside with same | inside | same
  · exact absurd same (by decide)
  · rcases mem_intercalate inside with between | ⟨part, member, inside⟩
    · exact absurd (List.mem_singleton.mp between) (by decide)
    · obtain ⟨place, partAt⟩ := List.mem_iff_getElem?.mp member
      obtain ⟨cell, width, -, -, rfl⟩ := List.getElem?_zipWith_eq_some.mp partAt
      exact newline_notMem_drawPart number cell width inside
  · exact absurd same (by decide)

theorem newline_notMem_drawRow (member : line ∈ drawRow widths row) : '\n' ∉ line := by
  obtain ⟨number, -, rfl⟩ := List.mem_map.mp member
  exact newline_notMem_drawLine widths row number

theorem newline_notMem_draw (member : line ∈ table.draw) : '\n' ∉ line := by
  simp only [draw, List.mem_append, List.mem_singleton] at member
  rcases member with (((rfl | header) | rfl) | body) | rfl
  · exact Rule.notMem_draw _ (by decide) (by decide) (by decide) (by decide)
  · exact newline_notMem_drawRow header
  · exact Rule.notMem_draw _ (by decide) (by decide) (by decide) (by decide)
  · rcases mem_intercalate body with between | ⟨rows, member, inside⟩
    · rw [List.mem_singleton.mp between]
      exact Rule.notMem_draw _ (by decide) (by decide) (by decide) (by decide)
    · obtain ⟨row, -, rfl⟩ := List.mem_map.mp member
      exact newline_notMem_drawRow inside
  · exact Rule.notMem_draw _ (by decide) (by decide) (by decide) (by decide)

/-- The lines of the text of a table are the lines drawn, whatever its cells hold. -/
theorem linesOf_render (table : Table) : linesOf table.render = table.draw := by
  have some : table.draw.map String.ofList ≠ [] := by simp [draw]
  have each : ∀ line ∈ table.draw, linesOf (String.ofList line) = [line] := by
    intro line member
    have single : '\n' ∉ (String.ofList line).toList := by
      rw [String.toList_ofList]
      exact newline_notMem_draw member
    rw [linesOf_of_notMem single, String.toList_ofList]
  rw [render, linesOf_intercalate some, List.flatMap_map, List.flatMap_congr each,
    List.flatMap_singleton']

/-! ### Cells -/

theorem length_foldl_widths {rows : List (List Cell)}
    (shaped : ∀ row ∈ rows, row.length = widths.length) :
    (rows.foldl (fun widths row => List.zipWith max widths (row.map Cell.width))
      widths).length = widths.length := by
  induction rows generalizing widths with
  | nil => rfl
  | cons row rows ih =>
      have own := shaped row List.mem_cons_self
      have same : (List.zipWith max widths (row.map Cell.width)).length = widths.length := by
        rw [List.length_zipWith, List.length_map, own, Nat.min_self]
      rw [List.foldl_cons, ih, same]
      intro other member
      rw [same]
      exact shaped other (List.mem_cons_of_mem _ member)

/-- A table has as many columns as its header has cells, if all rows have as many. -/
theorem length_widths (shaped : ∀ row ∈ table.rows, row.length = table.header.length) :
    table.widths.length = table.header.length := by
  rw [widths, length_foldl_widths, List.length_map]
  intro row member
  rw [List.length_map]
  rcases List.mem_cons.mp member with rfl | member
  · rfl
  · exact shaped row member

/-- A line of a cell stands in the line of its number across the row. -/
theorem infix_drawLine {place number : Nat} (columns : place < widths.length)
    (cellAt : row[place]? = some cell) (lineAt : cell.lines[number]? = some line) :
    line <:+: drawLine widths row number := by
  have inside : line <:+: drawPart number cell widths[place] := by
    have filled : line <:+: fill cell.alignment widths[place] line := by
      unfold fill
      cases cell.alignment with
      | left => exact (List.prefix_append line _).isInfix
      | right => exact (List.suffix_append _ line).isInfix
    rw [drawPart, lineAt, Option.getD_some]
    exact (filled.trans (List.prefix_append _ _).isInfix).trans (List.suffix_cons _ _).isInfix
  have part : drawPart number cell widths[place] ∈ List.zipWith (drawPart number) row widths :=
    List.mem_of_getElem? (List.getElem?_zipWith_eq_some.mpr
      ⟨cell, widths[place], cellAt, List.getElem?_eq_getElem columns, rfl⟩)
  rw [drawLine_eq]
  refine inside.trans ((infix_intercalate ['┆'] part).trans ?_)
  exact (List.prefix_append _ _).isInfix.trans (List.suffix_cons _ _).isInfix

/-- Every line of every cell is drawn. -/
theorem exists_infix_draw (shaped : ∀ row ∈ table.rows, row.length = table.header.length)
    (rowIn : row ∈ table.rows) (cellIn : cell ∈ row) (lineIn : line ∈ cell.lines) :
    ∃ drawn ∈ table.draw, line <:+: drawn := by
  obtain ⟨place, cellAt⟩ := List.mem_iff_getElem?.mp cellIn
  obtain ⟨number, lineAt⟩ := List.mem_iff_getElem?.mp lineIn
  have columns : place < table.widths.length := by
    rw [length_widths shaped, ← shaped row rowIn]
    exact (List.getElem?_eq_some_iff.mp cellAt).1
  refine ⟨drawLine table.widths row number, ?_, infix_drawLine columns cellAt lineAt⟩
  have below : number < ((row.map fun cell => cell.lines.length).max?).getD 0 := by
    have own : cell.lines.length ∈ row.map fun cell => cell.lines.length :=
      List.mem_map_of_mem cellIn
    have short : number < cell.lines.length := (List.getElem?_eq_some_iff.mp lineAt).1
    exact Nat.lt_of_lt_of_le short (List.le_max?_getD_of_mem own)
  have inRow : drawLine table.widths row number ∈ drawRow table.widths row :=
    List.mem_map_of_mem (List.mem_range.mpr below)
  have inBody := (infix_intercalate [Rule.betweenRows.draw table.widths]
    (List.mem_map_of_mem (f := drawRow table.widths) rowIn)).subset inRow
  simp only [draw, List.mem_append]
  exact Or.inl (Or.inr inBody)

end Table

end Summary

end ClusterTopology
