import RecordQuery.Proofs.Csv.Reading

/-!
# Line ends of comma-separated values

Lines end in a line feed. A reader that also takes a carriage return before it for a part of the
line end loses the return of a cell that stands without quotes at the end of a line.

* `EndsInReturn`: the cells that lose a character there.
* `read_format_eq_iff`: where both conventions read the same grid.
-/

namespace RecordQuery.Csv

/-- Whether a cell stands without quotes and ends in a carriage return. -/
def EndsInReturn (cell : List Char) : Prop :=
  needsQuotes cell = false ∧ cell.getLast? = some '\r'

instance (cell : List Char) : Decidable (EndsInReturn cell) :=
  inferInstanceAs (Decidable (_ ∧ _))

theorem keptCell_of_endsInReturn {cell : List Char} (h : EndsInReturn cell) :
    LineEnds.lfOrCrlf.keptCell (some '\n') cell = cell.dropLast :=
  keptCell_of_joins h.1 h.2 rfl

theorem keptCell_of_not_endsInReturn {cell : List Char} (h : ¬ EndsInReturn cell) :
    LineEnds.lfOrCrlf.keptCell (some '\n') cell = cell := by
  refine keptCell_of_forall fun hquotes c hlast => ?_
  rw [← Bool.not_eq_true, joins_eq_true_iff]
  rintro ⟨-, rfl, -⟩
  exact h ⟨hquotes, hlast⟩

theorem keptCell_eq_self_iff {cell : List Char} :
    LineEnds.lfOrCrlf.keptCell (some '\n') cell = cell ↔ ¬ EndsInReturn cell := by
  refine ⟨fun heq hreturn => ?_, keptCell_of_not_endsInReturn⟩
  have hcell : cell ≠ [] := by
    rintro rfl
    cases hreturn.2
  have hlength := congrArg List.length ((keptCell_of_endsInReturn hreturn).symm.trans heq)
  have hpos := List.length_pos_of_ne_nil hcell
  rw [List.length_dropLast] at hlength
  omega

theorem keptRecord_eq_self_iff {record : List (List Char)} :
    LineEnds.lfOrCrlf.keptRecord (some '\n') record = record ↔
      ∀ cell ∈ record.getLast?, ¬ EndsInReturn cell := by
  induction record with
  | nil => exact iff_of_true rfl nofun
  | cons cell cells ih =>
    cases cells with
    | nil =>
      rw [LineEnds.keptRecord, List.cons.injEq, keptCell_eq_self_iff]
      simp
    | cons other cells =>
      rw [LineEnds.keptRecord, List.cons.injEq, ih, List.getLast?_cons_cons]
      simp

theorem keptGrid_eq_self_iff {grid : List (List (List Char))} :
    LineEnds.lfOrCrlf.keptGrid grid = grid ↔
      ∀ record ∈ grid.dropLast, ∀ cell ∈ record.getLast?, ¬ EndsInReturn cell := by
  induction grid with
  | nil => exact iff_of_true rfl nofun
  | cons record records ih =>
    cases records with
    | nil => exact iff_of_true rfl nofun
    | cons other records =>
      rw [LineEnds.keptGrid, List.cons.injEq, keptRecord_eq_self_iff, ih, List.dropLast_cons_cons,
        List.forall_mem_cons]

/-- **Where the convention of line ends makes no difference.** Both readers recover the same grid
from rows that have a column, exactly if no line but the last ends in a cell that has no quotes
around it and a carriage return at its end. -/
theorem read_format_eq_iff {rows : List Row} (h : columnUnion rows ≠ []) :
    read .lfOrCrlf (format rows) = read .lf (format rows) ↔
      ∀ record ∈ (grid rows).dropLast, ∀ cell ∈ record.getLast?, ¬ EndsInReturn cell := by
  rw [read_format_eq h, read_format_eq h, keptGrid_lf, keptGrid_eq_self_iff]

/-- Carriage returns within a cell, before a quote and at the end of the last line. -/
theorem read_format_eq_returns :
    let rows : List Row := [.ofList [("m", .str "x\r"), ("n", .str "x\r,\r")],
      .ofList [("n", .str "y\r")]]
    columnUnion rows = ["m", "n"] ∧ read .lfOrCrlf (format rows) = read .lf (format rows) := by
  intro rows
  have hcolumns : columnUnion rows = ["m", "n"] := by decide +kernel
  have hgrid : (grid rows).dropLast =
      [["m".toList, "n".toList], ["x\r".toList, "x\r,\r".toList]] := by
    decide +kernel
  refine ⟨hcolumns, (read_format_eq_iff (by rw [hcolumns]; decide)).2 ?_⟩
  rw [hgrid]
  decide

/-- A carriage return at the end of a line is lost to one of the readers. -/
theorem read_format_lost_return :
    let rows : List Row := [.ofList [("n", .str "x\r")], .ofList [("n", .str "y")]]
    columnUnion rows = ["n"] ∧
      read .lf (format rows) = [["n".toList], ["x\r".toList], ["y".toList]] ∧
      read .lfOrCrlf (format rows) = [["n".toList], ["x".toList], ["y".toList]] ∧
      read .lfOrCrlf (format rows) ≠ read .lf (format rows) := by
  decide +kernel

end RecordQuery.Csv
