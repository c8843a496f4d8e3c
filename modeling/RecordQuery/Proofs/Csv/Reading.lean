import Mathlib.Data.List.Forall2
import RecordQuery.Output.Csv

/-!
# Reading comma-separated values back

A reader of comma-separated values goes through a text once. A quote at the start of a cell encloses
it up to the next quote that is not doubled; outside quotes a comma ends a cell and a line end ends
a record. What follows the last line end is a record too, even if it is empty.

* `scan`, `read`: the reader, for either convention of line ends.
* `scan_quoteCell`, `scan_line`, `read_lines`: it reads back a cell, a line and the lines of a grid.
* `Shows`: what the cell of a value has in it. `read_format`: rows are read back cell by cell.
-/

namespace RecordQuery.Csv

/-! ## The reader -/

/-- What ends a line for a reader. -/
inductive LineEnds where
  | lf
  | lfOrCrlf
deriving DecidableEq

/-- Where a reader is in a cell. -/
inductive Place where
  /-- Before its first character. -/
  | opening
  /-- After a character outside quotes. -/
  | bare
  /-- Between quotes. -/
  | quoted
  /-- After a quote that closes the cell, unless another one follows. -/
  | closing
deriving DecidableEq

/-- What a reader finds in the rest of a text: the rest of a cell, the other cells of its record,
and the other records. -/
structure Reading where
  cell : List Char
  cells : List (List Char)
  records : List (List (List Char))

namespace Reading

def record (reading : Reading) : List (List Char) :=
  reading.cell :: reading.cells

def grid (reading : Reading) : List (List (List Char)) :=
  reading.record :: reading.records

/-- A reading with more characters at the start of its cell. -/
def extend (text : List Char) (reading : Reading) : Reading :=
  { reading with cell := text ++ reading.cell }

theorem extend_cons (c : Char) (text : List Char) (reading : Reading) :
    reading.extend (c :: text) = (reading.extend text).extend [c] := rfl

end Reading

/-- Whether a character is the first half of a line end, given the one after it. -/
def LineEnds.joins (ends : LineEnds) (c : Char) (next : Option Char) : Bool :=
  ends = .lfOrCrlf && c = '\r' && next = some '\n'

def scan (ends : LineEnds) : Place → List Char → Reading
  | _, [] => ⟨[], [], []⟩
  | place, c :: rest =>
    if place = .quoted then
      if c = '"' then scan ends .closing rest else (scan ends .quoted rest).extend [c]
    else if c = ',' then
      ⟨[], (scan ends .opening rest).record, (scan ends .opening rest).records⟩
    else if c = '\n' then ⟨[], [], (scan ends .opening rest).grid⟩
    else if c = '"' ∧ place = .opening then scan ends .quoted rest
    else if c = '"' ∧ place = .closing then (scan ends .quoted rest).extend ['"']
    else if ends.joins c rest.head? then scan ends .bare rest
    else (scan ends .bare rest).extend [c]

/-- The records of a text, each with its cells. -/
def read (ends : LineEnds) (text : List Char) : List (List (List Char)) :=
  (scan ends .opening text).grid

/-! ## Cells -/

variable {ends : LineEnds} {place : Place}

/-- Whether a cell ends where the rest of a text begins. -/
def Delimits (rest : List Char) : Prop :=
  ∀ c ∈ rest.head?, c = ',' ∨ c = '\n'

theorem scan_nil : scan ends place [] = ⟨[], [], []⟩ := by
  cases place <;> rfl

theorem scan_comma (h : place ≠ .quoted) (rest : List Char) : scan ends place (',' :: rest) =
    ⟨[], (scan ends .opening rest).record, (scan ends .opening rest).records⟩ := by
  rw [scan, if_neg h, if_pos rfl]

theorem scan_lf (h : place ≠ .quoted) (rest : List Char) :
    scan ends place ('\n' :: rest) = ⟨[], [], (scan ends .opening rest).grid⟩ := by
  rw [scan, if_neg h, if_neg (by decide), if_pos rfl]

theorem joins_eq_true_iff {c : Char} {next : Option Char} :
    ends.joins c next = true ↔ ends = .lfOrCrlf ∧ c = '\r' ∧ next = some '\n' := by
  simp [LineEnds.joins, and_assoc]

theorem scan_joins (h : place ≠ .quoted) {c : Char} {rest : List Char}
    (hjoins : ends.joins c rest.head? = true) :
    scan ends place (c :: rest) = scan ends .bare rest := by
  obtain ⟨-, rfl, -⟩ := joins_eq_true_iff.1 hjoins
  rw [scan, if_neg h, if_neg (by decide), if_neg (by decide), if_neg (by simp), if_neg (by simp),
    if_pos hjoins]

theorem scan_of_delimits (h : place ≠ .quoted) {rest : List Char} (hrest : Delimits rest) :
    scan ends place rest = scan ends .opening rest := by
  cases rest with
  | nil => rw [scan_nil, scan_nil]
  | cons c rest =>
    obtain rfl | rfl := hrest c rfl
    · rw [scan_comma h, scan_comma (by decide)]
    · rw [scan_lf h, scan_lf (by decide)]

theorem scan_doubleQuotes (text rest : List Char) :
    scan ends .quoted (doubleQuotes text ++ '"' :: rest) =
      (scan ends .closing rest).extend text := by
  induction text with
  | nil => rfl
  | cons c text ih =>
    by_cases hquote : c = '"'
    · subst hquote
      have hdoubled : doubleQuotes ('"' :: text) = '"' :: '"' :: doubleQuotes text := rfl
      rw [hdoubled, Reading.extend_cons, ← ih]
      rfl
    · have hsingle : doubleQuotes (c :: text) = c :: doubleQuotes text := by
        simp [doubleQuotes, hquote]
      rw [hsingle, Reading.extend_cons, ← ih, List.cons_append, scan, if_pos rfl, if_neg hquote]

theorem needsQuotes_cons_eq_false {c : Char} {text : List Char} :
    needsQuotes (c :: text) = false ↔
      (c ≠ ',' ∧ c ≠ '"' ∧ c ≠ '\n') ∧ needsQuotes text = false := by
  simp [needsQuotes, not_or, and_assoc]

theorem scan_bare (h : place ≠ .quoted) {text : List Char} (htext : needsQuotes text = false)
    {rest : List Char} (hrest : ∀ c ∈ text.getLast?, ends.joins c rest.head? = false) :
    ∃ place', place' ≠ .quoted ∧
      scan ends place (text ++ rest) = (scan ends place' rest).extend text := by
  induction text generalizing place with
  | nil => exact ⟨place, h, rfl⟩
  | cons c text ih =>
    obtain ⟨⟨hcomma, hquote, hlf⟩, htext'⟩ := needsQuotes_cons_eq_false.1 htext
    have hjoins : ends.joins c (text ++ rest).head? = false := by
      cases text with
      | nil => exact hrest c rfl
      | cons d text =>
        have hd := (needsQuotes_cons_eq_false.1 htext').1.2.2
        simp [LineEnds.joins, hd]
    have hlast : ∀ c ∈ text.getLast?, ends.joins c rest.head? = false := by
      intro d hd
      exact hrest d (by rw [List.getLast?_cons, Option.mem_def.1 hd]; rfl)
    obtain ⟨place', hplace', hscan⟩ := ih (show Place.bare ≠ .quoted by decide) htext' hlast
    refine ⟨place', hplace', ?_⟩
    rw [List.cons_append, scan, if_neg h, if_neg hcomma, if_neg hlf, if_neg fun h => hquote h.1,
      if_neg fun h => hquote h.1, hjoins, if_neg Bool.false_ne_true, hscan]
    rfl

/-- What is read of a cell, given the character after it. -/
def LineEnds.keptCell (ends : LineEnds) (next : Option Char) (cell : List Char) : List Char :=
  if !needsQuotes cell && cell.getLast?.any (ends.joins · next) then cell.dropLast else cell

theorem keptCell_of_joins {cell : List Char} (hquotes : needsQuotes cell = false) {c : Char}
    (hlast : cell.getLast? = some c) {next : Option Char} (hjoins : ends.joins c next = true) :
    ends.keptCell next cell = cell.dropLast :=
  if_pos (by simp [hquotes, hlast, hjoins])

theorem keptCell_of_forall {cell : List Char} {next : Option Char}
    (h : needsQuotes cell = false → ∀ c ∈ cell.getLast?, ends.joins c next = false) :
    ends.keptCell next cell = cell := by
  refine if_neg ?_
  cases hlast : cell.getLast? with
  | none => simp
  | some c => simpa [hlast] using h

theorem scan_quoteCell (cell : List Char) {rest : List Char} (hrest : Delimits rest) :
    scan ends .opening (quoteCell cell ++ rest) =
      (scan ends .opening rest).extend (ends.keptCell rest.head? cell) := by
  unfold quoteCell
  by_cases hquotes : needsQuotes cell = true
  · rw [if_pos hquotes, keptCell_of_forall (by simp [hquotes])]
    show scan ends .quoted (doubleQuotes cell ++ ['"'] ++ rest) = _
    rw [List.append_assoc, List.singleton_append, scan_doubleQuotes,
      scan_of_delimits (by decide) hrest]
  · rw [if_neg hquotes]
    rw [Bool.not_eq_true] at hquotes
    by_cases hkept : ∀ c ∈ cell.getLast?, ends.joins c rest.head? = false
    · obtain ⟨place, hplace, hscan⟩ :=
        scan_bare (show Place.opening ≠ .quoted by decide) hquotes hkept
      rw [keptCell_of_forall fun _ => hkept, hscan, scan_of_delimits hplace hrest]
    · -- the last character is skipped, and what is before it is read as it is
      obtain ⟨c, hlast, hjoins⟩ : ∃ c ∈ cell.getLast?, ends.joins c rest.head? = true := by
        simpa using hkept
      have hcell : cell.dropLast ++ [c] = cell := List.dropLast_append_getLast? c hlast
      have hbare : needsQuotes cell.dropLast = false := by
        rw [← hcell, needsQuotes, List.any_append, Bool.or_eq_false_iff] at hquotes
        exact hquotes.1
      have hbefore : ∀ d ∈ cell.dropLast.getLast?, ends.joins d (c :: rest).head? = false := by
        obtain ⟨-, rfl, -⟩ := joins_eq_true_iff.1 hjoins
        simp [LineEnds.joins]
      obtain ⟨place, hplace, hscan⟩ :=
        scan_bare (show Place.opening ≠ .quoted by decide) hbare hbefore
      rw [keptCell_of_joins hquotes hlast hjoins]
      conv_lhs => rw [← hcell]
      rw [List.append_assoc, List.singleton_append, hscan, scan_joins hplace hjoins,
        scan_of_delimits (by decide) hrest]

/-! ## Records -/

/-- What is read of the cells of a record, given the character after it. -/
def LineEnds.keptRecord (ends : LineEnds) (next : Option Char) :
    List (List Char) → List (List Char)
  | [] => []
  | [cell] => [ends.keptCell next cell]
  | cell :: other :: cells => cell :: ends.keptRecord next (other :: cells)

theorem line_singleton (cell : List Char) : line [cell] = quoteCell cell := by
  simp [line]

theorem line_cons_cons (cell other : List Char) (cells : List (List Char)) :
    line (cell :: other :: cells) = quoteCell cell ++ ',' :: line (other :: cells) := by
  rw [line, List.map_cons, List.map_cons, List.intercalate_cons_cons, List.append_assoc]
  rfl

theorem joins_lf (c : Char) (next : Option Char) : LineEnds.lf.joins c next = false := rfl

theorem joins_of_ne {next : Option Char} (h : next ≠ some '\n') (c : Char) :
    ends.joins c next = false := by
  rw [← Bool.not_eq_true, joins_eq_true_iff]
  exact fun hjoins => h hjoins.2.2

theorem keptCell_eq_self {next : Option Char} (h : ∀ c, ends.joins c next = false)
    (cell : List Char) : ends.keptCell next cell = cell :=
  keptCell_of_forall fun _ c _ => h c

theorem keptRecord_eq_self {next : Option Char} (h : ∀ c, ends.joins c next = false)
    (cells : List (List Char)) : ends.keptRecord next cells = cells := by
  induction cells with
  | nil => rfl
  | cons cell cells ih =>
    cases cells with
    | nil => rw [LineEnds.keptRecord, keptCell_eq_self h]
    | cons other cells => rw [LineEnds.keptRecord, ih]

/-- Whether a record ends where the rest of a text begins. -/
def EndsRecord (rest : List Char) : Prop :=
  ∀ c ∈ rest.head?, c = '\n'

theorem EndsRecord.scan_eq (ends : LineEnds) {rest : List Char} (h : EndsRecord rest) :
    (scan ends .opening rest).cell = [] ∧ (scan ends .opening rest).cells = [] := by
  cases rest with
  | nil => exact ⟨rfl, rfl⟩
  | cons c rest =>
    obtain rfl := h c rfl
    rw [scan_lf (by decide)]
    exact ⟨rfl, rfl⟩

theorem scan_line (ends : LineEnds) {cells : List (List Char)} (hcells : cells ≠ [])
    {rest : List Char} (hrest : EndsRecord rest) :
    (scan ends .opening (line cells ++ rest)).grid =
      ends.keptRecord rest.head? cells :: (scan ends .opening rest).records := by
  induction cells with
  | nil => exact absurd rfl hcells
  | cons cell cells ih =>
    cases cells with
    | nil =>
      obtain ⟨hcell, hothers⟩ := hrest.scan_eq ends
      rw [line_singleton, scan_quoteCell cell fun c hc => .inr (hrest c hc)]
      simp only [Reading.grid, Reading.record, Reading.extend, hcell, hothers, List.append_nil,
        LineEnds.keptRecord]
    | cons other cells =>
      have hcomma : Delimits (',' :: (line (other :: cells) ++ rest)) := fun c hc =>
        .inl (Option.some.inj hc).symm
      have hline := ih (List.cons_ne_nil _ _)
      rw [Reading.grid, List.cons.injEq] at hline
      rw [line_cons_cons, List.append_assoc, List.cons_append, scan_quoteCell cell hcomma,
        keptCell_eq_self (joins_of_ne (by simp)), scan_comma (by decide), LineEnds.keptRecord,
        ← hline.1, ← hline.2]
      exact congrArg (fun cell => (cell :: _) :: _) (List.append_nil cell)

/-! ## Grids -/

/-- What is read of the records of a grid that stand in lines. -/
def LineEnds.keptGrid (ends : LineEnds) : List (List (List Char)) → List (List (List Char))
  | [] => []
  | [record] => [record]
  | record :: other :: records =>
    ends.keptRecord (some '\n') record :: ends.keptGrid (other :: records)

theorem read_lines {grid : List (List (List Char))} (hgrid : grid ≠ [])
    (hrecords : ∀ record ∈ grid, record ≠ []) :
    read ends (List.intercalate ['\n'] (grid.map line)) = ends.keptGrid grid := by
  induction grid with
  | nil => exact absurd rfl hgrid
  | cons record records ih =>
    obtain ⟨hrecord, hothers⟩ := List.forall_mem_cons.1 hrecords
    cases records with
    | nil =>
      have hend : EndsRecord [] := fun c hc => by cases hc
      have hline := scan_line ends hrecord hend
      rw [List.append_nil, List.head?_nil, keptRecord_eq_self (joins_of_ne (by simp)),
        scan_nil] at hline
      rw [List.map_singleton, List.intercalate_singleton, read, hline]
      rfl
    | cons other records =>
      have hend : EndsRecord ('\n' :: List.intercalate ['\n'] ((other :: records).map line)) :=
        fun c hc => (Option.some.inj hc).symm
      have hline := scan_line ends hrecord hend
      rw [scan_lf (by decide)] at hline
      rw [List.map_cons, List.map_cons, List.intercalate_cons_cons, List.append_assoc, read]
      refine hline.trans ?_
      rw [LineEnds.keptGrid, ← ih (List.cons_ne_nil _ _) hothers]
      rfl

theorem keptGrid_lf (grid : List (List (List Char))) : LineEnds.lf.keptGrid grid = grid := by
  induction grid with
  | nil => rfl
  | cons record records ih =>
    cases records with
    | nil => rfl
    | cons other records =>
      rw [LineEnds.keptGrid, keptRecord_eq_self fun c => joins_lf c _, ih]

/-! ## Rows -/

/-- What the cell of a value has in it, or that of a column that a row lacks. -/
inductive Shows : Option Value → List Char → Prop
  | missing : Shows none []
  | absent : Shows (some .nil) []
  | list (items : List Value) : Shows (some (.list items)) (Value.list items).toJson.compact
  | map (members : List (String × Value)) :
    Shows (some (.map members)) (Value.map members).toJson.compact
  | plain {value : Value} (not_absent : value ≠ .nil) (not_list : ∀ items, value ≠ .list items)
    (not_map : ∀ members, value ≠ .map members) : Shows (some value) value.displayText

theorem shows_cellText (value? : Option Value) : Shows value? (cellText value?) := by
  cases value? with
  | none => exact .missing
  | some value =>
    cases value with
    | nil => exact .absent
    | list items => exact .list items
    | map members => exact .map members
    | _ => exact .plain nofun nofun nofun

theorem read_format_eq {rows : List Row} (h : columnUnion rows ≠ []) :
    read ends (format rows) = ends.keptGrid (grid rows) := by
  have hrows : rows.isEmpty = false := by
    cases rows with
    | nil => exact absurd rfl h
    | cons row rows => rfl
  rw [format, hrows, if_neg Bool.false_ne_true]
  refine read_lines (List.cons_ne_nil _ _) fun record hrecord => ?_
  obtain rfl | hrecord := List.mem_cons.1 hrecord
  · exact mt List.map_eq_nil_iff.1 h
  · obtain ⟨row, -, rfl⟩ := List.mem_map.1 hrecord
    exact mt List.map_eq_nil_iff.1 h

/-- **Rows are read back cell by cell.** Rows that have a column are read as a header and as many
records, each with a cell for every column: the header has the columns in it, and each cell what its
row has under the column. -/
theorem read_format {rows : List Row} (h : columnUnion rows ≠ []) :
    ∃ records, read .lf (format rows) = (columnUnion rows).map String.toList :: records ∧
      List.Forall₂ (fun row record =>
        List.Forall₂ (fun column cell => Shows (row.get? column) cell) (columnUnion rows) record)
        rows records := by
  refine ⟨rows.map (cells (columnUnion rows)), ?_, ?_⟩
  · rw [read_format_eq h, keptGrid_lf]
    rfl
  · rw [List.forall₂_map_right_iff, List.forall₂_same]
    intro row _
    rw [cells, List.forall₂_map_right_iff, List.forall₂_same]
    exact fun column _ => shows_cellText _

/-- A text with all marks in it, an absent value and two columns that a row lacks. -/
theorem read_format_marks :
    let rows : List Row := [.ofList [("a", .str "x, \"y\"\nz"), ("b", .nil)],
      .ofList [("c\"", .list [.int 1, .str "d"])]]
    columnUnion rows = ["a", "b", "c\""] ∧
      ∃ records, read .lf (format rows) = ["a", "b", "c\""].map String.toList :: records ∧
        List.Forall₂ (fun row record =>
          List.Forall₂ (fun column cell => Shows (row.get? column) cell) ["a", "b", "c\""] record)
          rows records ∧
        records = [["x, \"y\"\nz".toList, [], []], [[], [], "[1,\"d\"]".toList]] := by
  intro rows
  have hcolumns : columnUnion rows = ["a", "b", "c\""] := by decide +kernel
  have hne : columnUnion rows ≠ [] := by
    rw [hcolumns]
    decide
  obtain ⟨records, hread, hrows⟩ := read_format hne
  rw [hcolumns] at hread hrows
  refine ⟨hcolumns, records, hread, hrows, ?_⟩
  have hgrid : read .lf (format rows) = [["a".toList, "b".toList, "c\"".toList],
      ["x, \"y\"\nz".toList, [], []], [[], [], "[1,\"d\"]".toList]] := by decide +kernel
  exact (List.cons.inj (hread.symm.trans hgrid)).2

end RecordQuery.Csv
