import RecordQuery.Proofs.SortedMap
import RecordQuery.Proofs.Text.ByteOrder
import RecordQuery.Row

/-!
# Columns of rows

The columns of rows are the labels that stand in any of them, each one once. Those that describe a
record come first, in their own order, and all others after them in ascending order of their bytes.

* `labels`: the labels of rows. `contains_labels`: the ones that stand in a row.
* `columnUnion_congr`: the columns depend on the labels only.
* `columnUnion_lists_labels`: what is listed and how, and which changes of the rows do not matter.
-/

namespace RecordQuery

def labels (rows : List Row) : SortedMap Unit :=
  .ofList (rows.flatMap fun row => row.keys.map fun name => (name, ()))

theorem columnUnion_eq (rows : List Row) : columnUnion rows =
    metadataColumns.filter (labels rows).contains ++
      (labels rows).keys.filter fun name => !metadataColumns.contains name := rfl

theorem contains_labels (rows : List Row) (label : String) :
    (labels rows).contains label = true ↔ ∃ row ∈ rows, row.contains label = true := by
  rw [labels, SortedMap.contains_ofList, List.map_flatMap, List.mem_flatMap]
  refine exists_congr fun row => and_congr_right fun _ => ?_
  rw [List.map_map, ← SortedMap.mem_keys_iff]
  exact Iff.of_eq (congrArg (label ∈ ·) (List.map_id _))

/-! ## What is listed -/

theorem mem_columnUnion_iff (rows : List Row) (label : String) :
    label ∈ columnUnion rows ↔ ∃ row ∈ rows, row.contains label = true := by
  rw [← contains_labels, columnUnion_eq, List.mem_append, List.mem_filter, List.mem_filter,
    SortedMap.mem_keys_iff]
  by_cases h : label ∈ metadataColumns
  · simp [h]
  · simp [h]

theorem nodup_columnUnion (rows : List Row) : (columnUnion rows).Nodup := by
  have hdescribed : metadataColumns.Nodup := by decide
  have hkeys : (labels rows).keys.Nodup := by
    refine (labels rows).pairwise_keys.imp fun hlt => ?_
    rintro rfl
    exact String.lt_irrefl _ hlt
  rw [columnUnion_eq, List.nodup_append]
  refine ⟨hdescribed.filter _, hkeys.filter _, fun label hlabel other hother heq => ?_⟩
  have hmem : label ∈ metadataColumns := (List.mem_filter.1 hlabel).1
  have hnot := (List.mem_filter.1 hother).2
  rw [← heq] at hnot
  simp [hmem] at hnot

theorem columnUnion_congr {rows other : List Row}
    (h : ∀ label, (∃ row ∈ rows, row.contains label = true) ↔
      ∃ row ∈ other, row.contains label = true) : columnUnion rows = columnUnion other := by
  have hlabels : labels rows = labels other := by
    apply SortedMap.ext
    intro label
    refine SortedMap.get?_eq_of_contains_eq ?_ fun _ _ _ _ => rfl
    rw [Bool.eq_iff_iff, contains_labels, contains_labels]
    exact h label
  rw [columnUnion_eq, columnUnion_eq, hlabels]

/-! ## How it is listed -/

/-- **The columns of rows.** They are the labels that stand in one of the rows, each one once. The
labels that describe a record come first in their fixed order, and the others follow in strictly
ascending order of their bytes. Rows that are listed in another order or more than once have the same
columns, and the columns of two lists of rows together are those of either one. -/
theorem columnUnion_lists_labels (rows : List Row) :
    (columnUnion rows).Nodup ∧
    (∀ label, label ∈ columnUnion rows ↔ ∃ row ∈ rows, row.contains label = true) ∧
    (∃ described others, columnUnion rows = described ++ others ∧
      described.Sublist ["Namespace", "Set", "Key", "Generation", "TTL"] ∧
      (∀ label ∈ others, label ∉ ["Namespace", "Set", "Key", "Generation", "TTL"]) ∧
      others.Pairwise fun label label' => Text.utf8Bytes label < Text.utf8Bytes label') ∧
    (∀ other : List Row, (∀ row, row ∈ other ↔ row ∈ rows) →
      columnUnion other = columnUnion rows) ∧
    ∀ (more : List Row) (label : String),
      label ∈ columnUnion (rows ++ more) ↔ label ∈ columnUnion rows ∨ label ∈ columnUnion more := by
  refine ⟨nodup_columnUnion rows, mem_columnUnion_iff rows, ?_, fun other h => ?_,
    fun more label => ?_⟩
  · refine ⟨_, _, columnUnion_eq rows, List.filter_sublist, fun label hlabel => ?_, ?_⟩
    · have hnot := (List.mem_filter.1 hlabel).2
      simpa [metadataColumns] using hnot
    · exact ((labels rows).pairwise_keys.imp Text.lt_iff_utf8Bytes_lt.1).filter _
  · refine columnUnion_congr fun label => ?_
    simp only [h]
  · rw [mem_columnUnion_iff, mem_columnUnion_iff, mem_columnUnion_iff]
    simp only [List.mem_append, or_and_right, exists_or]

/-- A bin that is named like a column that describes records, and rows in the other order. -/
theorem columnUnion_lists_labels_twice :
    let row : Row := .ofList [("b", .int 1), ("TTL", .int 2)]
    let other : Row := .ofList [("Set", .str "s"), ("B", .nil)]
    columnUnion [row, other] = ["Set", "TTL", "B", "b"] ∧
      columnUnion [other, row, other] = columnUnion [row, other] := by
  intro row other
  refine ⟨by decide +kernel, (columnUnion_lists_labels [row, other]).2.2.2.1 _ fun found => ?_⟩
  simp only [List.mem_cons, List.not_mem_nil, or_false]
  exact ⟨fun h => h.elim .inr id, fun h => h.elim (fun h => .inr (.inl h)) .inl⟩

end RecordQuery
