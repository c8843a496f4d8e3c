import RecordQuery.Record
import Mathlib.Data.List.Induction

/-!
# Records after writes

* `Bins.get?_merge`: what is in a bin after a write.
* `Bins.lastWritten?`: what a row of writes leaves in a bin. The last write that names the bin
  counts, and the absent value removes it.
* `Record.afterWrites`: the record that a row of writes leaves, and `Record.SumsUp`: what is in it.
-/

namespace RecordQuery

/-! ## Bins -/

namespace Bins

/-- **What is in a bin after a write.** A bin that is not written stays as it is. -/
theorem get?_merge (bins written : Bins) (name : String) :
    (merge bins written).get? name =
      match written.get? name with
      | some value => if value.isNil then none else some value
      | none => bins.get? name := by
  obtain ⟨entries, hsorted⟩ := written
  have hlookup : SortedMap.get? ⟨entries, hsorted⟩ name = entries.lookup name := rfl
  rw [hlookup]
  unfold merge
  dsimp only
  clear hlookup
  induction entries generalizing bins with
  | nil => rfl
  | cons head rest ih =>
    obtain ⟨key, value⟩ := head
    obtain ⟨hhead, hrest⟩ := List.pairwise_cons.1 hsorted
    rw [List.foldl_cons, ih _ hrest, SortedMap.lookup_cons]
    by_cases hname : key = name
    -- Names are listed once: the other entries leave the bin as this one has made it.
    · subst hname
      rw [SortedMap.lookup_eq_none_of_lt hhead, if_pos rfl]
      by_cases hnil : value.isNil = true
      · simp [hnil, SortedMap.get?_erase]
      · simp [hnil]
    · rw [if_neg hname]
      by_cases hnil : value.isNil = true
      · simp [hnil, SortedMap.get?_erase, hname]
      · simp [hnil, SortedMap.get?_insert, hname]

/-- What a row of writes leaves in a bin: the value of the last write that names it, unless that
value is the absent one. -/
def lastWritten? (writes : List Bins) (name : String) : Option Value :=
  (writes.reverse.findSome? fun bins => bins.get? name).filter fun value => !value.isNil

theorem lastWritten?_concat (writes : List Bins) (bins : Bins) (name : String) :
    lastWritten? (writes ++ [bins]) name =
      match bins.get? name with
      | some value => if value.isNil then none else some value
      | none => lastWritten? writes name := by
  unfold lastWritten?
  rw [List.reverse_concat, List.findSome?_cons]
  cases hvalue : bins.get? name with
  | none => rfl
  | some value => cases hnil : value.isNil <;> simp [Option.filter, hnil]

theorem lastWritten?_ne_nil (writes : List Bins) (name : String) :
    lastWritten? writes name ≠ some .nil := by
  intro h
  simpa [Value.isNil] using (Option.filter_eq_some_iff.1 h).2

end Bins

/-! ## Records -/

namespace Record

theorem get?_written (key : RecordKey) (bins : Bins) (ttl : Option UInt32)
    (before : Option Record) (name : String) :
    (written key bins ttl before).bins.get? name =
      match bins.get? name with
      | some value => if value.isNil then none else some value
      | none => before.bind fun record => record.bins.get? name := by
  cases before with
  | none => exact Bins.get?_merge _ _ _
  | some record => exact Bins.get?_merge _ _ _

/-- The record that a row of writes leaves at an address where there was none. -/
def afterWrites (key : RecordKey) (ttl : Option UInt32) (writes : List Bins) : Option Record :=
  writes.foldl (fun before bins => some (written key bins ttl before)) none

theorem afterWrites_concat (key : RecordKey) (ttl : Option UInt32) (writes : List Bins)
    (bins : Bins) :
    afterWrites key ttl (writes ++ [bins]) =
      some (written key bins ttl (afterWrites key ttl writes)) := by
  rw [afterWrites, List.foldl_append]
  rfl

theorem afterWrites_eq_none_iff {key : RecordKey} {ttl : Option UInt32} {writes : List Bins} :
    afterWrites key ttl writes = none ↔ writes = [] := by
  induction writes using List.reverseRecOn with
  | nil => simp [afterWrites]
  | append_singleton writes bins _ => simp [afterWrites_concat]

/-- Whether a record is what a row of writes to an address leaves there. -/
structure SumsUp (record : Record) (key : RecordKey) (ttl : Option UInt32)
    (writes : List Bins) : Prop where
  key : record.key = key
  bins : ∀ name, record.bins.get? name = Bins.lastWritten? writes name
  generation : record.generation = UInt32.ofNat writes.length
  ttl : record.ttl = ttl

theorem sumsUp_of_afterWrites {key : RecordKey} {ttl : Option UInt32} {writes : List Bins}
    {record : Record} (h : afterWrites key ttl writes = some record) :
    record.SumsUp key ttl writes := by
  induction writes using List.reverseRecOn generalizing record with
  | nil => cases h
  | append_singleton writes bins ih =>
    rw [afterWrites_concat, Option.some.injEq] at h
    subst h
    cases hbefore : afterWrites key ttl writes with
    | none =>
      obtain rfl := afterWrites_eq_none_iff.1 hbefore
      refine ⟨rfl, fun name => ?_, rfl, rfl⟩
      rw [get?_written, Bins.lastWritten?_concat]
      rfl
    | some before =>
      obtain ⟨hkey, hbins, hgeneration, -⟩ := ih hbefore
      refine ⟨hkey, fun name => ?_, ?_, rfl⟩
      · rw [get?_written, Bins.lastWritten?_concat, Option.bind_some, hbins]
      · rw [List.length_append, List.length_singleton, UInt32.ofNat_add, ← hgeneration]
        rfl

end Record

end RecordQuery
