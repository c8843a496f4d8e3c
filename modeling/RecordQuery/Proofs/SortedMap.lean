import RecordQuery.SortedMap
import Mathlib.Data.List.Induction

/-!
# Maps from lists

* `ofList_concat`: the last entry of a list is the last one put into the map.
* `filter_ofList`, `mapValues_ofList`: names may be left out, and values changed, before or after a
  map is made of a list.
* `ofList_replace`, `ofList_replace_of_mem`: what another value in one entry changes.
* `get?_insertMany_entries`: the entries of one map put into another.
* `get?_ofList_eq_some_iff`, `contains_ofList`: what a list is looked up as.
* `get?_ofList_of_nodup`: a list in which no name stands twice is looked up as it is.
* `isEmpty_ofList`: only the empty list makes the empty map.
* `values_filter_name`: at most one value is listed under a name.
-/

namespace RecordQuery.SortedMap

variable {α : Type}

theorem insertMany_concat (m : SortedMap α) (entries : List (String × α)) (e : String × α) :
    m.insertMany (entries ++ [e]) = (m.insertMany entries).insert e.1 e.2 := by
  rw [insertMany, List.foldl_append]
  rfl

theorem ofList_concat (entries : List (String × α)) (e : String × α) :
    ofList (entries ++ [e]) = (ofList entries).insert e.1 e.2 :=
  insertMany_concat empty entries e

theorem filter_insert (m : SortedMap α) (keep : String → Bool) (name : String) (value : α) :
    (m.insert name value).filter (fun name _ => keep name) =
      if keep name then (m.filter fun name _ => keep name).insert name value
      else m.filter fun name _ => keep name := by
  apply ext
  intro other
  by_cases hkeep : keep name = true
  · rw [if_pos hkeep, get?_filter, get?_insert, get?_insert, get?_filter]
    by_cases hname : name = other
    · subst hname
      simp [hkeep]
    · simp [hname]
  · rw [if_neg hkeep, get?_filter, get?_insert, get?_filter]
    by_cases hname : name = other
    · subst hname
      cases m.get? name <;> simp [hkeep, Option.filter]
    · simp [hname]

theorem filter_ofList (keep : String → Bool) (entries : List (String × α)) :
    (ofList entries).filter (fun name _ => keep name) =
      ofList (entries.filter fun e => keep e.1) := by
  induction entries using List.reverseRecOn with
  | nil => rfl
  | append_singleton entries e ih =>
    rw [ofList_concat, filter_insert, ih, List.filter_append]
    by_cases hkeep : keep e.1 = true
    · simp only [hkeep, if_true, List.filter_cons_of_pos, List.filter_nil]
      rw [ofList_concat]
    · simp [hkeep]

theorem mapValues_ofList {β : Type} (f : α → β) (entries : List (String × α)) :
    (ofList entries).mapValues (fun _ => f) = ofList (entries.map fun e => (e.1, f e.2)) := by
  induction entries using List.reverseRecOn with
  | nil => rfl
  | append_singleton entries e ih =>
    rw [List.map_append, List.map_singleton, ofList_concat, ofList_concat, ← ih]
    apply ext
    intro name
    rw [get?_mapValues, get?_insert, get?_insert, get?_mapValues]
    split <;> rfl

theorem isEmpty_insert (m : SortedMap α) (name : String) (value : α) :
    (m.insert name value).isEmpty = false := by
  obtain ⟨entries, hsorted⟩ := m
  simp only [insert, isEmpty]
  cases entries with
  | nil => rfl
  | cons head rest =>
    simp only [insertEntry]
    split
    · rfl
    · split <;> rfl

theorem isEmpty_ofList (entries : List (String × α)) :
    (ofList entries).isEmpty = entries.isEmpty := by
  induction entries using List.reverseRecOn with
  | nil => rfl
  | append_singleton entries e _ =>
    rw [ofList_concat, isEmpty_insert]
    simp

theorem get?_ofList (entries : List (String × α)) (name : String) :
    (ofList entries).get? name = entries.reverse.lookup name := by
  induction entries using List.reverseRecOn with
  | nil => rfl
  | append_singleton entries e ih =>
    rw [ofList_concat, get?_insert, ih, List.reverse_concat, lookup_cons]

theorem get?_ofList_of_nodup {entries : List (String × α)} (h : (entries.map Prod.fst).Nodup)
    (name : String) : (ofList entries).get? name = entries.lookup name := by
  induction entries using List.reverseRecOn with
  | nil => rfl
  | append_singleton entries e ih =>
    rw [List.map_append, List.map_singleton, List.nodup_append] at h
    obtain ⟨hentries, -, hother⟩ := h
    rw [ofList_concat, get?_insert, ih hentries, List.lookup_append, lookup_cons]
    by_cases hname : e.1 = name
    · have hnone : entries.lookup name = none := by
        rw [List.lookup_eq_none_iff]
        intro other hmem
        rw [bne_iff_ne, ← hname, ne_comm]
        exact hother _ (List.mem_map_of_mem hmem) _ List.mem_cons_self
      rw [if_pos hname, if_pos hname, hnone]
      rfl
    · rw [if_neg hname, if_neg hname, List.lookup_nil, Option.or_none]

theorem get?_ofList_eq_some_iff {entries : List (String × α)} {name : String} {value : α} :
    (ofList entries).get? name = some value ↔
      ∃ before after, entries = before ++ (name, value) :: after ∧ ∀ e ∈ after, e.1 ≠ name := by
  rw [get?_ofList, List.lookup_eq_some_iff]
  constructor
  · rintro ⟨after, before, hentries, hafter⟩
    refine ⟨before.reverse, after.reverse, ?_, fun e he => ?_⟩
    · rw [← entries.reverse_reverse, hentries]
      simp
    · exact (bne_iff_ne.1 (hafter e (List.mem_reverse.1 he))).symm
  · rintro ⟨before, after, rfl, hafter⟩
    refine ⟨after.reverse, before.reverse, by simp, fun e he => ?_⟩
    exact bne_iff_ne.2 (hafter e (List.mem_reverse.1 he)).symm

theorem mem_of_get?_ofList {entries : List (String × α)} {name : String} {value : α}
    (h : (ofList entries).get? name = some value) : (name, value) ∈ entries := by
  obtain ⟨before, after, rfl, -⟩ := get?_ofList_eq_some_iff.1 h
  exact List.mem_append_right _ List.mem_cons_self

theorem get?_ofList_append_cons (before after : List (String × α)) (name other : String)
    (value : α) :
    (ofList (before ++ (name, value) :: after)).get? other =
      (after.reverse.lookup other).or
        (if name = other then some value else before.reverse.lookup other) := by
  rw [get?_ofList, List.reverse_append, List.reverse_cons, List.append_assoc, List.lookup_append,
    List.singleton_append, lookup_cons]

theorem lookup_reverse_eq_none {entries : List (String × α)} {name : String}
    (h : ∀ value, (name, value) ∉ entries) : entries.reverse.lookup name = none := by
  rw [List.lookup_eq_none_iff]
  intro e he
  rw [bne_iff_ne]
  rintro rfl
  exact h e.2 (List.mem_reverse.1 he)

theorem ofList_replace_of_mem {after : List (String × α)} {name : String} {later : α}
    (h : (name, later) ∈ after) (before : List (String × α)) (value value' : α) :
    ofList (before ++ (name, value) :: after) = ofList (before ++ (name, value') :: after) := by
  apply ext
  intro other
  rw [get?_ofList_append_cons, get?_ofList_append_cons]
  by_cases hname : name = other
  · subst hname
    cases hlookup : after.reverse.lookup name with
    | none =>
      have hne := List.lookup_eq_none_iff.1 hlookup (name, later) (List.mem_reverse.2 h)
      exact absurd rfl (bne_iff_ne.1 hne)
    | some found => rfl
  · rw [if_neg hname, if_neg hname]

theorem ofList_replace {after : List (String × α)} {name : String}
    (h : ∀ later, (name, later) ∉ after) (before : List (String × α)) (value value' : α) :
    ofList (before ++ (name, value') :: after) =
      (ofList (before ++ (name, value) :: after)).insert name value' := by
  apply ext
  intro other
  rw [get?_insert, get?_ofList_append_cons, get?_ofList_append_cons]
  by_cases hname : name = other
  · subst hname
    rw [lookup_reverse_eq_none h]
    simp
  · simp only [if_neg hname]

theorem lookup_reverse_entries (m : SortedMap α) (name : String) :
    m.entries.reverse.lookup name = m.get? name := by
  rw [← get?_ofList]
  apply Option.ext
  intro value
  constructor
  · exact fun h => (mem_entries_iff m).1 (mem_of_get?_ofList h)
  · intro h
    cases hfound : (ofList m.entries).get? name with
    | none =>
      rw [get?_ofList, List.lookup_eq_none_iff] at hfound
      have hne := hfound _ (List.mem_reverse.2 ((mem_entries_iff m).2 h))
      exact absurd rfl (bne_iff_ne.1 hne)
    | some found =>
      exact ((mem_entries_iff m).1 (mem_of_get?_ofList hfound)).symm.trans h

theorem get?_insertMany_entries (m other : SortedMap α) (name : String) :
    (m.insertMany other.entries).get? name = (other.get? name).or (m.get? name) := by
  rw [← lookup_reverse_entries other]
  induction other.entries using List.reverseRecOn with
  | nil => rfl
  | append_singleton entries e ih =>
    rw [insertMany_concat, get?_insert, ih, List.reverse_concat, lookup_cons]
    by_cases hname : e.1 = name
    · rw [if_pos hname, if_pos hname]
      rfl
    · rw [if_neg hname, if_neg hname]

theorem mem_keys_iff (m : SortedMap α) {name : String} :
    name ∈ m.keys ↔ m.contains name = true := by
  unfold keys contains
  rw [List.mem_map, Option.isSome_iff_exists]
  constructor
  · rintro ⟨⟨_, value⟩, hmem, rfl⟩
    exact ⟨value, (mem_entries_iff m).1 hmem⟩
  · rintro ⟨value, hvalue⟩
    exact ⟨(name, value), (mem_entries_iff m).2 hvalue, rfl⟩

theorem pairwise_keys (m : SortedMap α) : m.keys.Pairwise fun name other => name < other :=
  List.pairwise_map.2 m.sorted

theorem contains_insert (m : SortedMap α) (name other : String) (value : α) :
    (m.insert name value).contains other = (decide (name = other) || m.contains other) := by
  unfold contains
  rw [get?_insert]
  by_cases h : name = other <;> simp [h]

theorem contains_ofList (entries : List (String × α)) (name : String) :
    (ofList entries).contains name = true ↔ name ∈ entries.map Prod.fst := by
  induction entries using List.reverseRecOn with
  | nil => simp [ofList, insertMany, contains]
  | append_singleton entries e ih =>
    rw [ofList_concat, contains_insert, Bool.or_eq_true, ih, decide_eq_true_iff, List.map_append,
      List.mem_append, List.map_singleton, List.mem_singleton, or_comm, eq_comm]

theorem contains_erase (m : SortedMap α) (name other : String) :
    (m.erase name).contains other = (decide (name ≠ other) && m.contains other) := by
  unfold contains
  rw [get?_erase]
  by_cases h : name = other <;> simp [h]

theorem erase_of_get?_eq_none {m : SortedMap α} {name : String} (h : m.get? name = none) :
    m.erase name = m := by
  apply ext
  intro other
  rw [get?_erase]
  split
  next hname => rw [← hname, h]
  next => rfl

theorem get?_eq_of_contains_eq {m m' : SortedMap α} {name : String}
    (hcontains : m.contains name = m'.contains name)
    (hvalues : ∀ value value', m.get? name = some value → m'.get? name = some value' →
      value = value') : m.get? name = m'.get? name := by
  unfold contains at hcontains
  cases hvalue : m.get? name with
  | none =>
    rw [hvalue] at hcontains
    exact (Option.isNone_iff_eq_none.1 (by simpa using hcontains.symm)).symm
  | some value =>
    rw [hvalue] at hcontains
    obtain ⟨value', hvalue'⟩ := Option.isSome_iff_exists.1 hcontains.symm
    rw [hvalue', hvalues value value' hvalue hvalue']

theorem values_filter_name (m : SortedMap α) (name : String) :
    (m.filter fun other _ => decide (name = other)).values = (m.get? name).toList := by
  obtain ⟨entries, hsorted⟩ := m
  simp only [filter, values, get?]
  induction entries with
  | nil => rfl
  | cons head rest ih =>
    obtain ⟨hhead, hrest⟩ := List.pairwise_cons.1 hsorted
    rw [List.filter_cons, lookup_cons]
    by_cases hname : head.1 = name
    · have hothers : rest.filter (fun e => decide (name = e.1)) = [] := by
        rw [List.filter_eq_nil_iff]
        intro e he heq
        have hlt := hhead e he
        rw [hname, ← of_decide_eq_true heq] at hlt
        exact String.lt_irrefl _ hlt
      simp [hname, hothers]
    · rw [if_neg hname, ← ih hrest]
      simp [Ne.symm hname]

end RecordQuery.SortedMap
