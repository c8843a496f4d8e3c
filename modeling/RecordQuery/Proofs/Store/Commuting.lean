import RecordQuery.Proofs.Store.Listing

/-!
# Changes of different records

* `Store.ext_of_contents`: a store is what its catalogue and its look-ups say.
* `StoreChange.key?`: the record that a change is about. `Store.find?_apply_of_ne`: no other record
  is changed.
* `Store.apply_comm`: changes of different records can be made in either order.
-/

namespace RecordQuery

/-- The record that a change writes or removes, if it is about one record. -/
def StoreChange.key? : StoreChange → Option RecordKey
  | write key _ => some key
  | remove key => some key
  | declare _ => none
  | dropSet _ => none

namespace Store

/-! ## Contents -/

/-- **Two stores with the same namespaces, the same sets and the same records are equal.** -/
theorem ext_of_contents {store store' : Store}
    (hspaces : ∀ space, store.declares space = store'.declares space)
    (hsets : ∀ target, store.lists target = store'.lists target)
    (hrecords : ∀ key, store.find? key = store'.find? key)
    (hconnected : store.connected = store'.connected)
    (hsettings : store.settings = store'.settings) : store = store' := by
  have hspacesOf : store.spaces = store'.spaces := by
    apply SortedMap.ext
    intro space
    refine SortedMap.get?_eq_of_contains_eq (hspaces space) fun sets sets' hsetsOf hsetsOf' => ?_
    apply SortedMap.ext
    intro set
    have hlists := hsets ⟨space, set⟩
    simp only [lists, setsOf, hsetsOf, hsetsOf', Option.getD_some] at hlists
    refine SortedMap.get?_eq_of_contains_eq hlists fun records records' hrecordsOf hrecordsOf' => ?_
    apply SortedMap.ext
    intro user
    have hfind := hrecords ⟨space, set, user⟩
    simpa only [find?, recordsOf, setsOf, RecordKey.target, hsetsOf, hsetsOf', hrecordsOf,
      hrecordsOf', Option.getD_some] using hfind
  cases store
  cases store'
  simp_all

/-! ## Changes -/

variable {store : Store} {change change' : StoreChange} {key key' : RecordKey}

theorem find?_apply_of_ne (h : change.key? = some key) (hne : key ≠ key') :
    (store.apply change).find? key' = store.find? key' := by
  cases change with
  | write other bins =>
    obtain rfl : other = key := Option.some.inj h
    exact (find?_write ..).trans (if_neg hne)
  | remove other =>
    obtain rfl : other = key := Option.some.inj h
    exact (find?_remove ..).trans (if_neg hne)
  | declare space => cases h
  | dropSet target => cases h

/-- What a change of one record makes of it depends on what the record was, and on nothing else that
the store holds. -/
theorem find?_apply_congr {store' : Store} (h : change.key? = some key)
    (hsettings : store.settings = store'.settings) (hfind : store.find? key = store'.find? key) :
    (store.apply change).find? key = (store'.apply change).find? key := by
  cases change with
  | write other bins =>
    obtain rfl : other = key := Option.some.inj h
    simp only [apply, find?_write, hsettings, hfind]
  | remove other =>
    obtain rfl : other = key := Option.some.inj h
    simp only [apply, find?_remove, if_true]
  | declare space => cases h
  | dropSet target => cases h

/-- **Changes of different records can be made in either order.** -/
theorem apply_comm (h : change.key? = some key) (h' : change'.key? = some key')
    (hne : key ≠ key') :
    (store.apply change).apply change' = (store.apply change').apply change := by
  apply ext_of_contents
  · intro space
    simp only [declares_apply]
    exact Bool.or_left_comm ..
  · intro target
    -- neither change drops the set
    have hkeeps : change ≠ .dropSet target := by
      rintro rfl
      cases h
    have hkeeps' : change' ≠ .dropSet target := by
      rintro rfl
      cases h'
    rw [Bool.eq_iff_iff, lists_apply, lists_apply, lists_apply, lists_apply]
    simp only [ne_eq, hkeeps, hkeeps', not_false_eq_true, true_and]
    exact or_left_comm
  · intro other
    by_cases hkey : key = other
    · subst hkey
      rw [find?_apply_of_ne h' (Ne.symm hne)]
      exact find?_apply_congr h (settings_apply ..).symm (find?_apply_of_ne h' (Ne.symm hne)).symm
    · by_cases hkey' : key' = other
      · subst hkey'
        rw [find?_apply_of_ne h hkey]
        exact find?_apply_congr h' (settings_apply ..) (find?_apply_of_ne h hkey)
      · rw [find?_apply_of_ne h' hkey', find?_apply_of_ne h hkey, find?_apply_of_ne h hkey,
          find?_apply_of_ne h' hkey']
  · simp only [connected_apply]
  · simp only [settings_apply]

end Store

end RecordQuery
