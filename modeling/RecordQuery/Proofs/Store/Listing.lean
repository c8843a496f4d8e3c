import Mathlib.Data.List.Induction
import RecordQuery.Proofs.Outcome
import RecordQuery.Proofs.SortedMap
import RecordQuery.Proofs.Store.Changes

/-!
# What a catalogue lists

A catalogue tells of the history of a store which namespaces were reached and which sets were written
to.

* `Store.declares`, `Store.lists`: whether a catalogue has a namespace, or a set under its namespace.
* `Store.declares_foldl_apply`, `Store.lists_foldl_apply`: both after a row of changes.
* `Seed.Reaches`: the namespaces that a seed comes to before its first error.
  `StoreEvent.declare_mem_changesOf`: where declarations come from.
* `Seed.cases_of_mem_changes`: where the changes of a seed come from.
-/

namespace RecordQuery

namespace Store

/-! ## Namespaces and sets -/

def declares (store : Store) (space : String) : Bool :=
  store.spaces.contains space

def lists (store : Store) (target : SetName) : Bool :=
  (store.setsOf target.space).contains target.set

theorem declares_of_lists {store : Store} {target : SetName} (h : store.lists target = true) :
    store.declares target.space = true := by
  unfold declares SortedMap.contains
  cases hsets : store.spaces.get? target.space with
  | some sets => rfl
  | none =>
    rw [lists, setsOf, hsets] at h
    cases h

theorem lists_of_find? {store : Store} {key : RecordKey} (h : (store.find? key).isSome = true) :
    store.lists key.target = true := by
  unfold lists SortedMap.contains
  cases hrecords : (store.setsOf key.target.space).get? key.target.set with
  | some records => rfl
  | none =>
    rw [find?, recordsOf, hrecords] at h
    cases h

theorem setsOf_declare (store : Store) (space other : String) :
    (store.declare space).setsOf other = store.setsOf other := by
  unfold declare setsOf
  rw [SortedMap.get?_insert]
  by_cases hspace : space = other <;> simp [hspace]

theorem declares_withRecords (store : Store) (target : SetName) (records : Records)
    (space : String) :
    (store.withRecords target records).declares space =
      (decide (target.space = space) || store.declares space) :=
  SortedMap.contains_insert ..

theorem lists_withRecords (store : Store) (target other : SetName) (records : Records) :
    (store.withRecords target records).lists other =
      (decide (target = other) || store.lists other) := by
  obtain ⟨space, set⟩ := target
  obtain ⟨space', set'⟩ := other
  unfold lists
  rw [setsOf_withRecords]
  by_cases hspace : space = space'
  · subst hspace
    rw [if_pos rfl, SortedMap.contains_insert]
    simp
  · rw [if_neg hspace]
    simp [hspace]

theorem declares_remove (store : Store) (key : RecordKey) (space : String) :
    (store.remove key).declares space = store.declares space := by
  unfold remove
  by_cases hfound : (store.find? key).isSome = true
  · rw [if_pos hfound, declares_withRecords]
    by_cases hspace : key.target.space = space
    · rw [← hspace, declares_of_lists (lists_of_find? hfound), Bool.or_true]
    · rw [decide_eq_false hspace, Bool.false_or]
  · rw [if_neg hfound]

theorem lists_remove (store : Store) (key : RecordKey) (target : SetName) :
    (store.remove key).lists target = store.lists target := by
  unfold remove
  by_cases hfound : (store.find? key).isSome = true
  · rw [if_pos hfound, lists_withRecords]
    by_cases htarget : key.target = target
    · rw [← htarget, lists_of_find? hfound, Bool.or_true]
    · rw [decide_eq_false htarget, Bool.false_or]
  · rw [if_neg hfound]

theorem declares_dropSet (store : Store) (target : SetName) (space : String) :
    (store.dropSet target).declares space = store.declares space := by
  unfold dropSet
  cases hsets : store.spaces.get? target.space with
  | none => rfl
  | some sets =>
    unfold declares
    rw [SortedMap.contains_insert]
    by_cases hspace : target.space = space
    · subst hspace
      simp [SortedMap.contains, hsets]
    · simp [hspace]

theorem lists_dropSet (store : Store) (target other : SetName) :
    (store.dropSet target).lists other = (decide (target ≠ other) && store.lists other) := by
  obtain ⟨space, set⟩ := target
  obtain ⟨space', set'⟩ := other
  unfold dropSet
  dsimp only
  cases hsets : store.spaces.get? space with
  | none =>
    by_cases htarget : SetName.mk space set = SetName.mk space' set'
    · obtain ⟨rfl, rfl⟩ := SetName.mk.inj htarget
      simp [lists, setsOf, hsets, SortedMap.contains]
    · simp [htarget]
  | some sets =>
    unfold lists setsOf
    simp only [SortedMap.get?_insert]
    by_cases hspace : space = space'
    · subst hspace
      simp [SortedMap.contains_erase, hsets]
    · simp [hspace]

end Store

/-! ## Histories -/

namespace StoreChange

/-- Whether a change brings a namespace into the catalogue. -/
def reaches (space : String) : StoreChange → Bool
  | declare other => other = space
  | write key _ => key.space = space
  | _ => false

/-- Whether a set was written to and not dropped since. -/
def WrittenSince (target : SetName) (changes : List StoreChange) : Prop :=
  ∃ before key bins after, changes = before ++ .write key bins :: after ∧ key.target = target ∧
    .dropSet target ∉ after

theorem writtenSince_concat (target : SetName) (changes : List StoreChange)
    (change : StoreChange) :
    WrittenSince target (changes ++ [change]) ↔
      (∃ key bins, change = .write key bins ∧ key.target = target) ∨
        change ≠ .dropSet target ∧ WrittenSince target changes := by
  constructor
  · rintro ⟨before, key, bins, after, hchanges, htarget, hnotdropped⟩
    -- the last change is the write itself, or one of those after it
    induction after using List.reverseRecOn with
    | nil =>
      obtain ⟨-, hchange⟩ := List.append_inj' hchanges rfl
      exact .inl ⟨key, bins, List.head_eq_of_cons_eq hchange, htarget⟩
    | append_singleton after last _ =>
      rw [← List.cons_append, ← List.append_assoc] at hchanges
      obtain ⟨hbefore, hlast⟩ := List.append_inj' hchanges rfl
      obtain rfl := List.head_eq_of_cons_eq hlast
      rw [List.mem_append, not_or, List.mem_singleton] at hnotdropped
      exact .inr ⟨fun h => hnotdropped.2 h.symm, before, key, bins, after, hbefore, htarget,
        hnotdropped.1⟩
  · rintro (⟨key, bins, rfl, htarget⟩ | ⟨hchange, before, key, bins, after, rfl, htarget, hafter⟩)
    · exact ⟨changes, key, bins, [], rfl, htarget, List.not_mem_nil⟩
    · refine ⟨before, key, bins, after ++ [change], by simp, htarget, ?_⟩
      rw [List.mem_append, List.mem_singleton]
      rintro (hmem | heq)
      · exact hafter hmem
      · exact hchange heq.symm

end StoreChange

namespace Store

theorem declares_apply (store : Store) (change : StoreChange) (space : String) :
    (store.apply change).declares space = (change.reaches space || store.declares space) := by
  cases change with
  | declare other => exact SortedMap.contains_insert ..
  | write key bins => exact declares_withRecords ..
  | remove key => exact declares_remove store key space
  | dropSet target => exact declares_dropSet store target space

theorem declares_foldl_apply (store : Store) (changes : List StoreChange) (space : String) :
    (changes.foldl apply store).declares space =
      (store.declares space || changes.any (StoreChange.reaches space)) := by
  induction changes generalizing store with
  | nil => exact (Bool.or_false _).symm
  | cons change rest ih =>
    rw [List.foldl_cons, ih, declares_apply, List.any_cons, Bool.or_comm (change.reaches space),
      Bool.or_assoc]

theorem lists_apply (store : Store) (change : StoreChange) (target : SetName) :
    (store.apply change).lists target = true ↔
      (∃ key bins, change = .write key bins ∧ key.target = target) ∨
        change ≠ .dropSet target ∧ store.lists target = true := by
  cases change with
  | declare space => simp [apply, lists, setsOf_declare]
  | write key bins =>
    have hwrite := lists_withRecords store key.target target
      ((store.recordsOf key.target).insert key.user
        (Record.written key bins store.settings.defaultTtl (store.find? key)))
    show (Store.withRecords _ _ _).lists target = true ↔ _
    rw [hwrite]
    simp
  | remove key =>
    show (store.remove key).lists target = true ↔ _
    rw [lists_remove]
    simp
  | dropSet other =>
    show (store.dropSet other).lists target = true ↔ _
    rw [lists_dropSet]
    simp

/-- **A set is listed exactly if a record was written to it and it was not dropped since**, or if it
was listed before and was not dropped. -/
theorem lists_foldl_apply (store : Store) (changes : List StoreChange) (target : SetName) :
    (changes.foldl apply store).lists target = true ↔
      StoreChange.WrittenSince target changes ∨
        .dropSet target ∉ changes ∧ store.lists target = true := by
  induction changes using List.reverseRecOn with
  | nil =>
    have hnone : ¬ StoreChange.WrittenSince target [] := by
      rintro ⟨before, key, bins, after, h, -⟩
      exact absurd h.symm (by simp)
    simp [hnone]
  | append_singleton changes change ih =>
    rw [List.foldl_append, List.foldl_cons, List.foldl_nil, lists_apply, ih,
      StoreChange.writtenSince_concat, List.mem_append, not_or, List.mem_singleton]
    constructor
    · rintro (hwrite | ⟨hchange, hwritten | ⟨hdropped, hlists⟩⟩)
      · exact .inl (.inl hwrite)
      · exact .inl (.inr ⟨hchange, hwritten⟩)
      · exact .inr ⟨⟨hdropped, fun h => hchange h.symm⟩, hlists⟩
    · rintro ((hwrite | ⟨hchange, hwritten⟩) | ⟨⟨hdropped, hchange⟩, hlists⟩)
      · exact .inl hwrite
      · exact .inr ⟨hchange, .inl hwritten⟩
      · exact .inr ⟨fun h => hchange h.symm, .inr ⟨hdropped, hlists⟩⟩

end Store

/-! ## Seeds -/

namespace Seed

/-- Whether a seed comes to a namespace: all entries before it can be loaded. -/
def Reaches (seed : Json) (space : String) : Prop :=
  ∃ before json after, seed = .object (before ++ (space, json) :: after) ∧
    ∃ count, outcome (steps (.object before)) = .ok count

theorem outcome_eq_ok_iff (steps : List SeedStep) :
    (∃ count, outcome steps = .ok count) ↔ steps.all Except.isOk = true := by
  induction steps with
  | nil => exact ⟨fun _ => rfl, fun _ => ⟨0, rfl⟩⟩
  | cons step steps ih =>
    simp only [outcome, map_eq_ok_iff, List.mapM_cons, bind_eq_ok_iff] at ih ⊢
    cases step with
    | error e =>
      constructor
      · rintro ⟨_, _, ⟨_, h, -⟩, -⟩
        cases h
      · intro h
        cases h
    | ok change =>
      rw [List.all_cons, Except.isOk, Except.toBool, Bool.true_and, ← ih]
      constructor
      · rintro ⟨_, _, ⟨_, -, changes, hsteps, -⟩, -⟩
        exact ⟨_, changes, hsteps, rfl⟩
      · rintro ⟨_, changes, hsteps, -⟩
        exact ⟨_, _, ⟨change, rfl, changes, hsteps, rfl⟩, rfl⟩

theorem changesOf_append (steps rest : List SeedStep) :
    changesOf (steps ++ rest) =
      changesOf steps ++ if steps.all Except.isOk = true then changesOf rest else [] := by
  induction steps with
  | nil => simp [changesOf]
  | cons step steps ih =>
    cases step with
    | error e => rfl
    | ok change =>
      rw [List.cons_append, changesOf, changesOf, ih]
      rfl

theorem mem_of_mem_changesOf {steps : List SeedStep} {change : StoreChange}
    (h : change ∈ changesOf steps) : .ok change ∈ steps := by
  induction steps with
  | nil => cases h
  | cons step steps ih =>
    cases step with
    | error e => cases h
    | ok first =>
      obtain rfl | h := List.mem_cons.1 h
      · exact List.mem_cons_self
      · exact List.mem_cons_of_mem _ (ih h)

theorem exists_record_of_mem_setSteps {space : String} {sets : List (String × Json)}
    {change : StoreChange} (h : .ok change ∈ setSteps space sets) :
    ∃ key bins records json, change = .write key bins ∧ key.space = space ∧
      (key.set, .object records) ∈ sets ∧ (key.user, json) ∈ records := by
  obtain ⟨⟨set, json⟩, hset, hstep⟩ := List.mem_flatMap.1 h
  cases json with
  | object records =>
    obtain ⟨⟨user, json⟩, hrecord, hstep⟩ := List.mem_map.1 hstep
    unfold recordStep at hstep
    split at hstep
    next bins hbins =>
      cases hstep
      exact ⟨_, _, records, json, rfl, rfl, hset, hrecord⟩
    next => cases hstep
  | _ => simp [setStep] at hstep

theorem mem_changesOf_spaceStep {space other : String} {json : Json} :
    .declare space ∈ changesOf (spaceStep other json) ↔ other = space := by
  cases json with
  | object sets =>
    rw [spaceStep, changesOf, List.mem_cons, StoreChange.declare.injEq]
    refine ⟨fun h => (h.resolve_right fun hmem => ?_).symm, fun h => .inl h.symm⟩
    obtain ⟨key, bins, _, _, hchange, -⟩ :=
      exists_record_of_mem_setSteps (mem_of_mem_changesOf hmem)
    cases hchange
  | _ => simp [spaceStep, changesOf, eq_comm]

theorem declare_mem_changes_iff {seed : Json} {space : String} :
    .declare space ∈ changes seed ↔ Reaches seed space := by
  cases seed with
  | object spaces =>
    constructor
    · intro h
      replace h : .declare space ∈ changesOf (spaceSteps spaces) := h
      induction spaces with
      | nil => cases h
      | cons first rest ih =>
        rw [spaceSteps, List.flatMap_cons, changesOf_append, List.mem_append,
          mem_changesOf_spaceStep] at h
        obtain rfl | h := h
        · exact ⟨[], first.2, rest, rfl, 0, rfl⟩
        · by_cases hok : (spaceStep first.1 first.2).all Except.isOk = true
          · rw [if_pos hok] at h
            obtain ⟨before, json, after, hrest, hcount⟩ := ih h
            cases hrest
            refine ⟨first :: before, json, after, rfl, ?_⟩
            rw [outcome_eq_ok_iff] at hcount ⊢
            rw [steps, spaceSteps, List.flatMap_cons, List.all_append, hok, Bool.true_and]
            exact hcount
          · rw [if_neg hok] at h
            cases h
    · rintro ⟨before, json, after, hspaces, hcount⟩
      cases hspaces
      rw [outcome_eq_ok_iff] at hcount
      have hsteps : steps (.object (before ++ (space, json) :: after)) =
          steps (.object before) ++ (spaceStep space json ++ spaceSteps after) := by
        simp [steps, spaceSteps]
      unfold changes
      rw [hsteps, changesOf_append, if_pos hcount]
      refine List.mem_append_right _ ?_
      rw [changesOf_append]
      exact List.mem_append_left _ (mem_changesOf_spaceStep.2 rfl)
  | _ =>
    constructor
    · intro h
      cases h
    · rintro ⟨before, json, after, hspaces, -⟩
      cases hspaces

theorem cases_of_mem_changes {spaces : List (String × Json)} {change : StoreChange}
    (h : change ∈ changes (.object spaces)) :
    (∃ space, change = .declare space) ∨
      ∃ key bins sets records json, change = .write key bins ∧
        (key.space, .object sets) ∈ spaces ∧ (key.set, .object records) ∈ sets ∧
        (key.user, json) ∈ records := by
  obtain ⟨⟨space, json⟩, hspace, hstep⟩ := List.mem_flatMap.1 (mem_of_mem_changesOf h)
  cases json with
  | object sets =>
    obtain hdeclare | hstep := List.mem_cons.1 hstep
    · cases hdeclare
      exact .inl ⟨space, rfl⟩
    · obtain ⟨key, bins, records, json, hchange, rfl, hset, hrecord⟩ :=
        exists_record_of_mem_setSteps hstep
      exact .inr ⟨key, bins, sets, records, json, hchange, hspace, hset, hrecord⟩
  | _ =>
    obtain hdeclare | hstep := List.mem_cons.1 hstep
    · cases hdeclare
      exact .inl ⟨space, rfl⟩
    · simp at hstep

end Seed

theorem StoreEvent.declare_mem_changesOf {space : String} (connected : Bool)
    (events : List StoreEvent) :
    .declare space ∈ changesOf connected events ↔
      .declare space ∈ events ∨ ∃ seed, .load seed ∈ events ∧ Seed.Reaches seed space := by
  induction events generalizing connected with
  | nil => simp [changesOf]
  | cons event rest ih =>
    rw [changesOf, List.mem_append, ih]
    simp only [List.mem_cons]
    cases event with
    | declare other => simp [changes, or_assoc]
    | load seed =>
      simp only [changes, Seed.declare_mem_changes_iff, load.injEq, reduceCtorEq, false_or]
      constructor
      · rintro (hseed | hdeclare | ⟨seed', hmem, hreaches⟩)
        · exact .inr ⟨seed, .inl rfl, hseed⟩
        · exact .inl hdeclare
        · exact .inr ⟨seed', .inr hmem, hreaches⟩
      · rintro (hdeclare | ⟨seed', rfl | hmem, hreaches⟩)
        · exact .inr (.inl hdeclare)
        · exact .inl hreaches
        · exact .inr (.inr ⟨seed', hmem, hreaches⟩)
    | setConnected _ => simp [changes]
    | put key bins => cases connected <;> simp [changes]
    | delete key => cases connected <;> simp [changes]
    | truncate target => cases connected <;> simp [changes]

end RecordQuery
