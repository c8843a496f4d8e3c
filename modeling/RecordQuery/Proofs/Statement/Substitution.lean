import RecordQuery.Proofs.Statement.Places

/-!
# Another string in a clause

A clause with a closed quoted string at some place is read like the clause with another string there.
Where the string is a whole value, the statements differ in this value only.

* `condition_replace`, `assignments_replace`, `values_replace`: the parts that hold values.
* `Statement.ofClause_replace`: the four shapes.
-/

namespace RecordQuery

variable {front back : Clause} {gap x y : List Char}

/-! ## Quoted strings -/

theorem isFlat_ofQuoted (gap body : List Char) : (Token.ofQuoted gap body).IsFlat :=
  ⟨nofun, nofun⟩

theorem alike_replace (front back : Clause) (gap x y : List Char) :
    Clause.Alike (front ++ Token.ofQuoted gap x :: back) (front ++ Token.ofQuoted gap y :: back) :=
  List.rel_append (Clause.Alike.refl front) (.cons (.quoted gap x y) (Clause.Alike.refl back))

theorem text_ofQuoted (gap body : List Char) :
    Clause.text [Token.ofQuoted gap body] = quoteMark :: (body ++ [quoteMark]) :=
  List.append_nil _

theorem coerce_text_ofQuoted (gap body : List Char) :
    Literal.coerce (Clause.text [Token.ofQuoted gap body]) = .str (String.ofList body) := by
  rw [text_ofQuoted, Literal.coerce_enclosed]

theorem ofRaw_text_ofQuoted (gap body : List Char) :
    Assignment.ofRaw (Clause.text [Token.ofQuoted gap body]) =
      ⟨.str (String.ofList body), String.ofList body⟩ := by
  rw [text_ofQuoted, Assignment.ofRaw, Literal.trim_enclosed, Literal.coerce_enclosed]
  rfl

/-! ## Conditions -/

theorem splitOn_equals_replace {c bin : Clause} {u : Token} (h : c.splitOn .equals = [bin, [u]]) :
    ∃ before after, c = before ++ u :: after ∧ before.length = bin.length + 1 ∧
      (u.IsFlat → ∀ u' : Token, u'.IsFlat → u'.kind ≠ .equals →
        Clause.splitOn (before ++ u' :: after) .equals = [bin, [u']]) := by
  have hsplit : Clause.splitFrom .equals 0 c = [bin] ++ ([] ++ u :: []) :: [] := h
  obtain ⟨before, after, hc, hlength, hreplace⟩ := Clause.splitFrom_replace hsplit
  refine ⟨before, after, hc, ?_, hreplace⟩
  rw [hlength, Clause.extent_cons, Clause.extent_nil, List.length_nil]

theorem condition_replace {start : Nat} {part : ValuePart} {u : Token} {predicate : Equality}
    (hpart : part ∈ Clause.conditionPart (front ++ Token.ofQuoted gap x :: back) start)
    (hposition : part.position = front.length) (htokens : part.tokens = [u])
    (hpredicate : (Clause.tail (front ++ Token.ofQuoted gap x :: back) start).equality? =
      some predicate) :
    start < front.length ∧ part.place = .condition ∧
      predicate.value = .str (String.ofList x) ∧
      (Clause.tail (front ++ Token.ofQuoted gap y :: back) start).equality? =
        some { predicate with value := .str (String.ofList y) } := by
  obtain ⟨bin, hsplit, hplace, hstart⟩ := Clause.rightSide?_eq_some (Option.mem_toList.1 hpart)
  rw [htokens] at hsplit
  obtain ⟨before, after, htail, hlength, hreplace⟩ := splitOn_equals_replace hsplit
  obtain ⟨rfl, htail'⟩ := Clause.tail_replace htail (by omega)
  have hsplit' := hreplace (isFlat_ofQuoted gap x) _ (isFlat_ofQuoted gap y) nofun
  rw [htail']
  unfold Clause.equality? at hpredicate ⊢
  rw [hsplit] at hpredicate
  rw [hsplit']
  dsimp only at hpredicate ⊢
  split at hpredicate
  next => cases hpredicate
  next hne =>
    obtain rfl := Option.some.inj hpredicate
    have hne' : ¬(bin.isEmpty || List.isEmpty [Token.ofQuoted gap y]) = true := hne
    refine ⟨by omega, hplace, coerce_text_ofQuoted gap x, ?_⟩
    rw [if_neg hne', coerce_text_ofQuoted]

/-! ## Assignments -/

theorem assignment_eq_ok {c : Clause} {pair : String × Assignment}
    (h : c.assignment = .ok pair) :
    ∃ bin value, c.splitOn .equals = [bin, value] ∧ bin.isEmpty = false ∧
      value.isEmpty = false ∧ pair = (bin.name, Assignment.ofRaw value.text) := by
  unfold Clause.assignment at h
  split at h
  next bin value hsplit =>
    split at h
    next => cases h
    next hbin =>
      split at h
      next => cases h
      next hvalue =>
        exact ⟨bin, value, hsplit, Bool.of_not_eq_true hbin, Bool.of_not_eq_true hvalue,
          (Except.ok.inj h).symm⟩
  next => cases h

theorem assignment_of_splitOn {c bin value : Clause} (h : c.splitOn .equals = [bin, value])
    (hbin : bin.isEmpty = false) (hvalue : value.isEmpty = false) :
    c.assignment = .ok (bin.name, Assignment.ofRaw value.text) := by
  rw [Clause.assignment, h]
  simp only [hbin, hvalue, Bool.false_eq_true, if_false]

theorem exists_place_iff {parts : List Clause} {pairs : List (String × Assignment)}
    (h : List.Forall₂ (fun part pair => part.assignment = .ok pair) parts pairs) (start : Nat)
    (name : String) :
    (∃ other ∈ (Clause.placed start parts).filterMap fun part =>
        part.2.rightSide? .assigned part.1, other.place = .assigned name) ↔
      ∃ value, (name, value) ∈ pairs := by
  induction h generalizing start with
  | nil => simp [Clause.placed]
  | @cons part pair parts pairs hpart _ ih =>
    obtain ⟨bin, value, hsplit, -, -, rfl⟩ := assignment_eq_ok hpart
    have hside : part.rightSide? .assigned start =
        some ⟨.assigned bin.name, start + bin.length + 1, value⟩ := by
      rw [Clause.rightSide?, hsplit]
    rw [Clause.placed, List.filterMap_cons]
    simp only [hside, List.mem_cons, exists_eq_or_imp, ih, ValuePlace.assigned.injEq, Prod.mk.injEq]
    constructor
    · rintro (rfl | ⟨value', hmem⟩)
      · exact ⟨_, .inl ⟨rfl, rfl⟩⟩
      · exact ⟨value', .inr hmem⟩
    · rintro ⟨value', ⟨rfl, -⟩ | hmem⟩
      · exact .inl rfl
      · exact .inr ⟨value', hmem⟩

theorem assignments_replace {position : Nat} {earlier later : List ValuePart} {part : ValuePart}
    {u : Token} {assignments : SortedMap Assignment}
    (hparts : ((front ++ Token.ofQuoted gap x :: back : Clause).slice 3 position).assignedParts 3 =
      earlier ++ part :: later)
    (hposition : part.position = front.length) (htokens : part.tokens = [u])
    (h : ((front ++ Token.ofQuoted gap x :: back : Clause).slice 3 position).assignments =
      .ok assignments) :
    front.length < position ∧ ∃ before bin after, part.place = .assigned bin ∧
      assignments =
        .ofList (before ++ (bin, ⟨.str (String.ofList x), String.ofList x⟩) :: after) ∧
      ((front ++ Token.ofQuoted gap y :: back : Clause).slice 3 position).assignments =
        .ok (.ofList (before ++ (bin, ⟨.str (String.ofList y), String.ofList y⟩) :: after)) ∧
      ∀ name, (∃ other ∈ later, other.place = .assigned name) ↔ ∃ value, (name, value) ∈ after := by
  obtain ⟨l, r, hplaced, -, hr⟩ := List.filterMap_eq_append_iff.1 hparts
  obtain ⟨l', ⟨start, whole⟩, r', rfl, -, hwhole, rfl⟩ := List.filterMap_eq_cons_iff.1 hr
  rw [← List.append_assoc] at hplaced
  obtain ⟨parts, parts', hcomma, rfl, -, rfl⟩ := Clause.placed_eq_append_cons hplaced
  obtain ⟨bin, hsplit, hplace, hstart⟩ := Clause.rightSide?_eq_some hwhole
  rw [htokens] at hsplit
  obtain ⟨before, after, rfl, hbefore, hequals⟩ := splitOn_equals_replace hsplit
  obtain ⟨sliceFront, sliceBack, hslice, hlength, hcommas⟩ := Clause.splitFrom_replace hcomma
  obtain ⟨hlt, rfl, hslice'⟩ := Clause.slice_replace hslice (by omega)
  have hsplit' := hequals (isFlat_ofQuoted gap x) _ (isFlat_ofQuoted gap y) nofun
  have hcomma' := hcommas (isFlat_ofQuoted gap x) _ (isFlat_ofQuoted gap y) nofun
  have hne : ∀ (sliceFront sliceBack : Clause) (t : Token),
      List.isEmpty (sliceFront ++ t :: sliceBack) = false := fun sliceFront _ _ => by
    cases sliceFront <;> rfl
  rw [Clause.assignments, hslice, hne, ← hslice, hcomma] at h
  obtain ⟨pairs, hpairs, rfl⟩ := map_eq_ok_iff.1 h
  obtain ⟨ys, pair, zs, hys, hpair, hzs, rfl⟩ := mapM_append_cons_eq_ok_iff.1 hpairs
  obtain ⟨bin', value', hboth, hbin, -, rfl⟩ := assignment_eq_ok hpair
  obtain ⟨rfl, rfl⟩ : bin = bin' ∧ [Token.ofQuoted gap x] = value' := by
    rw [hsplit] at hboth
    simpa using hboth
  refine ⟨hlt, ys, bin.name, zs, hplace, ?_, ?_, exists_place_iff (mapM_eq_ok_iff.1 hzs) _⟩
  · rw [ofRaw_text_ofQuoted]
  · have hpair' := assignment_of_splitOn hsplit' hbin rfl
    rw [ofRaw_text_ofQuoted] at hpair'
    have hpairs' := mapM_append_cons_eq_ok_iff.2 ⟨ys, _, zs, hys, hpair', hzs, rfl⟩
    rw [hslice', Clause.assignments, hne]
    simp only [Clause.splitOn, hcomma', hpairs', Bool.false_eq_true, if_false]
    rfl

/-! ## Shapes -/

theorem isTargetAt_replace {position : Nat} {target : SetName}
    (h : Clause.IsTargetAt (front ++ Token.ofQuoted gap x :: back) position target) :
    Clause.IsTargetAt (front ++ Token.ofQuoted gap y :: back) position target := by
  unfold Clause.IsTargetAt at h ⊢
  rwa [Clause.dottedWordAt?_alike (alike_replace front back gap x y)] at h

variable {earlier later : List ValuePart} {part : ValuePart} {u : Token}

theorem isKept_of_place_eq_condition (h : part.place = .condition) (later : List ValuePart) :
    part.IsKept later := by
  intro bin hbin
  rw [h] at hbin
  cases hbin

theorem SelectStatement.ofClause_replace {s : SelectStatement}
    (h : SelectStatement.ofClause (front ++ Token.ofQuoted gap x :: back) = .ok s)
    (hparts : Clause.valueParts (front ++ Token.ofQuoted gap x :: back) .select =
      earlier ++ part :: later)
    (hposition : part.position = front.length) (htokens : part.tokens = [u]) :
    ∃ s', SelectStatement.ofClause (front ++ Token.ofQuoted gap y :: back) = .ok s' ∧
      Statement.DifferIn part later (String.ofList x) (String.ofList y) (.select s)
        (.select s') := by
  have halike := alike_replace front back gap x y
  obtain ⟨start, hstart, hbins, hcondition⟩ := SelectStatement.ofClause_eq_ok_iff.1 h
  have hmem : part ∈ Clause.valueParts (front ++ Token.ofQuoted gap x :: back) .select := by
    rw [hparts]
    exact List.mem_append_right _ List.mem_cons_self
  unfold Clause.valueParts at hmem
  rw [hstart] at hmem
  dsimp only at hmem
  rcases hcondition with ⟨hnone, -, -⟩ | ⟨position, predicate, hwhere, htarget, hequality, hs⟩
  · rw [hnone] at hmem
    cases hmem
  · rw [hwhere] at hmem
    have htail : ∀ c : Clause, (c.tail (start + 1)).tail (position + 1) =
        c.tail (start + 1 + (position + 1)) := fun c => List.drop_drop
    rw [htail] at hequality
    obtain ⟨hlt, hplace, hvalue, hequality'⟩ :=
      condition_replace (y := y) hmem hposition htokens hequality
    have hvalueAt : (Statement.select s).valueAt? part.place = some (.str (String.ofList x)) := by
      simp only [hplace, Statement.valueAt?, hs, Option.map_some, hvalue]
    have hdiffer := Statement.differIn_withString (y := String.ofList y) hvalueAt
      (isKept_of_place_eq_condition hplace later)
    simp only [hplace, Statement.withString, hs, Option.map_some] at hdiffer
    have hrest := Clause.tail_alike halike (start + 1)
    refine ⟨{ s with predicate := some { predicate with value := .str (String.ofList y) } },
      SelectStatement.ofClause_eq_ok_iff.2 ⟨start, ?_, ?_, .inr ⟨position, _, ?_, ?_, ?_, rfl⟩⟩, ?_⟩
    · rwa [← Clause.keywordPositions_alike halike]
    · rwa [← Clause.slice_eq_of_le (t := Token.ofQuoted gap x) (by omega)]
    · rwa [← Clause.keywordPositions_alike hrest]
    · rwa [← Clause.singleWord?_alike (Clause.slice_alike hrest 0 position)]
    · rwa [htail]
    · exact hdiffer

theorem DeleteStatement.ofClause_replace {s : DeleteStatement}
    (h : DeleteStatement.ofClause (front ++ Token.ofQuoted gap x :: back) = .ok s)
    (hparts : Clause.valueParts (front ++ Token.ofQuoted gap x :: back) .delete =
      earlier ++ part :: later)
    (hposition : part.position = front.length) (htokens : part.tokens = [u]) :
    ∃ s', DeleteStatement.ofClause (front ++ Token.ofQuoted gap y :: back) = .ok s' ∧
      Statement.DifferIn part later (String.ofList x) (String.ofList y) (.delete s)
        (.delete s') := by
  have halike := alike_replace front back gap x y
  obtain ⟨hfrom, htarget, hwhere, hequality, -⟩ := DeleteStatement.ofClause_eq_ok_iff.1 h
  have hmem : part ∈ Clause.valueParts (front ++ Token.ofQuoted gap x :: back) .delete := by
    rw [hparts]
    exact List.mem_append_right _ List.mem_cons_self
  unfold Clause.valueParts at hmem
  rw [hwhere] at hmem
  obtain ⟨-, hplace, hvalue, hequality'⟩ :=
    condition_replace (y := y) hmem hposition htokens hequality
  have hvalueAt : (Statement.delete s).valueAt? part.place = some (.str (String.ofList x)) := by
    simp only [hplace, Statement.valueAt?, hvalue]
  have hdiffer := Statement.differIn_withString (y := String.ofList y) hvalueAt
    (isKept_of_place_eq_condition hplace later)
  rw [hplace] at hdiffer
  refine ⟨{ s with predicate.value := .str (String.ofList y) },
    DeleteStatement.ofClause_eq_ok_iff.2 ⟨?_, isTargetAt_replace htarget, ?_, hequality', rfl⟩,
    hdiffer⟩
  · rwa [← Clause.isKeywordAt_alike halike]
  · rwa [← Clause.keywordPositions_alike halike]

theorem UpdateStatement.ofClause_replace_of {s s' : UpdateStatement} {position : Nat}
    {assignments : SortedMap Assignment}
    (h : UpdateStatement.ofClause (front ++ Token.ofQuoted gap x :: back) = .ok s)
    (hwhere : Clause.keywordPositions (front ++ Token.ofQuoted gap x :: back) "WHERE" = [position])
    (htarget : s'.target = s.target)
    (hassignments : (Clause.slice (front ++ Token.ofQuoted gap y :: back) 3 position).assignments =
      .ok assignments)
    (hequality : (Clause.tail (front ++ Token.ofQuoted gap y :: back) (position + 1)).equality? =
      some s'.predicate)
    (hstring : s'.predicate.value.isString = true)
    (hkept : s'.assignments = assignments.filter fun bin _ => !isKeyColumn bin)
    (hsome : s'.assignments.isEmpty = false) :
    UpdateStatement.ofClause (front ++ Token.ofQuoted gap y :: back) = .ok s' := by
  have halike := alike_replace front back gap x y
  obtain ⟨htarget', hset, position', -, hwhere', hlt, -⟩ := UpdateStatement.ofClause_eq_ok_iff.1 h
  obtain rfl : position' = position := by
    rw [hwhere] at hwhere'
    exact (List.cons.inj hwhere').1.symm
  refine UpdateStatement.ofClause_eq_ok_iff.2 ⟨?_, ?_, position', assignments, ?_, hlt,
    hassignments, hequality, hstring, hkept, hsome⟩
  · rw [htarget]
    exact isTargetAt_replace htarget'
  · rwa [← Clause.keywordPositions_alike halike]
  · rwa [← Clause.keywordPositions_alike halike]

theorem UpdateStatement.ofClause_replace_condition {s : UpdateStatement} {position : Nat}
    (h : UpdateStatement.ofClause (front ++ Token.ofQuoted gap x :: back) = .ok s)
    (hwhere : Clause.keywordPositions (front ++ Token.ofQuoted gap x :: back) "WHERE" = [position])
    (hmem : part ∈ Clause.conditionPart (front ++ Token.ofQuoted gap x :: back) (position + 1))
    (hposition : part.position = front.length) (htokens : part.tokens = [u])
    (later : List ValuePart) :
    ∃ s', UpdateStatement.ofClause (front ++ Token.ofQuoted gap y :: back) = .ok s' ∧
      Statement.DifferIn part later (String.ofList x) (String.ofList y) (.update s)
        (.update s') := by
  obtain ⟨-, -, position', assignments, hwhere', -, hassignments, hequality, hstring, hkept,
    hsome⟩ := UpdateStatement.ofClause_eq_ok_iff.1 h
  obtain rfl : position' = position := by
    rw [hwhere] at hwhere'
    exact (List.cons.inj hwhere').1.symm
  obtain ⟨hafter, hplace, hvalue, hequality'⟩ :=
    condition_replace (y := y) hmem hposition htokens hequality
  have hvalueAt : (Statement.update s).valueAt? part.place = some (.str (String.ofList x)) := by
    simp only [hplace, Statement.valueAt?, hvalue]
  have hdiffer := Statement.differIn_withString (y := String.ofList y) hvalueAt
    (isKept_of_place_eq_condition hplace later)
  rw [hplace] at hdiffer
  have hassignments' : (Clause.slice (front ++ Token.ofQuoted gap y :: back) 3
      position').assignments = .ok assignments := by
    rwa [← Clause.slice_eq_of_le (t := Token.ofQuoted gap x) (by omega)]
  exact ⟨{ s with predicate.value := .str (String.ofList y) },
    UpdateStatement.ofClause_replace_of h hwhere rfl hassignments' hequality' rfl hkept hsome,
    hdiffer⟩

theorem filter_ofList_replace_dropped {before after : List (String × Assignment)} {bin : String}
    (h : isKeyColumn bin = true ∨ ∃ value, (bin, value) ∈ after) (value value' : Assignment) :
    (SortedMap.ofList (before ++ (bin, value) :: after)).filter (fun bin _ => !isKeyColumn bin) =
      (SortedMap.ofList (before ++ (bin, value') :: after)).filter
        fun bin _ => !isKeyColumn bin := by
  rcases h with hkey | ⟨later, hmem⟩
  · rw [SortedMap.filter_ofList, SortedMap.filter_ofList, List.filter_append, List.filter_append,
      List.filter_cons_of_neg (by simp [hkey]), List.filter_cons_of_neg (by simp [hkey])]
  · rw [SortedMap.ofList_replace_of_mem hmem]

theorem filter_ofList_replace_kept (before : List (String × Assignment))
    {after : List (String × Assignment)} {bin : String} (hkey : isKeyColumn bin = false)
    (hlast : ∀ value, (bin, value) ∉ after)
    (value value' : Assignment) :
    (SortedMap.ofList (before ++ (bin, value') :: after)).filter (fun bin _ => !isKeyColumn bin) =
      ((SortedMap.ofList (before ++ (bin, value) :: after)).filter
        fun bin _ => !isKeyColumn bin).insert bin value' := by
  rw [SortedMap.ofList_replace hlast before value, SortedMap.filter_insert, hkey]
  rfl

theorem get?_filter_ofList_kept {before after : List (String × Assignment)} {bin : String}
    (hkey : isKeyColumn bin = false) (hlast : ∀ value, (bin, value) ∉ after)
    (value : Assignment) :
    ((SortedMap.ofList (before ++ (bin, value) :: after)).filter
      fun bin _ => !isKeyColumn bin).get? bin = some value := by
  rw [SortedMap.get?_filter, SortedMap.get?_ofList_append_cons,
    SortedMap.lookup_reverse_eq_none hlast]
  simp [hkey, Option.filter]

/-- **A string in one assignment changes the update in this bin only**, and not at all if the bin is
the key column or assigned again. -/
theorem UpdateStatement.ofClause_replace_assigned {s : UpdateStatement} {position : Nat}
    (h : UpdateStatement.ofClause (front ++ Token.ofQuoted gap x :: back) = .ok s)
    (hwhere : Clause.keywordPositions (front ++ Token.ofQuoted gap x :: back) "WHERE" = [position])
    (hparts : (Clause.slice (front ++ Token.ofQuoted gap x :: back) 3 position).assignedParts 3 =
      earlier ++ part :: later)
    (hposition : part.position = front.length) (htokens : part.tokens = [u])
    {others : List ValuePart} (hothers : ∀ other ∈ others, other.place = .condition) :
    ∃ s', UpdateStatement.ofClause (front ++ Token.ofQuoted gap y :: back) = .ok s' ∧
      Statement.DifferIn part (later ++ others) (String.ofList x) (String.ofList y) (.update s)
        (.update s') := by
  obtain ⟨-, -, position', assignments, hwhere', -, hassignments, hequality, hstring, hkept,
    hsome⟩ := UpdateStatement.ofClause_eq_ok_iff.1 h
  obtain rfl : position' = position := by
    rw [hwhere] at hwhere'
    exact (List.cons.inj hwhere').1.symm
  obtain ⟨hbefore, before, bin, after, hplace, rfl, hassignments', hlater⟩ :=
    assignments_replace (y := y) hparts hposition htokens hassignments
  have hequality' : (Clause.tail (front ++ Token.ofQuoted gap y :: back)
      (position' + 1)).equality? = some s.predicate := by
    rwa [← Clause.tail_eq_of_lt (t := Token.ofQuoted gap x) (by omega)]
  by_cases hdropped : isKeyColumn bin = true ∨ ∃ value, (bin, value) ∈ after
  · refine ⟨s, UpdateStatement.ofClause_replace_of h hwhere rfl hassignments' hequality' hstring
      ?_ hsome, fun hpart => ?_, fun _ => rfl⟩
    · rw [hkept]
      exact filter_ofList_replace_dropped hdropped _ _
    · obtain ⟨hkey, hlast⟩ := hpart bin hplace
      rcases hdropped with hkey' | hmem
      · rw [hkey] at hkey'
        cases hkey'
      · obtain ⟨other, hother, hplace'⟩ := (hlater bin).2 hmem
        exact absurd hplace' (hlast other (List.mem_append_left _ hother))
  · have hkey : isKeyColumn bin = false :=
      Bool.of_not_eq_true fun hkey => hdropped (.inl hkey)
    have hlast : ∀ value, (bin, value) ∉ after := fun value hmem => hdropped (.inr ⟨value, hmem⟩)
    have hkept' := filter_ofList_replace_kept before hkey hlast
      ⟨.str (String.ofList x), String.ofList x⟩ ⟨.str (String.ofList y), String.ofList y⟩
    rw [← hkept] at hkept'
    have hvalueAt : (Statement.update s).valueAt? part.place = some (.str (String.ofList x)) := by
      simp only [hplace, Statement.valueAt?, hkept, get?_filter_ofList_kept hkey hlast,
        Option.map_some]
    have hpart : part.IsKept (later ++ others) := by
      intro bin' hplace'
      obtain rfl : bin = bin' := by
        rw [hplace] at hplace'
        exact ValuePlace.assigned.inj hplace'
      refine ⟨hkey, fun other hother hplace' => ?_⟩
      rcases List.mem_append.1 hother with hother | hother
      · obtain ⟨value, hmem⟩ := (hlater bin).1 ⟨other, hother, hplace'⟩
        exact hlast value hmem
      · rw [hothers other hother] at hplace'
        cases hplace'
    have hdiffer := Statement.differIn_withString (y := String.ofList y) hvalueAt hpart
    rw [hplace] at hdiffer
    exact ⟨{ s with
        assignments := s.assignments.insert bin ⟨.str (String.ofList y), String.ofList y⟩ },
      UpdateStatement.ofClause_replace_of h hwhere rfl hassignments' hequality' hstring hkept'.symm
        (SortedMap.isEmpty_insert _ _ _), hdiffer⟩

theorem UpdateStatement.ofClause_replace {s : UpdateStatement}
    (h : UpdateStatement.ofClause (front ++ Token.ofQuoted gap x :: back) = .ok s)
    (hparts : Clause.valueParts (front ++ Token.ofQuoted gap x :: back) .update =
      earlier ++ part :: later)
    (hposition : part.position = front.length) (htokens : part.tokens = [u]) :
    ∃ s', UpdateStatement.ofClause (front ++ Token.ofQuoted gap y :: back) = .ok s' ∧
      Statement.DifferIn part later (String.ofList x) (String.ofList y) (.update s)
        (.update s') := by
  obtain ⟨-, -, position, -, hwhere, -⟩ := UpdateStatement.ofClause_eq_ok_iff.1 h
  unfold Clause.valueParts at hparts
  rw [hwhere] at hparts
  dsimp only at hparts
  have hcondition : ∀ other ∈ Clause.conditionPart (front ++ Token.ofQuoted gap x :: back)
      (position + 1), other.place = .condition := by
    intro other hother
    obtain ⟨-, -, hplace, -⟩ := Clause.rightSide?_eq_some (Option.mem_toList.1 hother)
    exact hplace
  rcases List.append_eq_append_iff.1 hparts with ⟨middle, -, hmiddle⟩ | ⟨middle, hassigned, hmiddle⟩
  · refine UpdateStatement.ofClause_replace_condition h hwhere ?_ hposition htokens later
    rw [hmiddle]
    exact List.mem_append_right _ List.mem_cons_self
  · cases middle with
    | nil =>
      refine UpdateStatement.ofClause_replace_condition h hwhere ?_ hposition htokens later
      rw [List.nil_append] at hmiddle
      rw [← hmiddle]
      exact List.mem_cons_self
    | cons head middle =>
      obtain ⟨rfl, rfl⟩ := List.cons.inj hmiddle
      exact UpdateStatement.ofClause_replace_assigned h hwhere hassigned hposition htokens
        hcondition

theorem group?_replace_item {start stop : Nat} {list : Clause} {parts parts' : List Clause}
    (h : Clause.group? (front ++ Token.ofQuoted gap x :: back) start = some (list, stop))
    (hsplit : list.splitOn .comma = parts ++ [u] :: parts')
    (hposition : front.length = start + 1 + Clause.extent parts) :
    u = Token.ofQuoted gap x ∧ ∃ list',
      Clause.group? (front ++ Token.ofQuoted gap y :: back) start = some (list', stop) ∧
      list'.splitOn .comma = parts ++ [Token.ofQuoted gap y] :: parts' := by
  have hitem : Clause.splitFrom .comma 0 list = parts ++ ([] ++ u :: []) :: parts' := hsplit
  obtain ⟨before, after, rfl, hbefore, hreplace⟩ := Clause.splitFrom_replace hitem
  obtain ⟨groupFront, opening, closing, groupBack, hgroup, hgroupFront, -, hgroups⟩ :=
    Clause.group?_replace h
  have hclause : front ++ Token.ofQuoted gap x :: back =
      (groupFront ++ opening :: before) ++ u :: (after ++ closing :: groupBack) := by
    rw [hgroup]
    simp
  have hlength : front.length = (groupFront ++ opening :: before).length := by
    simp only [List.length_append, List.length_cons, List.length_nil] at hbefore ⊢
    omega
  obtain ⟨rfl, hrest⟩ := List.append_inj hclause hlength
  obtain ⟨rfl, rfl⟩ := List.cons.inj hrest
  refine ⟨rfl, before ++ Token.ofQuoted gap y :: after, ?_,
    hreplace (isFlat_ofQuoted gap x) _ (isFlat_ofQuoted gap y) nofun⟩
  have hreplaced := hgroups groupFront _ groupBack hgroupFront
    (alike_replace before after gap x y)
  have hclause' : (groupFront ++ opening :: before) ++
      Token.ofQuoted gap y :: (after ++ closing :: groupBack) =
      groupFront ++ opening :: ((before ++ Token.ofQuoted gap y :: after) ++
        closing :: groupBack) := by
    simp
  rw [hclause', hreplaced]

theorem values_replace {parts parts' : List Clause} {values : List Literal}
    (h : Clause.values (parts ++ [Token.ofQuoted gap x] :: parts') = .ok values) :
    ∃ before after, before.length = parts.length ∧
      values = before ++ .str (String.ofList x) :: after ∧
      Clause.values (parts ++ [Token.ofQuoted gap y] :: parts') =
        .ok (before ++ .str (String.ofList y) :: after) := by
  have hitem : ∀ body, (if (Clause.text [Token.ofQuoted gap body]).isEmpty then
        Except.error (SyntaxError.insertValue (Clause.name [Token.ofQuoted gap body]))
      else .ok (Literal.coerce (Clause.text [Token.ofQuoted gap body]))) =
        .ok (.str (String.ofList body)) := by
    intro body
    rw [coerce_text_ofQuoted, text_ofQuoted]
    rfl
  obtain ⟨before, value, after, hbefore, hvalue, hafter, rfl⟩ := mapM_append_cons_eq_ok_iff.1 h
  obtain rfl := Except.ok.inj ((hitem x).symm.trans hvalue)
  exact ⟨before, after, (mapM_eq_ok_iff.1 hbefore).length_eq.symm, rfl,
    mapM_append_cons_eq_ok_iff.2 ⟨before, _, after, hbefore, hitem y, hafter, rfl⟩⟩

/-- **A string in one value changes the insertion in this value only.** -/
theorem InsertStatement.ofClause_replace {s : InsertStatement}
    (h : InsertStatement.ofClause (front ++ Token.ofQuoted gap x :: back) = .ok s)
    (hparts : Clause.valueParts (front ++ Token.ofQuoted gap x :: back) .insert =
      earlier ++ part :: later)
    (hposition : part.position = front.length) (htokens : part.tokens = [u]) :
    ∃ s', InsertStatement.ofClause (front ++ Token.ofQuoted gap y :: back) = .ok s' ∧
      Statement.DifferIn part later (String.ofList x) (String.ofList y) (.insert s)
        (.insert s') := by
  have halike := alike_replace front back gap x y
  obtain ⟨hinto, htarget, columnList, position, valueList, hcolumnList, hkeyword, hvalueList,
    hcolumns, hcount, hvalues⟩ := InsertStatement.ofClause_eq_ok_iff.1 h
  unfold Clause.valueParts at hparts
  rw [hcolumnList] at hparts
  dsimp only at hparts
  rw [hvalueList] at hparts
  obtain ⟨before, r, hplaced, -, hr⟩ := List.mapIdx_eq_append_iff.1 hparts
  obtain ⟨⟨start, whole⟩, after, rfl, rfl, -⟩ := List.mapIdx_eq_cons_iff.1 hr
  obtain rfl : whole = [u] := htokens
  obtain rfl : start = front.length := hposition
  obtain ⟨parts, parts', hcomma, hstart, hlength, -⟩ := Clause.placed_eq_append_cons hplaced
  obtain ⟨rfl, valueList', hvalueList', hcomma'⟩ :=
    group?_replace_item (y := y) hvalueList hcomma (by omega)
  rw [hcomma] at hvalues hcount
  obtain ⟨values, values', hcountBefore, hs, hvalues'⟩ := values_replace (y := y) hvalues
  have hindex : 0 + before.length = values.length := by omega
  have hvalueAt : (Statement.insert s).valueAt? (.inserted (0 + before.length)) =
      some (.str (String.ofList x)) := by
    simp only [Statement.valueAt?, hs, hindex, List.getElem?_append_right (Nat.le_refl _),
      Nat.sub_self, List.getElem?_cons_zero]
  have hset : s.values.set (0 + before.length) (.str (String.ofList y)) =
      values ++ .str (String.ofList y) :: values' := by
    rw [hs, hindex, List.set_append_right _ _ (Nat.le_refl _), Nat.sub_self, List.set_cons_zero]
  refine ⟨{ s with values := values ++ .str (String.ofList y) :: values' },
    InsertStatement.ofClause_eq_ok_iff.2 ⟨?_, isTargetAt_replace htarget, columnList, position,
      valueList', Clause.group?_eq_of_le hcolumnList (by omega) _, ?_, ?_, hcolumns, ?_, ?_⟩, ?_⟩
  · rwa [← Clause.isKeywordAt_alike halike]
  · rwa [← Clause.isKeywordAt_alike halike]
  · rw [hvalueList', halike.length_eq]
  · rw [hcomma']
    simpa using hcount
  · rw [hcomma', hvalues']
  · rw [← hset]
    exact Statement.differIn_withString hvalueAt fun _ hassigned => by cases hassigned

/-! ## Statements -/

theorem Statement.ofClause_replace {command : Command} {s : Statement}
    (h : Statement.ofClause command (front ++ Token.ofQuoted gap x :: back) = .ok s)
    (hparts : Clause.valueParts (front ++ Token.ofQuoted gap x :: back) command =
      earlier ++ part :: later)
    (hposition : part.position = front.length) (htokens : part.tokens = [u]) :
    ∃ s', Statement.ofClause command (front ++ Token.ofQuoted gap y :: back) = .ok s' ∧
      Statement.DifferIn part later (String.ofList x) (String.ofList y) s s' := by
  cases command with
  | select =>
    obtain ⟨s, hs, rfl⟩ := map_eq_ok_iff.1 h
    obtain ⟨s', hs', hdiffer⟩ := SelectStatement.ofClause_replace hs hparts hposition htokens
    exact ⟨.select s', map_eq_ok_iff.2 ⟨s', hs', rfl⟩, hdiffer⟩
  | insert =>
    obtain ⟨s, hs, rfl⟩ := map_eq_ok_iff.1 h
    obtain ⟨s', hs', hdiffer⟩ := InsertStatement.ofClause_replace hs hparts hposition htokens
    exact ⟨.insert s', map_eq_ok_iff.2 ⟨s', hs', rfl⟩, hdiffer⟩
  | delete =>
    obtain ⟨s, hs, rfl⟩ := map_eq_ok_iff.1 h
    obtain ⟨s', hs', hdiffer⟩ := DeleteStatement.ofClause_replace hs hparts hposition htokens
    exact ⟨.delete s', map_eq_ok_iff.2 ⟨s', hs', rfl⟩, hdiffer⟩
  | update =>
    obtain ⟨s, hs, rfl⟩ := map_eq_ok_iff.1 h
    obtain ⟨s', hs', hdiffer⟩ := UpdateStatement.ofClause_replace hs hparts hposition htokens
    exact ⟨.update s', map_eq_ok_iff.2 ⟨s', hs', rfl⟩, hdiffer⟩

end RecordQuery
