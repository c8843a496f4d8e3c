import RecordQuery.Proofs.Outcome

/-!
# Texts by bytes

Places in a text are counted in bytes of its UTF-8 form. A place can lie beyond the end or inside a
character, so what takes a text by places can go wrong.

* `byteLength_append`: the bytes of two texts one after the other.
* `IsBoundary`: whether a place lies between two characters or at an end.
* `Panic`, `Checked`: what can go wrong, and what may.
* `cutBytes`, `fromByte`, `sliceBytes`: the text around a place, after a place and between places.
* `exists_sliceBytes_iff`: a text can be taken exactly between two boundaries in order.
-/

namespace RecordQuery

variable {text before after piece : List Char} {place start stop : Nat}

/-! ## Lengths -/

@[simp] theorem byteLength_nil : byteLength [] = 0 := rfl

@[simp] theorem byteLength_cons (c : Char) (text : List Char) :
    byteLength (c :: text) = c.utf8Size + byteLength text := rfl

@[simp] theorem byteLength_append (before after : List Char) :
    byteLength (before ++ after) = byteLength before + byteLength after := by
  induction before with
  | nil => rw [List.nil_append, byteLength_nil, Nat.zero_add]
  | cons c before ih => rw [List.cons_append, byteLength_cons, byteLength_cons, ih, Nat.add_assoc]

theorem byteLength_pos (h : text ≠ []) : 0 < byteLength text := by
  obtain ⟨c, rest, rfl⟩ := List.exists_cons_of_ne_nil h
  have hc := Char.utf8Size_pos c
  rw [byteLength_cons]
  omega

theorem eq_nil_of_byteLength (h : byteLength text = 0) : text = [] :=
  Classical.byContradiction fun hne => Nat.ne_of_gt (byteLength_pos hne) h

theorem eq_append_of_byteLength_le {before' after' : List Char}
    (h : before ++ after = before' ++ after') (hle : byteLength before ≤ byteLength before') :
    ∃ piece, before' = before ++ piece ∧ after = piece ++ after' := by
  obtain ⟨piece, hbefore, hafter⟩ | ⟨piece, rfl, rfl⟩ := List.append_eq_append_iff.1 h
  · exact ⟨piece, hbefore, hafter⟩
  · obtain rfl : piece = [] := by
      apply eq_nil_of_byteLength
      rw [byteLength_append] at hle
      omega
    exact ⟨[], by simp, rfl⟩

/-- Whether a place lies between two characters of a text or at one of its ends. -/
def IsBoundary (text : List Char) (place : Nat) : Prop :=
  ∃ before after, text = before ++ after ∧ byteLength before = place

/-! ## Cuts -/

/-- What ends a reading by places at once. -/
inductive Panic where
  /-- A place beyond the end, or an end before its start. -/
  | range
  /-- A place inside a character. -/
  | boundary
  /-- A count below zero. -/
  | underflow
deriving DecidableEq, Repr

abbrev Checked (α : Type) : Type := Except Panic α

/-- The text before a place and after it. -/
def cutBytes : Nat → List Char → Checked (List Char × List Char)
  | 0, text => .ok ([], text)
  | _ + 1, [] => .error .range
  | place + 1, c :: rest =>
    if c.utf8Size ≤ place + 1 then
      (cutBytes (place + 1 - c.utf8Size) rest).map fun (before, after) => (c :: before, after)
    else .error .boundary

def fromByte (text : List Char) (place : Nat) : Checked (List Char) :=
  (cutBytes place text).map Prod.snd

def sliceBytes (text : List Char) (start stop : Nat) : Checked (List Char) :=
  if stop < start then .error .range
  else do
    let (_, rest) ← cutBytes start text
    let (piece, _) ← cutBytes (stop - start) rest
    return piece

theorem cutBytes_byteLength (before after : List Char) :
    cutBytes (byteLength before) (before ++ after) = .ok (before, after) := by
  induction before with
  | nil => rw [byteLength_nil, List.nil_append, cutBytes]
  | cons c before ih =>
    obtain ⟨place, hplace⟩ := Nat.exists_eq_succ_of_ne_zero (Nat.ne_of_gt (Char.utf8Size_pos c))
    have hlength : byteLength (c :: before) = place + byteLength before + 1 := by
      rw [byteLength_cons, hplace]
      omega
    have hrest : place + byteLength before + 1 - c.utf8Size = byteLength before := by omega
    rw [hlength, List.cons_append, cutBytes, if_pos (by omega), hrest, ih]
    rfl

theorem cutBytes_eq_ok_iff :
    cutBytes place text = .ok (before, after) ↔
      text = before ++ after ∧ byteLength before = place := by
  constructor
  · intro h
    induction text generalizing place before with
    | nil =>
      cases place with
      | zero => cases h; exact ⟨rfl, rfl⟩
      | succ place => cases h
    | cons c rest ih =>
      cases place with
      | zero => cases h; exact ⟨rfl, rfl⟩
      | succ place =>
        rw [cutBytes] at h
        split at h
        next hfits =>
          obtain ⟨⟨before', after'⟩, hrest, hparts⟩ := map_eq_ok_iff.1 h
          obtain ⟨rfl, rfl⟩ := Prod.mk.inj hparts
          obtain ⟨rfl, hlength⟩ := ih hrest
          refine ⟨rfl, ?_⟩
          rw [byteLength_cons]
          omega
        next => cases h
  · rintro ⟨rfl, rfl⟩
    exact cutBytes_byteLength before after

theorem fromByte_byteLength (before after : List Char) :
    fromByte (before ++ after) (byteLength before) = .ok after := by
  rw [fromByte, cutBytes_byteLength]
  rfl

theorem eq_append_of_fromByte (h : fromByte text place = .ok after) :
    ∃ before, text = before ++ after ∧ byteLength before = place := by
  obtain ⟨⟨before, after⟩, hcut, rfl⟩ := map_eq_ok_iff.1 h
  exact ⟨before, cutBytes_eq_ok_iff.1 hcut⟩

theorem sliceBytes_eq_ok_iff :
    sliceBytes text start stop = .ok piece ↔
      ∃ before after, text = before ++ piece ++ after ∧ byteLength before = start ∧
        byteLength (before ++ piece) = stop := by
  unfold sliceBytes
  constructor
  · intro h
    split at h
    next => cases h
    next hle =>
      obtain ⟨⟨before, rest⟩, hcut, h⟩ := bind_eq_ok_iff.1 h
      obtain ⟨⟨piece', after⟩, hpiece, h⟩ := bind_eq_ok_iff.1 h
      obtain rfl : piece' = piece := Except.ok.inj h
      obtain ⟨rfl, rfl⟩ := cutBytes_eq_ok_iff.1 hcut
      obtain ⟨rfl, hlength⟩ := cutBytes_eq_ok_iff.1 hpiece
      refine ⟨before, after, (List.append_assoc ..).symm, rfl, ?_⟩
      rw [byteLength_append]
      omega
  · rintro ⟨before, after, rfl, rfl, rfl⟩
    have hle : ¬byteLength (before ++ piece) < byteLength before := by
      rw [byteLength_append]
      omega
    have hrest : byteLength (before ++ piece) - byteLength before = byteLength piece := by
      rw [byteLength_append]
      omega
    rw [if_neg hle, hrest, List.append_assoc, cutBytes_byteLength, ok_bind]
    dsimp only
    rw [cutBytes_byteLength, ok_bind]
    rfl

theorem exists_sliceBytes_iff :
    (∃ piece, sliceBytes text start stop = .ok piece) ↔
      start ≤ stop ∧ IsBoundary text start ∧ IsBoundary text stop := by
  constructor
  · rintro ⟨piece, h⟩
    obtain ⟨before, after, rfl, rfl, rfl⟩ := sliceBytes_eq_ok_iff.1 h
    refine ⟨?_, ⟨before, piece ++ after, List.append_assoc .., rfl⟩, ⟨_, after, rfl, rfl⟩⟩
    rw [byteLength_append]
    omega
  · rintro ⟨hle, ⟨before, after, rfl, rfl⟩, before', after', happend, rfl⟩
    obtain ⟨piece, rfl, rfl⟩ := eq_append_of_byteLength_le happend hle
    exact ⟨piece, sliceBytes_eq_ok_iff.2 ⟨before, after', by simp, rfl, rfl⟩⟩

/-- A place inside a character is no boundary. -/
example : sliceBytes ['a', 'é'] 0 2 = .error .boundary ∧ sliceBytes ['a', 'é'] 1 3 = .ok ['é'] ∧
    sliceBytes ['a', 'é'] 0 4 = .error .range := ⟨rfl, rfl, rfl⟩

end RecordQuery
