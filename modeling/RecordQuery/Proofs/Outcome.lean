import RecordQuery.Statement.Grammar
import Mathlib.Data.List.Forall2

/-!
# Outcomes of readers

* `bind_eq_ok_iff`, `map_eq_ok_iff`, `mapM_eq_ok_iff`: what has succeeded before a reader succeeds.
* `Agree`: two outcomes are both successes or both failures, with related contents.
-/

namespace RecordQuery

variable {α β ε : Type} {R : α → α → Prop} {S : β → β → Prop}

/-! ## Success -/

theorem ok_bind (x : α) (f : α → Except ε β) : (Except.ok x >>= f) = f x := rfl

theorem bind_eq_ok_iff {a : Except ε α} {f : α → Except ε β} {y : β} :
    (a >>= f) = .ok y ↔ ∃ x, a = .ok x ∧ f x = .ok y := by
  constructor
  · intro h
    cases a with
    | ok x => exact ⟨x, rfl, h⟩
    | error e => cases h
  · rintro ⟨x, rfl, h⟩
    exact h

theorem map_eq_ok_iff {a : Except ε α} {f : α → β} {y : β} :
    a.map f = .ok y ↔ ∃ x, a = .ok x ∧ f x = y := by
  constructor
  · intro h
    cases a with
    | ok x => exact ⟨x, rfl, Except.ok.inj h⟩
    | error e => cases h
  · rintro ⟨x, rfl, rfl⟩
    rfl

theorem mapError_eq_ok_iff {δ : Type} {a : Except ε α} {f : ε → δ} {x : α} :
    a.mapError f = .ok x ↔ a = .ok x := by
  constructor
  · intro h
    cases a with
    | ok y => exact congrArg Except.ok (Except.ok.inj h)
    | error e => cases h
  · rintro rfl
    rfl

theorem mapM_eq_ok_iff {f : α → Except ε β} {l : List α} {l' : List β} :
    l.mapM f = .ok l' ↔ List.Forall₂ (fun x y => f x = .ok y) l l' := by
  induction l generalizing l' with
  | nil =>
    rw [List.mapM_nil, List.forall₂_nil_left_iff]
    exact ⟨fun h => (Except.ok.inj h).symm, fun h => h ▸ rfl⟩
  | cons x l ih =>
    rw [List.mapM_cons, bind_eq_ok_iff]
    constructor
    · rintro ⟨y, hy, hl⟩
      obtain ⟨ys, hys, hpure⟩ := bind_eq_ok_iff.1 hl
      obtain rfl := Except.ok.inj hpure
      exact .cons hy (ih.1 hys)
    · rintro (_ | ⟨hy, hl⟩)
      exact ⟨_, hy, bind_eq_ok_iff.2 ⟨_, ih.2 hl, rfl⟩⟩

theorem exists_of_mem_forall₂ {Q : α → β → Prop} {l : List α} {l' : List β}
    (h : List.Forall₂ Q l l') {x : α} (hx : x ∈ l) : ∃ y ∈ l', Q x y := by
  induction h with
  | nil => cases hx
  | cons hfirst _ ih =>
    obtain rfl | hx := List.mem_cons.1 hx
    · exact ⟨_, List.mem_cons_self, hfirst⟩
    · obtain ⟨y, hy, hxy⟩ := ih hx
      exact ⟨y, List.mem_cons_of_mem _ hy, hxy⟩

theorem exists_of_mem_mapM {f : α → Except ε β} {l : List α} {l' : List β}
    (h : l.mapM f = .ok l') {y : β} (hy : y ∈ l') : ∃ x ∈ l, f x = .ok y :=
  exists_of_mem_forall₂ (mapM_eq_ok_iff.1 h).flip hy

theorem mapM_append_cons_eq_ok_iff {f : α → Except ε β} {before after : List α} {x : α}
    {l : List β} :
    (before ++ x :: after).mapM f = .ok l ↔
      ∃ ys y zs, before.mapM f = .ok ys ∧ f x = .ok y ∧ after.mapM f = .ok zs ∧
        l = ys ++ y :: zs := by
  rw [List.mapM_append, List.mapM_cons]
  constructor
  · intro h
    obtain ⟨ys, hys, h⟩ := bind_eq_ok_iff.1 h
    obtain ⟨tail, htail, h⟩ := bind_eq_ok_iff.1 h
    obtain ⟨y, hy, htail⟩ := bind_eq_ok_iff.1 htail
    obtain ⟨zs, hzs, htail⟩ := bind_eq_ok_iff.1 htail
    cases h
    cases htail
    exact ⟨ys, y, zs, hys, hy, hzs, rfl⟩
  · rintro ⟨ys, y, zs, hys, hy, hzs, rfl⟩
    rw [hys, hy, hzs]
    rfl

theorem SyntaxError.orElse_eq_ok_iff {e : SyntaxError} {a : Option α} {x : α} :
    e.orElse a = .ok x ↔ a = some x := by
  constructor
  · intro h
    cases a with
    | none => cases h
    | some y => exact congrArg some (Except.ok.inj h)
  · rintro rfl
    rfl

theorem SyntaxError.unless_eq_ok_iff {e : SyntaxError} {condition : Bool} {u : Unit} :
    e.unless condition = .ok u ↔ condition = true := by
  constructor
  · intro h
    cases condition with
    | false => cases h
    | true => rfl
  · rintro rfl
    rfl

/-! ## Agreement -/

/-- Whether two outcomes are both successes, with related results, or both failures, with related
errors. -/
def Agree (errors : ε → ε → Prop) (results : α → α → Prop) : Except ε α → Except ε α → Prop
  | .ok a, .ok a' => results a a'
  | .error e, .error e' => errors e e'
  | _, _ => False

section Agree

variable {E : ε → ε → Prop} {a a' : Except ε α}

theorem agree_iff :
    Agree E R a a' ↔ (∃ x x', a = .ok x ∧ a' = .ok x' ∧ R x x') ∨
      ∃ e e', a = .error e ∧ a' = .error e' ∧ E e e' := by
  constructor
  · intro h
    cases a with
    | ok x =>
      cases a' with
      | ok x' => exact .inl ⟨x, x', rfl, rfl, h⟩
      | error e' => exact absurd h id
    | error e =>
      cases a' with
      | ok x' => exact absurd h id
      | error e' => exact .inr ⟨e, e', rfl, rfl, h⟩
  · rintro (⟨x, x', rfl, rfl, h⟩ | ⟨e, e', rfl, rfl, h⟩)
    · exact h
    · exact h

theorem Agree.bind {f f' : α → Except ε β} (h : Agree E R a a')
    (hf : ∀ x x', R x x' → Agree E S (f x) (f' x')) : Agree E S (a >>= f) (a' >>= f') := by
  rcases agree_iff.1 h with ⟨x, x', rfl, rfl, hx⟩ | ⟨e, e', rfl, rfl, he⟩
  · exact hf x x' hx
  · exact he

theorem Agree.map {f f' : α → β} (h : Agree E R a a') (hf : ∀ x x', R x x' → S (f x) (f' x')) :
    Agree E S (a.map f) (a'.map f') := by
  rcases agree_iff.1 h with ⟨x, x', rfl, rfl, hx⟩ | ⟨e, e', rfl, rfl, he⟩
  · exact hf x x' hx
  · exact he

theorem Agree.mono {Q : α → α → Prop} (h : Agree E R a a') (hf : ∀ x x', R x x' → Q x x') :
    Agree E Q a a' := by
  rcases agree_iff.1 h with ⟨x, x', rfl, rfl, hx⟩ | ⟨e, e', rfl, rfl, he⟩
  · exact hf x x' hx
  · exact he

theorem Agree.mapError {δ : Type} {D : δ → δ → Prop} {f f' : ε → δ} (h : Agree E R a a')
    (hf : ∀ e e', E e e' → D (f e) (f' e')) : Agree D R (a.mapError f) (a'.mapError f') := by
  rcases agree_iff.1 h with ⟨x, x', rfl, rfl, hx⟩ | ⟨e, e', rfl, rfl, he⟩
  · exact hx
  · exact hf e e' he

theorem Agree.and_eq_ok (h : Agree E R a a') :
    Agree E (fun x x' => R x x' ∧ a = .ok x ∧ a' = .ok x') a a' := by
  rcases agree_iff.1 h with ⟨x, x', rfl, rfl, hx⟩ | ⟨e, e', rfl, rfl, he⟩
  · exact ⟨hx, rfl, rfl⟩
  · exact he

end Agree

/-- Two outcomes of the grammar agree whatever their errors say. -/
abbrev AgreeOn (results : α → α → Prop) : Except SyntaxError α → Except SyntaxError α → Prop :=
  Agree (fun _ _ => True) results

theorem agreeOn_refl (a : Except SyntaxError α) : AgreeOn Eq a a := by
  cases a with
  | ok x => rfl
  | error e => trivial

theorem agreeOn_bind (a : Except SyntaxError α) {f f' : α → Except SyntaxError β}
    (hf : ∀ x, AgreeOn S (f x) (f' x)) : AgreeOn S (a >>= f) (a >>= f') :=
  (agreeOn_refl a).bind fun x _ hx => hx ▸ hf x

theorem agreeOn_orElse (e : SyntaxError) {a a' : Option α} (h : Option.Rel R a a') :
    AgreeOn R (e.orElse a) (e.orElse a') := by
  cases h with
  | none => trivial
  | some hx => exact hx

theorem agreeOn_mapM {γ : Type} {Q : γ → γ → Prop} {f : γ → Except SyntaxError α}
    {l l' : List γ} (h : List.Forall₂ Q l l') (hf : ∀ c c', Q c c' → AgreeOn R (f c) (f c')) :
    AgreeOn (List.Forall₂ R) (l.mapM f) (l'.mapM f) := by
  induction h with
  | nil => exact List.Forall₂.nil
  | cons hc _ ih =>
    rw [List.mapM_cons, List.mapM_cons]
    refine (hf _ _ hc).bind fun x x' hx => ?_
    refine ih.bind fun xs xs' hxs => ?_
    exact List.Forall₂.cons hx hxs

theorem isSome_mapM {γ : Type} {Q : γ → γ → Prop} {f : γ → Option α} {l l' : List γ}
    (h : List.Forall₂ Q l l') (hf : ∀ c c', Q c c' → (f c).isSome = (f c').isSome) :
    (l.mapM f).isSome = (l'.mapM f).isSome := by
  induction h with
  | nil => rfl
  | @cons c c' l l' hc _ ih =>
    have hhead := hf c c' hc
    rw [List.mapM_cons, List.mapM_cons]
    cases hx : f c <;> cases hx' : f c' <;> cases hxs : l.mapM f <;> cases hxs' : l'.mapM f <;>
      simp_all

end RecordQuery
