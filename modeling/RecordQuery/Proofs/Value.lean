import Mathlib.Algebra.Ring.Int.Defs
import RecordQuery.Value

/-!
# Values and JSON

A value goes to JSON and back as it is, up to what JSON has no form for: a blob comes back as the
list of its bytes, and a double that is not finite as the absent value. JSON goes to a value and back
as it is, up to integers beyond the 64-bit words.

* `IsPart`: what stands in a tree at any depth. `Value.IsPartOf`, `Json.IsPartOf`: the parts of values
  and of JSON values, which are trees by `Value.children` and `Json.children`.
* `Value.mapLeaves`: a value with other leaves. `Value.mapLeaves_eq_self_iff`: what it leaves alone.
* `Value.ofJson_toJson`, `Value.toJson_ofJson_iff`: the two ways round.
-/

namespace RecordQuery

/-! ## Trees -/

/-- Whether a tree stands in another one at any depth, or is that tree itself. -/
inductive IsPart {α : Type} (children : α → List α) (part : α) : α → Prop
  | self : IsPart children part part
  | child {whole child : α} (mem_children : child ∈ children whole)
    (isPart_child : IsPart children part child) : IsPart children part whole

theorem isPart_iff {α : Type} {children : α → List α} {part whole : α} :
    IsPart children part whole ↔
      part = whole ∨ ∃ child ∈ children whole, IsPart children part child := by
  constructor
  · intro h
    cases h with
    | self => exact .inl rfl
    | child hmem hpart => exact .inr ⟨_, hmem, hpart⟩
  · rintro (rfl | ⟨child, hmem, hpart⟩)
    · exact .self
    · exact .child hmem hpart

theorem forall_isPart_iff {α β : Type} {children : α → List α} {whole : α} {g : β → α}
    {p : β → Prop} :
    (∀ b, IsPart children (g b) whole → p b) ↔
      (∀ b, g b = whole → p b) ∧
        ∀ child ∈ children whole, ∀ b, IsPart children (g b) child → p b := by
  constructor
  · intro h
    exact ⟨fun b hb => h b (hb ▸ .self), fun child hmem b hpart => h b (.child hmem hpart)⟩
  · intro ⟨hwhole, hchildren⟩ b hpart
    obtain hb | ⟨child, hmem, hpart⟩ := isPart_iff.1 hpart
    · exact hwhole b hb
    · exact hchildren child hmem b hpart

theorem map_eq_self_iff {α : Type} {f : α → α} {l : List α} :
    l.map f = l ↔ ∀ x ∈ l, f x = x := by
  simpa using List.map_inj_left (f := f) (g := id) (l := l)

theorem map_members_eq_self_iff {α : Type} {f : α → α} {members : List (String × α)} :
    members.map (fun m => (m.1, f m.2)) = members ↔ ∀ x ∈ members.map Prod.snd, f x = x := by
  rw [map_eq_self_iff, List.forall_mem_map]
  simp [Prod.ext_iff]

/-! ## JSON values as trees -/

namespace Json

def children : Json → List Json
  | array items => items
  | object members => members.map Prod.snd
  | _ => []

abbrev IsPartOf (part json : Json) : Prop :=
  IsPart children part json

section Induction

variable {motive : Json → Prop}

mutual

@[elab_as_elim]
theorem children_induction
    (step : ∀ json, (∀ child ∈ children json, motive child) → motive json) :
    ∀ json, motive json
  | null => step _ nofun
  | bool _ => step _ nofun
  | int _ => step _ nofun
  | float _ => step _ nofun
  | string _ => step _ nofun
  | array items => step _ (items_induction step items)
  | object members => step _ (members_induction step members)

theorem items_induction
    (step : ∀ json, (∀ child ∈ children json, motive child) → motive json) :
    ∀ items : List Json, ∀ item ∈ items, motive item
  | [] => nofun
  | item :: items =>
    List.forall_mem_cons.2 ⟨children_induction step item, items_induction step items⟩

theorem members_induction
    (step : ∀ json, (∀ child ∈ children json, motive child) → motive json) :
    ∀ members : List (String × Json), ∀ child ∈ members.map Prod.snd, motive child
  | [] => nofun
  | (_, value) :: members =>
    List.forall_mem_cons.2 ⟨children_induction step value, members_induction step members⟩

end

end Induction

end Json

/-! ## Values as trees -/

namespace Value

def children : Value → List Value
  | list items => items
  | map members => members.map Prod.snd
  | _ => []

abbrev IsPartOf (part value : Value) : Prop :=
  IsPart children part value

def isLeaf : Value → Bool
  | list _ => false
  | map _ => false
  | _ => true

section Induction

variable {motive : Value → Prop}

mutual

@[elab_as_elim]
theorem children_induction
    (step : ∀ value, (∀ child ∈ children value, motive child) → motive value) :
    ∀ value, motive value
  | str _ => step _ nofun
  | int _ => step _ nofun
  | float _ => step _ nofun
  | bool _ => step _ nofun
  | blob _ => step _ nofun
  | list items => step _ (items_induction step items)
  | map members => step _ (members_induction step members)
  | nil => step _ nofun

theorem items_induction
    (step : ∀ value, (∀ child ∈ children value, motive child) → motive value) :
    ∀ items : List Value, ∀ item ∈ items, motive item
  | [] => nofun
  | item :: items =>
    List.forall_mem_cons.2 ⟨children_induction step item, items_induction step items⟩

theorem members_induction
    (step : ∀ value, (∀ child ∈ children value, motive child) → motive value) :
    ∀ members : List (String × Value), ∀ child ∈ members.map Prod.snd, motive child
  | [] => nofun
  | (_, value) :: members =>
    List.forall_mem_cons.2 ⟨children_induction step value, members_induction step members⟩

end

end Induction

/-! ## Leaves -/

mutual

/-- A value with another one in the place of each of its leaves. -/
def mapLeaves (f : Value → Value) : Value → Value
  | list items => list (mapLeavesItems f items)
  | map members => map (mapLeavesMembers f members)
  | leaf => f leaf

def mapLeavesItems (f : Value → Value) : List Value → List Value
  | [] => []
  | item :: items => mapLeaves f item :: mapLeavesItems f items

def mapLeavesMembers (f : Value → Value) : List (String × Value) → List (String × Value)
  | [] => []
  | (name, value) :: members => (name, mapLeaves f value) :: mapLeavesMembers f members

end

variable {f : Value → Value}

theorem mapLeavesItems_eq (items : List Value) :
    mapLeavesItems f items = items.map (mapLeaves f) := by
  induction items with
  | nil => rfl
  | cons item items ih => rw [mapLeavesItems, ih, List.map_cons]

theorem mapLeavesMembers_eq (members : List (String × Value)) :
    mapLeavesMembers f members = members.map fun m => (m.1, mapLeaves f m.2) := by
  induction members with
  | nil => rfl
  | cons member members ih => rw [mapLeavesMembers, ih, List.map_cons]

theorem mapLeaves_of_isLeaf {leaf : Value} (h : leaf.isLeaf = true) : mapLeaves f leaf = f leaf := by
  cases leaf with
  | list items => cases h
  | map members => cases h
  | _ => rfl

theorem mapLeaves_eq_self_iff (value : Value) :
    mapLeaves f value = value ↔
      ∀ part : Value, part.IsPartOf value → part.isLeaf = true → f part = part := by
  induction value using children_induction with
  | step value ih =>
    rw [forall_isPart_iff (g := fun part => part), ← forall₂_congr ih, forall_eq]
    cases value with
    | list items =>
      rw [mapLeaves, mapLeavesItems_eq, list.injEq, map_eq_self_iff]
      exact (and_iff_right nofun).symm
    | map members =>
      rw [mapLeaves, mapLeavesMembers_eq, map.injEq, map_members_eq_self_iff]
      exact (and_iff_right nofun).symm
    | _ =>
      rw [mapLeaves_of_isLeaf rfl]
      exact ⟨fun h => ⟨fun _ => h, nofun⟩, fun h => h.1 rfl⟩

/-! ## JSON and back -/

/-- What comes back of a leaf that goes to JSON: the bytes of a blob are listed, and a double that is
not finite is lost. -/
def fromJsonForm : Value → Value
  | blob bytes => list (bytes.map fun byte => int (Int64.ofNat byte.toNat))
  | float number => if Binary64.isFinite number = true then float number else nil
  | leaf => leaf

theorem ofJsonItems_eq (items : List Json) : ofJsonItems items = items.map ofJson := by
  induction items with
  | nil => rfl
  | cons item items ih => rw [ofJsonItems, ih, List.map_cons]

theorem ofJsonMembers_eq (members : List (String × Json)) :
    ofJsonMembers members = members.map fun m => (m.1, ofJson m.2) := by
  induction members with
  | nil => rfl
  | cons member members ih => rw [ofJsonMembers, ih, List.map_cons]

theorem toJsonItems_eq (items : List Value) : toJsonItems items = items.map toJson := by
  induction items with
  | nil => rfl
  | cons item items ih => rw [toJsonItems, ih, List.map_cons]

theorem toJsonMembers_eq (members : List (String × Value)) :
    toJsonMembers members = members.map fun m => (m.1, toJson m.2) := by
  induction members with
  | nil => rfl
  | cons member members ih => rw [toJsonMembers, ih, List.map_cons]

/-- Whether an integer is in the range of the 64-bit words. -/
def IsWord (n : Int) : Prop :=
  -2 ^ 63 ≤ n ∧ n < 2 ^ 63

instance (n : Int) : Decidable (IsWord n) :=
  inferInstanceAs (Decidable (_ ∧ _))

theorem ofInt_of_isWord {n : Int} (h : IsWord n) : ofInt n = int (Int64.ofInt n) := by
  obtain ⟨hleast, hgreatest⟩ := h
  have hrange : Int64.minValue.toInt ≤ n ∧ n ≤ Int64.maxValue.toInt := by
    rw [Int64.toInt_minValue, Int64.toInt_maxValue]
    omega
  rw [ofInt, Number.toInt64?, if_pos hrange]

theorem ofInt_of_not_isWord {n : Int} (h : ¬ IsWord n) : ofInt n = float (Binary64.ofInt n) := by
  have hrange : ¬ (Int64.minValue.toInt ≤ n ∧ n ≤ Int64.maxValue.toInt) := by
    rw [Int64.toInt_minValue, Int64.toInt_maxValue]
    unfold IsWord at h
    omega
  rw [ofInt, Number.toInt64?, if_neg hrange]

theorem toJson_ofInt_iff {n : Int} : toJson (ofInt n) = .int n ↔ IsWord n := by
  by_cases h : IsWord n
  · have hbounds : -2 ^ 63 ≤ n ∧ n < 2 ^ 63 := h
    rw [ofInt_of_isWord h, toJson, Int64.toInt_ofInt_of_le (by omega) (by omega)]
    exact iff_of_true rfl h
  · rw [ofInt_of_not_isWord h, toJson]
    refine iff_of_false (fun heq => ?_) h
    split at heq
    · cases heq
    · cases heq

/-- **What comes back of a value**: the value with the form that JSON has for each of its leaves. -/
theorem ofJson_toJson (value : Value) : ofJson value.toJson = value.mapLeaves fromJsonForm := by
  induction value using children_induction with
  | step value ih =>
    cases value with
    | list items =>
      rw [toJson, toJsonItems_eq, ofJson, ofJsonItems_eq, List.map_map, mapLeaves, mapLeavesItems_eq,
        list.injEq]
      exact List.map_congr_left ih
    | map members =>
      rw [toJson, toJsonMembers_eq, ofJson, ofJsonMembers_eq, List.map_map, mapLeaves,
        mapLeavesMembers_eq, map.injEq]
      refine List.map_congr_left fun member hmem => ?_
      exact congrArg (Prod.mk member.1) (ih member.2 (List.mem_map_of_mem hmem))
    | int number =>
      have hword : IsWord number.toInt := ⟨number.le_toInt, number.toInt_lt⟩
      rw [toJson, ofJson, ofInt_of_isWord hword, Int64.ofInt_toInt]
      rfl
    | blob bytes =>
      rw [toJson, ofJson, ofJsonItems_eq, List.map_map, mapLeaves_of_isLeaf rfl, fromJsonForm,
        list.injEq]
      refine List.map_congr_left fun byte _ => ?_
      have hword : IsWord byte.toNat := by
        have hlt := byte.toNat_lt
        unfold IsWord
        omega
      exact ofInt_of_isWord hword
    | float number =>
      rw [toJson, mapLeaves_of_isLeaf rfl, fromJsonForm]
      split
      · rfl
      · rfl
    | _ => rfl

theorem ofJson_toJson_eq_self_iff (value : Value) :
    ofJson value.toJson = value ↔
      (∀ bytes, ¬ (blob bytes).IsPartOf value) ∧
        ∀ number, (float number).IsPartOf value → Binary64.isFinite number = true := by
  rw [ofJson_toJson, mapLeaves_eq_self_iff]
  constructor
  · intro h
    refine ⟨fun bytes hpart => ?_, fun number hpart => ?_⟩
    · have hblob := h _ hpart rfl
      cases hblob
    · have hfloat := h _ hpart rfl
      cases hnumber : Binary64.isFinite number with
      | true => rfl
      | false =>
        rw [fromJsonForm, hnumber, if_neg Bool.false_ne_true] at hfloat
        cases hfloat
  · intro ⟨hblob, hfloat⟩ part hpart hleaf
    cases part with
    | list items => cases hleaf
    | map members => cases hleaf
    | blob bytes => exact absurd hpart (hblob bytes)
    | float number => rw [fromJsonForm, if_pos (hfloat number hpart)]
    | _ => rfl

/-- **What goes to a value and back**, among the JSON values whose numbers are finite: those whose
integers are words. -/
theorem toJson_ofJson_iff {json : Json}
    (hfinite : ∀ number, (Json.float number).IsPartOf json → Binary64.isFinite number = true) :
    toJson (ofJson json) = json ↔ ∀ n, (Json.int n).IsPartOf json → IsWord n := by
  induction json using Json.children_induction with
  | step json ih =>
    rw [forall_isPart_iff] at hfinite ⊢
    obtain ⟨hfinite, hchildren⟩ := hfinite
    rw [← forall₂_congr fun child hmem => ih child hmem (hchildren child hmem)]
    cases json with
    | array items =>
      rw [ofJson, ofJsonItems_eq, toJson, toJsonItems_eq, List.map_map, Json.array.injEq,
        map_eq_self_iff]
      exact (and_iff_right nofun).symm
    | object members =>
      rw [ofJson, ofJsonMembers_eq, toJson, toJsonMembers_eq, List.map_map, Json.object.injEq]
      refine (map_members_eq_self_iff (f := fun value => toJson (ofJson value))).trans ?_
      exact (and_iff_right nofun).symm
    | int n =>
      rw [ofJson, toJson_ofInt_iff]
      refine ⟨fun hword => ⟨fun m hm => ?_, nofun⟩, fun h => h.1 n rfl⟩
      obtain rfl := Json.int.inj hm
      exact hword
    | float number =>
      rw [ofJson, toJson, if_pos (hfinite number rfl)]
      exact iff_of_true rfl ⟨nofun, nofun⟩
    | _ => exact iff_of_true rfl ⟨nofun, nofun⟩

/-- **Values and JSON go both ways.** A value comes back from JSON with each blob in it replaced by
the list of its bytes and each double that is not finite by the absent value, at every depth. So it is
the same value exactly if it has neither in it. JSON whose numbers are finite comes back from a value
as it is exactly if all integers in it are words. -/
theorem json_both_ways :
    (∀ value : Value,
      ofJson value.toJson = value.mapLeaves fromJsonForm ∧
        (ofJson value.toJson = value ↔
          (∀ bytes, ¬ (blob bytes).IsPartOf value) ∧
            ∀ number, (float number).IsPartOf value → Binary64.isFinite number = true)) ∧
    ∀ json : Json,
      (∀ number, (Json.float number).IsPartOf json → Binary64.isFinite number = true) →
        (toJson (ofJson json) = json ↔ ∀ n, (Json.int n).IsPartOf json → IsWord n) :=
  ⟨fun value => ⟨ofJson_toJson value, ofJson_toJson_eq_self_iff value⟩,
    fun _ hfinite => toJson_ofJson_iff hfinite⟩

/-- A double, and the least word one level below it. -/
theorem json_both_ways_nested :
    let json := Json.object [("a", .float 1.5), ("b", .array [.int (-2 ^ 63)])]
    (∀ number, (Json.float number).IsPartOf json → Binary64.isFinite number = true) ∧
      toJson (ofJson json) = json := by
  intro json
  have hfinite : ∀ number, (Json.float number).IsPartOf json → Binary64.isFinite number = true := by
    refine forall_isPart_iff.2 ⟨nofun, List.forall_mem_cons.2 ⟨?_, List.forall_mem_singleton.2 ?_⟩⟩
    · refine forall_isPart_iff.2 ⟨?_, nofun⟩
      rintro number ⟨rfl⟩
      decide +kernel
    · refine forall_isPart_iff.2 ⟨nofun, List.forall_mem_singleton.2 ?_⟩
      exact forall_isPart_iff.2 ⟨nofun, nofun⟩
  refine ⟨hfinite, (json_both_ways.2 json hfinite).2 ?_⟩
  refine forall_isPart_iff.2 ⟨nofun, List.forall_mem_cons.2 ⟨?_, List.forall_mem_singleton.2 ?_⟩⟩
  · exact forall_isPart_iff.2 ⟨nofun, nofun⟩
  · refine forall_isPart_iff.2 ⟨nofun, List.forall_mem_singleton.2 ?_⟩
    refine forall_isPart_iff.2 ⟨?_, nofun⟩
    rintro n ⟨rfl⟩
    decide

end Value

end RecordQuery
