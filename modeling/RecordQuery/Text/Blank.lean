/-!
# Blanks

* `isBlank`: the characters of the Unicode property `White_Space`.
* `trimStart`, `trimEnd`, `trim`: a text without the blanks at its ends.
-/

namespace RecordQuery.Text

/-- A character that separates words: one with the Unicode property `White_Space`. -/
def isBlank (c : Char) : Bool :=
  let n := c.toNat
  n == 0x20 || (0x09 ≤ n && n ≤ 0x0D) || n == 0x85 || n == 0xA0 || n == 0x1680 ||
    (0x2000 ≤ n && n ≤ 0x200A) || n == 0x2028 || n == 0x2029 || n == 0x202F || n == 0x205F ||
    n == 0x3000

/-- Of the twenty-five members, eight are in Latin-1 and fifteen in the general punctuation. -/
example :
    ((List.range 0x100).countP fun n => isBlank (Char.ofNat n)) = 8 ∧
    ((List.range 0x70).countP fun n => isBlank (Char.ofNat (0x2000 + n))) = 15 := by
  decide +kernel

/-- The text from its first character that is not blank. -/
def trimStart (text : List Char) : List Char :=
  text.dropWhile isBlank

/-- The text up to its last character that is not blank. -/
def trimEnd : List Char → List Char
  | [] => []
  | c :: rest =>
    match trimEnd rest with
    | [] => if isBlank c then [] else [c]
    | d :: kept => c :: d :: kept

/-- The text without the blanks at its two ends. -/
def trim (text : List Char) : List Char :=
  trimEnd (trimStart text)

def allBlank (text : List Char) : Bool :=
  text.all isBlank

/-! ## Trimming -/

@[simp] theorem trimEnd_nil : trimEnd [] = [] := rfl

theorem exists_trimEnd_append (text : List Char) :
    ∃ cut, text = trimEnd text ++ cut ∧ ∀ c ∈ cut, isBlank c = true := by
  induction text with
  | nil => exact ⟨[], rfl, by simp⟩
  | cons c rest ih =>
    obtain ⟨cut, hrest, hcut⟩ := ih
    simp only [trimEnd]
    split
    next hnil =>
      rw [hnil, List.nil_append] at hrest
      by_cases hc : isBlank c = true
      · exact ⟨c :: cut, by simp [hc, hrest], by simpa [hc] using hcut⟩
      · exact ⟨cut, by simp [hc, hrest], hcut⟩
    next d kept hkept =>
      exact ⟨cut, by rw [hrest, hkept]; rfl, hcut⟩

theorem exists_append_trimStart (text : List Char) :
    ∃ cut, text = cut ++ trimStart text ∧ ∀ c ∈ cut, isBlank c = true :=
  ⟨text.takeWhile isBlank, (List.takeWhile_append_dropWhile ..).symm,
    List.all_eq_true.1 List.all_takeWhile⟩

end RecordQuery.Text
