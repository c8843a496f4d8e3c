/-!
# Maps in key order

`SortedMap α` maps names to values. Its entries are a strictly ascending list, so listing a map
needs no sorting and two maps with the same look-ups are equal (`SortedMap.ext`).

* `get?`, `insert`, `erase`: one entry.
* `mapValues`, `filter`, `ofList`, `insertMany`: all entries.
* `keys`, `values`, `size`: what is listed, in ascending order of names.

Names are ordered by their code points, which is also the order of their UTF-8 bytes.
-/

namespace RecordQuery

/-- A finite map from names to values, as its list of entries in ascending order of names. -/
structure SortedMap (α : Type) where
  entries : List (String × α)
  sorted : entries.Pairwise fun a b => a.1 < b.1
deriving DecidableEq

namespace SortedMap

variable {α β : Type}

/-! ## Entry lists -/

theorem lookup_cons (name : String) (head : String × α) (rest : List (String × α)) :
    (head :: rest).lookup name = if head.1 = name then some head.2 else rest.lookup name := by
  obtain ⟨key, value⟩ := head
  rw [List.lookup_cons]
  by_cases h : key = name
  · simp [h]
  · simp [h, beq_false_of_ne (Ne.symm h)]

/-- A list of entries with one entry put in its place; an entry of the same name is replaced. -/
def insertEntry (name : String) (value : α) : List (String × α) → List (String × α)
  | [] => [(name, value)]
  | (key, old) :: rest =>
    if name < key then (name, value) :: (key, old) :: rest
    else if key = name then (name, value) :: rest
    else (key, old) :: insertEntry name value rest

theorem mem_insertEntry {name : String} {value : α} {e : String × α} {l : List (String × α)}
    (h : e ∈ insertEntry name value l) : e = (name, value) ∨ e ∈ l := by
  induction l with
  | nil => simpa [insertEntry] using h
  | cons head rest ih =>
    obtain ⟨key, old⟩ := head
    simp only [insertEntry] at h
    split at h
    · simpa using h
    · split at h
      · rcases List.mem_cons.1 h with rfl | h
        · exact .inl rfl
        · exact .inr (List.mem_cons_of_mem _ h)
      · rcases List.mem_cons.1 h with rfl | h
        · exact .inr List.mem_cons_self
        · exact (ih h).imp_right (List.mem_cons_of_mem _)

theorem lt_of_not_lt_of_ne {a b : String} (h : ¬ a < b) (hne : b ≠ a) : b < a := by
  rcases Std.lt_trichotomy a b with h' | h' | h'
  · exact absurd h' h
  · exact absurd h'.symm hne
  · exact h'

theorem pairwise_insertEntry (name : String) (value : α) {l : List (String × α)}
    (h : l.Pairwise fun a b => a.1 < b.1) :
    (insertEntry name value l).Pairwise fun a b => a.1 < b.1 := by
  induction l with
  | nil => simp [insertEntry]
  | cons head rest ih =>
    obtain ⟨key, old⟩ := head
    obtain ⟨hhead, hrest⟩ := List.pairwise_cons.1 h
    simp only [insertEntry]
    split
    next hlt =>
      refine List.pairwise_cons.2 ⟨fun e he => ?_, h⟩
      rcases List.mem_cons.1 he with rfl | he
      · exact hlt
      · exact String.lt_trans hlt (hhead e he)
    next hlt =>
      split
      next heq =>
        subst heq
        exact List.pairwise_cons.2 ⟨hhead, hrest⟩
      next hne =>
        refine List.pairwise_cons.2 ⟨fun e he => ?_, ih hrest⟩
        rcases mem_insertEntry he with rfl | he
        · exact lt_of_not_lt_of_ne hlt hne
        · exact hhead e he

theorem lookup_insertEntry (name other : String) (value : α) (l : List (String × α)) :
    (insertEntry name value l).lookup other =
      if name = other then some value else l.lookup other := by
  induction l with
  | nil => simp [insertEntry, lookup_cons]
  | cons head rest ih =>
    obtain ⟨key, old⟩ := head
    simp only [insertEntry]
    split
    · simp [lookup_cons]
    · split
      next heq => subst heq; simp only [lookup_cons]; split <;> simp_all
      next hne =>
        simp only [lookup_cons, ih]
        split
        next hkey => subst hkey; simp [Ne.symm hne]
        next => rfl

theorem lookup_eq_none_of_lt {name : String} {l : List (String × α)} (h : ∀ e ∈ l, name < e.1) :
    l.lookup name = none :=
  List.lookup_eq_none_iff.2 fun e he =>
    bne_iff_ne.2 fun heq => String.lt_irrefl _ (heq ▸ h e he)

/-! ## Operations -/

def empty : SortedMap α := ⟨[], List.Pairwise.nil⟩

instance : EmptyCollection (SortedMap α) := ⟨empty⟩
instance : Inhabited (SortedMap α) := ⟨empty⟩

/-- The value of a name. -/
def get? (m : SortedMap α) (name : String) : Option α :=
  m.entries.lookup name

def contains (m : SortedMap α) (name : String) : Bool :=
  (m.get? name).isSome

def insert (m : SortedMap α) (name : String) (value : α) : SortedMap α :=
  ⟨insertEntry name value m.entries, pairwise_insertEntry name value m.sorted⟩

def filter (m : SortedMap α) (keep : String → α → Bool) : SortedMap α :=
  ⟨m.entries.filter fun e => keep e.1 e.2, m.sorted.filter _⟩

def erase (m : SortedMap α) (name : String) : SortedMap α :=
  m.filter fun key _ => key ≠ name

def mapValues (m : SortedMap α) (f : String → α → β) : SortedMap β :=
  ⟨m.entries.map fun e => (e.1, f e.1 e.2), List.pairwise_map.2 m.sorted⟩

/-- The map with entries added from left to right. -/
def insertMany (m : SortedMap α) (entries : List (String × α)) : SortedMap α :=
  entries.foldl (fun m e => m.insert e.1 e.2) m

/-- The map of a list of entries, in which the last value of a name counts. -/
def ofList (entries : List (String × α)) : SortedMap α :=
  empty.insertMany entries

def keys (m : SortedMap α) : List String :=
  m.entries.map Prod.fst

def values (m : SortedMap α) : List α :=
  m.entries.map Prod.snd

def size (m : SortedMap α) : Nat :=
  m.entries.length

def isEmpty (m : SortedMap α) : Bool :=
  m.entries.isEmpty

/-! ## Look-ups -/

@[simp] theorem get?_empty (name : String) : (empty : SortedMap α).get? name = none := rfl

theorem get?_insert (m : SortedMap α) (name other : String) (value : α) :
    (m.insert name value).get? other = if name = other then some value else m.get? other :=
  lookup_insertEntry ..

@[simp] theorem get?_insert_self (m : SortedMap α) (name : String) (value : α) :
    (m.insert name value).get? name = some value := by
  simp [get?_insert]

theorem mem_entries_iff (m : SortedMap α) {name : String} {value : α} :
    (name, value) ∈ m.entries ↔ m.get? name = some value := by
  obtain ⟨l, h⟩ := m
  simp only [get?]
  induction l with
  | nil => simp
  | cons head rest ih =>
    obtain ⟨key, old⟩ := head
    obtain ⟨hhead, hrest⟩ := List.pairwise_cons.1 h
    simp only [List.mem_cons, Prod.mk.injEq, lookup_cons]
    split
    next heq =>
      subst heq
      constructor
      · rintro (⟨-, rfl⟩ | hmem)
        · rfl
        · exact absurd (hhead _ hmem) (String.lt_irrefl _)
      · rintro ⟨rfl⟩
        exact .inl ⟨rfl, rfl⟩
    next hne =>
      rw [← ih hrest]
      exact ⟨fun h => h.resolve_left fun h' => hne h'.1.symm, .inr⟩

theorem get?_filter (m : SortedMap α) (keep : String → α → Bool) (name : String) :
    (m.filter keep).get? name = (m.get? name).filter (keep name) := by
  apply Option.ext
  intro value
  rw [← mem_entries_iff, Option.filter_eq_some_iff, ← mem_entries_iff, filter, List.mem_filter]

theorem get?_erase (m : SortedMap α) (name other : String) :
    (m.erase name).get? other = if name = other then none else m.get? other := by
  rw [erase, get?_filter]
  cases h : m.get? other with
  | none => simp
  | some value =>
    by_cases hne : name = other
    · simp [hne, Option.filter]
    · simp [hne, Ne.symm hne, Option.filter]

theorem get?_mapValues (m : SortedMap α) (f : String → α → β) (name : String) :
    (m.mapValues f).get? name = (m.get? name).map (f name) := by
  obtain ⟨l, h⟩ := m
  simp only [mapValues, get?]
  clear h
  induction l with
  | nil => rfl
  | cons head rest ih =>
    simp only [List.map_cons, lookup_cons, ih]
    split
    next heq => subst heq; rfl
    next => rfl

/-- **Two maps with the same look-ups are equal.** -/
theorem ext {m m' : SortedMap α} (h : ∀ name, m.get? name = m'.get? name) : m = m' := by
  obtain ⟨l, hl⟩ := m
  obtain ⟨l', hl'⟩ := m'
  simp only [SortedMap.mk.injEq]
  simp only [get?] at h
  induction l generalizing l' with
  | nil =>
    cases l' with
    | nil => rfl
    | cons head rest => have := h head.1; simp [lookup_cons] at this
  | cons head rest ih =>
    cases l' with
    | nil => have := h head.1; simp [lookup_cons] at this
    | cons head' rest' =>
      obtain ⟨key, value⟩ := head
      obtain ⟨key', value'⟩ := head'
      obtain ⟨hhead, hrest⟩ := List.pairwise_cons.1 hl
      obtain ⟨hhead', hrest'⟩ := List.pairwise_cons.1 hl'
      have hkey : key = key' := by
        rcases Std.lt_trichotomy key key' with hlt | heq | hgt
        · have hk := h key
          rw [lookup_eq_none_of_lt (l := (key', value') :: rest')] at hk
          · simp at hk
          · intro e he
            rcases List.mem_cons.1 he with rfl | he
            · exact hlt
            · exact String.lt_trans hlt (hhead' e he)
        · exact heq
        · have hk := h key'
          rw [lookup_eq_none_of_lt (l := (key, value) :: rest)] at hk
          · simp at hk
          · intro e he
            rcases List.mem_cons.1 he with rfl | he
            · exact hgt
            · exact String.lt_trans hgt (hhead e he)
      subst hkey
      have hvalue : value = value' := by simpa [lookup_cons] using h key
      subst hvalue
      congr 1
      refine ih hrest rest' hrest' fun name => ?_
      by_cases hname : key = name
      · subst hname
        rw [lookup_eq_none_of_lt hhead, lookup_eq_none_of_lt hhead']
      · simpa [lookup_cons, hname] using h name

end SortedMap

end RecordQuery
