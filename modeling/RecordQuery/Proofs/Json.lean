import RecordQuery.Json.Reader
import RecordQuery.Proofs.SortedMap

/-!
# Objects in order

The members of an object ascend by their names, at every depth. So each name stands once, and a
path of names leads to one value at most.

* `Json.IsOrdered`: the JSON values in that form.
* `Json.at?`: what a path leads to. `Json.IsOrdered.mem_members_iff`: its steps are the listed
  members.
* `Json.isOrdered_of_read?`: all that is read is in that form.
-/

namespace RecordQuery.Json

/-- Whether the members of every object in a JSON value ascend by their names. -/
inductive IsOrdered : Json → Prop
  | null : IsOrdered null
  | bool (value : Bool) : IsOrdered (bool value)
  | int (value : Int) : IsOrdered (int value)
  | float (value : Float) : IsOrdered (float value)
  | string (value : String) : IsOrdered (string value)
  | array {items : List Json} (items_ordered : ∀ item ∈ items, IsOrdered item) :
    IsOrdered (array items)
  | object {members : List (String × Json)} (ascending : members.Pairwise fun a b => a.1 < b.1)
    (members_ordered : ∀ member ∈ members, IsOrdered member.2) : IsOrdered (object members)

def isObject : Json → Bool
  | object _ => true
  | _ => false

def members : Json → List (String × Json)
  | object members => members
  | _ => []

/-- What a path of names leads to, from an object to one of its members each time. -/
def at? : List String → Json → Option Json
  | [], json => some json
  | name :: path, json => (json.member? name).bind (at? path)

namespace IsOrdered

variable {json : Json}

theorem pairwise_members (h : json.IsOrdered) : json.members.Pairwise fun a b => a.1 < b.1 := by
  cases h with
  | object ascending _ => exact ascending
  | _ => exact .nil

theorem of_mem_members (h : json.IsOrdered) {name : String} {value : Json}
    (hmem : (name, value) ∈ json.members) : value.IsOrdered := by
  cases h with
  | object _ members_ordered => exact members_ordered _ hmem
  | _ => cases hmem

theorem mem_members_iff (h : json.IsOrdered) {name : String} {value : Json} :
    (name, value) ∈ json.members ↔ json.member? name = some value := by
  cases h with
  | @object members ascending _ => exact SortedMap.mem_entries_iff ⟨members, ascending⟩
  | _ => exact ⟨nofun, nofun⟩

end IsOrdered

/-! ## Reading -/

theorem isOrdered_objectOfList {members : List (String × Json)}
    (h : ∀ member ∈ members, member.2.IsOrdered) : (objectOfList members).IsOrdered := by
  refine .object (SortedMap.ofList members).sorted ?_
  rintro ⟨name, value⟩ hmem
  exact h _ (SortedMap.mem_of_get?_ofList ((SortedMap.mem_entries_iff _).1 hmem))

theorem isOrdered_of_readNumber? {text rest : List Char} {value : Json}
    (h : readNumber? text = some (value, rest)) : value.IsOrdered := by
  have hunsigned : ∀ {negative text}, readUnsigned? negative text = some (value, rest) →
      value.IsOrdered := by
    intro negative text h
    simp only [readUnsigned?, Option.bind_eq_bind] at h
    split at h
    · cases h
    · simp only [Option.bind_eq_some_iff] at h
      obtain ⟨_, -, _, -, number, hnumber, heq⟩ := h
      cases heq
      simp only [number?] at hnumber
      split at hnumber
      · cases hnumber
        exact .int _
      · obtain ⟨_, -, rfl⟩ := Option.map_eq_some_iff.1 hnumber
        exact .float _
  unfold readNumber? at h
  split at h
  · exact hunsigned h
  · exact hunsigned h

/-- Whether the readers of a value, of items and of members find what is in order only. -/
structure ReadsOrdered (fuel : Nat) : Prop where
  value : ∀ {depth text value rest}, readValue? depth fuel text = some (value, rest) →
    value.IsOrdered
  items : ∀ {depth text items rest}, readItems? depth fuel text = some (items, rest) →
    ∀ item ∈ items, item.IsOrdered
  members : ∀ {depth text members rest}, readMembers? depth fuel text = some (members, rest) →
    ∀ member ∈ members, member.2.IsOrdered

namespace ReadsOrdered

variable {fuel depth : Nat} {text rest : List Char}

theorem value_succ (h : ReadsOrdered fuel) {value : Json}
    (hread : readValue? depth (fuel + 1) text = some (value, rest)) : value.IsOrdered := by
  unfold readValue? at hread
  split at hread
  · obtain ⟨_, -, ⟨⟩⟩ := Option.map_eq_some_iff.1 hread
    exact .null
  · obtain ⟨_, -, ⟨⟩⟩ := Option.map_eq_some_iff.1 hread
    exact .bool _
  · obtain ⟨_, -, ⟨⟩⟩ := Option.map_eq_some_iff.1 hread
    exact .bool _
  · obtain ⟨_, -, ⟨⟩⟩ := Option.map_eq_some_iff.1 hread
    exact .string _
  · split at hread
    · cases hread
    · split at hread
      · cases hread
        exact .array nofun
      · obtain ⟨_, hitems, ⟨⟩⟩ := Option.map_eq_some_iff.1 hread
        exact .array (h.items hitems)
  · split at hread
    · cases hread
    · split at hread
      · cases hread
        exact .object .nil nofun
      · obtain ⟨_, hmembers, ⟨⟩⟩ := Option.map_eq_some_iff.1 hread
        exact isOrdered_objectOfList (h.members hmembers)
  · exact isOrdered_of_readNumber? hread

theorem items_succ (h : ReadsOrdered fuel) {items : List Json}
    (hread : readItems? depth (fuel + 1) text = some (items, rest)) :
    ∀ item ∈ items, item.IsOrdered := by
  simp only [readItems?, Option.bind_eq_bind, Option.bind_eq_some_iff] at hread
  obtain ⟨⟨item, _⟩, hvalue, hread⟩ := hread
  have hitem := h.value hvalue
  dsimp only at hread
  split at hread
  · obtain ⟨_, hitems, ⟨⟩⟩ := Option.map_eq_some_iff.1 hread
    exact List.forall_mem_cons.2 ⟨hitem, h.items hitems⟩
  · cases hread
    exact List.forall_mem_singleton.2 hitem
  · cases hread

theorem members_succ (h : ReadsOrdered fuel) {members : List (String × Json)}
    (hread : readMembers? depth (fuel + 1) text = some (members, rest)) :
    ∀ member ∈ members, member.2.IsOrdered := by
  simp only [readMembers?, Option.bind_eq_bind, Option.bind_eq_some_iff] at hread
  obtain ⟨_, -, ⟨name, _⟩, -, _, -, ⟨value, _⟩, hvalue, hread⟩ := hread
  have hmember : (name, value).2.IsOrdered := h.value hvalue
  dsimp only at hread
  split at hread
  · obtain ⟨_, hmembers, ⟨⟩⟩ := Option.map_eq_some_iff.1 hread
    exact List.forall_mem_cons.2 ⟨hmember, h.members hmembers⟩
  · cases hread
    exact List.forall_mem_singleton.2 hmember
  · cases hread

end ReadsOrdered

theorem readsOrdered (fuel : Nat) : ReadsOrdered fuel := by
  induction fuel with
  | zero => exact ⟨nofun, nofun, nofun⟩
  | succ fuel ih => exact ⟨ih.value_succ, ih.items_succ, ih.members_succ⟩

/-- **All that is read is in order**, however the members of an object stand in the text. -/
theorem isOrdered_of_read? {text : List Char} {value : Json} (h : read? text = some value) :
    value.IsOrdered := by
  simp only [read?, Option.bind_eq_bind, Option.bind_eq_some_iff] at h
  obtain ⟨_, hread, h⟩ := h
  split at h
  · cases h
    exact (readsOrdered _).value hread
  · cases h

end RecordQuery.Json
