import RecordQuery.Executor

/-!
# Key supply

A record that is inserted without a key gets one that is drawn from a supply. A drawn key is used up,
whether the record is stored under it or not.

* `KeySupply.next`: the key that is drawn next.
* `KeySupply.ofStream`: the keys of a stream, as a source of random keys yields them.
-/

namespace RecordQuery

/-- The key with a number, in the form of a random UUID. -/
def numberedKey (number : Nat) : String :=
  let digits := Nat.toDigits 10 number
  String.ofList
    ("00000000-0000-4000-8000-".toList ++ List.replicate (12 - digits.length) '0' ++ digits)

/-- A supply of keys. Which key comes next may depend in any way on how many keys were drawn and
stored and on how many were drawn and lost. Unless another rule is given, the records are numbered. -/
structure KeySupply where
  draw : Nat → Nat → String := fun stored _ => numberedKey (stored + 1)
  stored : Nat := 0
  lost : Nat := 0

namespace KeySupply

def ofStream (keys : Nat → String) : KeySupply :=
  { draw := fun stored lost => keys (stored + lost) }

def next (supply : KeySupply) : String :=
  supply.draw supply.stored supply.lost

/-- The supply after its next key was drawn, which may have been stored. -/
def after (supply : KeySupply) (isStored : Bool) : KeySupply :=
  if isStored then { supply with stored := supply.stored + 1 }
  else { supply with lost := supply.lost + 1 }

end KeySupply

end RecordQuery
