import RecordQuery.Statement

/-!
# Records

A record has an address, bins, a generation that counts its writes, and a time to live.

* `Record.written`: a record after one more write.
* `Record.project`: a record with some of its bins.
-/

namespace RecordQuery

structure Record where
  key : RecordKey
  bins : Bins
  /-- The number of writes since the record came to be. -/
  generation : UInt32
  /-- Seconds to live; without it the record lives forever. -/
  ttl : Option UInt32

/-- Bins after a write: a written bin replaces the one of its name, and the absent value removes
it. -/
def Bins.merge (bins written : Bins) : Bins :=
  written.entries.foldl
    (fun bins e => if e.2.isNil then bins.erase e.1 else bins.insert e.1 e.2) bins

namespace Record

/-- The seconds to live as a store reports them: `-1` for a record that lives forever. -/
def ttlSeconds (record : Record) : Int64 :=
  match record.ttl with
  | some seconds => Int64.ofNat seconds.toNat
  | none => -1

/-- The record under a key after a write, given the record before it. -/
def written (key : RecordKey) (bins : Bins) (ttl : Option UInt32) : Option Record → Record
  | none => { key, bins := Bins.merge .empty bins, generation := 1, ttl }
  | some record =>
    { record with
      bins := Bins.merge record.bins bins
      generation := record.generation + 1
      ttl }

/-- The record with only the listed bins, if bins are listed. -/
def project (record : Record) : Option (List String) → Record
  | none => record
  | some names => { record with bins := record.bins.filter fun name _ => names.contains name }

end Record

end RecordQuery
