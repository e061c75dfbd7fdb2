import SqlAssembly.Numeric.BinaryFloat

/-!
# JSON documents

The documents that scalars and values are exchanged in. A number keeps the kind in which it was
written: a whole number that fits into 64 bits stays exact, anything else is a double. So `-0`,
which no integer can tell from zero, is a double too.
-/

namespace SqlAssembly

open Numeric

namespace Json

inductive Number where
  /-- A whole number without a minus. -/
  | whole (n : UInt64)
  /-- A whole number below zero. -/
  | below (n : Int64)
  /-- Any other number. -/
  | real (x : Double)
deriving DecidableEq

namespace Number

/-- The number as a 64-bit integer, if it is one. A double is none, whatever its value. -/
def toInt64? : Number → Option Int64
  | .whole n => if n.toNat ≤ Int64.maxValue.toInt then some (Int64.ofNat n.toNat) else none
  | .below n => some n
  | .real _ => none

/-- The number as a double, rounded to nearest if it is a whole number. Every number has one. -/
def toDouble? : Number → Option Double
  | .whole n => some (.ofInt .double n.toNat)
  | .below n => some (.ofInt .double n.toInt)
  | .real x => some x

def ofInt64 (n : Int64) : Number :=
  if n < 0 then .below n else .whole (UInt64.ofNat n.toInt.toNat)

end Number

end Json

/-- A JSON document. An object keeps its fields in written order. -/
inductive Json where
  | null
  | bool (b : Bool)
  | number (n : Json.Number)
  | text (s : String)
  | array (items : List Json)
  | object (fields : List (String × Json))

end SqlAssembly
