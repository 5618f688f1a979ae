import SourceAtlas.Decimal

/-! Values of the JSON data format. A number keeps how it was written: digits, power of ten, sign,
and whether it had neither a fraction nor an exponent, because a count is only read from a number
written as a whole one. -/
namespace SourceAtlas

/-- A JSON number. -/
structure JsonNumber where
  negative : Bool
  value : Decimal
  whole : Bool
deriving Repr, DecidableEq

namespace JsonNumber

/-- The whole number `n`. -/
def ofNat (n : Nat) : JsonNumber :=
  ⟨false, ⟨n, 0⟩, true⟩

/-- The whole number `n`. -/
def ofInt (n : Int) : JsonNumber :=
  ⟨n < 0, ⟨n.natAbs, 0⟩, true⟩

/-- A finite double with the fewest digits that read back. -/
def ofFloat (x : Float) : JsonNumber :=
  ⟨x.toBits.toNat / Nat.pow 2 63 == 1, Decimal.ofFloat x, false⟩

/-- The nearest double; a negative zero stays negative. -/
def toFloat (n : JsonNumber) : Float :=
  if n.negative then -n.value.toFloat else n.value.toFloat

/-- The number as a count below `bound`; a minus sign, a fraction or an exponent rules it out. -/
def toNat? (bound : Nat) (n : JsonNumber) : Option Nat :=
  if n.whole && !n.negative && n.value.exponent == 0 && n.value.digits < bound then
    some n.value.digits
  else none

/-- The written form. -/
def text (n : JsonNumber) : String :=
  (if n.negative then "-" else "") ++
    if n.whole && n.value.exponent == 0 then Nat.repr n.value.digits else n.value.text

end JsonNumber

/-- A JSON value. The fields of an object keep their order. -/
inductive Json where
  | null
  | bool (value : Bool)
  | number (value : JsonNumber)
  | string (value : String)
  | array (items : List Json)
  | object (fields : List (String × Json))
deriving Repr, Inhabited

namespace Json

/-- The field of an object. -/
def get? (key : String) : Json → Option Json
  | object fields => fields.lookup key
  | _ => none

/-- The items of an array. -/
def items? : Json → Option (List Json)
  | array items => some items
  | _ => none

/-- The text of a string. -/
def text? : Json → Option String
  | string value => some value
  | _ => none

/-- The value of a truth value. -/
def bool? : Json → Option Bool
  | bool value => some value
  | _ => none

/-- The value of a number. -/
def number? : Json → Option JsonNumber
  | number value => some value
  | _ => none

/-- A count that fits `bits` bits. -/
def nat? (bits : Nat) (json : Json) : Option Nat :=
  json.number?.bind (JsonNumber.toNat? (Nat.pow 2 bits))

/-- The number `n`. -/
def ofNat (n : Nat) : Json :=
  number (JsonNumber.ofNat n)

/-- The number `n`. -/
def ofInt (n : Int) : Json :=
  number (JsonNumber.ofInt n)

/-- A double, or null when it is not finite. -/
def ofFloat (x : Float) : Json :=
  if x.isFinite then number (JsonNumber.ofFloat x) else null

/-- A text, or null when there is none. -/
def ofText? : Option String → Json
  | some value => string value
  | none => null

mutual

/-- The value with the fields of every object in the order of their keys. -/
def sortKeys : Json → Json
  | array items => array (sortItems items)
  | object fields => object ((sortFields fields).mergeSort fun a b => decide (a.1 ≤ b.1))
  | value => value

/-- The items, each with its keys in order. -/
def sortItems : List Json → List Json
  | [] => []
  | item :: rest => sortKeys item :: sortItems rest

/-- The fields in place, each with the keys of its value in order. -/
def sortFields : List (String × Json) → List (String × Json)
  | [] => []
  | (key, value) :: rest => (key, sortKeys value) :: sortFields rest

end

end Json
end SourceAtlas
