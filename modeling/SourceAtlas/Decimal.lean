/-! Decimal numbers, and the shortest one that reads back as a given double. The search is exact:
a positive double is `mantissa * 2 ^ power`, the reals that round to it form an interval around it,
and grids of one, two, three and more digits are tried until one of the value's two neighbours on
the grid lies in the interval. -/
namespace SourceAtlas

/-- The number `digits * 10 ^ exponent`. -/
structure Decimal where
  digits : Nat
  exponent : Int
deriving Repr, DecidableEq

namespace Decimal

/-- A positive fraction. -/
structure Ratio where
  num : Nat
  den : Nat

/-- `n * base ^ power` as a fraction. -/
def Ratio.scaled (n base : Nat) (power : Int) : Ratio :=
  if 0 ≤ power then ⟨n * Nat.pow base power.toNat, 1⟩ else ⟨n, Nat.pow base power.natAbs⟩

def Ratio.le (a b : Ratio) : Bool :=
  a.num * b.den ≤ b.num * a.den

def Ratio.lt (a b : Ratio) : Bool :=
  a.num * b.den < b.num * a.den

/-- The least power of ten above a fraction below one is found by trying at most `fuel` of them. -/
def Ratio.leadingZeros (r : Ratio) : Nat → Nat
  | 0 => 0
  | fuel + 1 => if r.den ≤ r.num then 0 else Ratio.leadingZeros ⟨r.num * 10, r.den⟩ fuel + 1

/-- The number of digits before the decimal point; zero or less for a fraction below a tenth. -/
def Ratio.magnitude (r : Ratio) : Int :=
  if r.den ≤ r.num then ((Nat.toDigits 10 (r.num / r.den)).length : Int)
  else 1 - (Ratio.leadingZeros r 400 : Int)

/-- The reals that round to one double, with or without their ends. -/
structure Interval where
  low : Ratio
  high : Ratio
  closed : Bool

def Interval.contains (i : Interval) (r : Ratio) : Bool :=
  if i.closed then i.low.le r && r.le i.high else i.low.lt r && r.lt i.high

/-- The neighbour of the value on the grid of `10 ^ power` that lies in the interval; of two, the
nearer one, and the even one of two equally near. -/
def onGrid? (value : Ratio) (interval : Interval) (power : Int) : Option Decimal :=
  let unit := Ratio.scaled 1 10 power
  let lower := value.num * unit.den / (value.den * unit.num)
  let at_ (n : Nat) : Ratio := ⟨n * unit.num, unit.den⟩
  let lowerIn := 0 < lower && interval.contains (at_ lower)
  let upperIn := interval.contains (at_ (lower + 1))
  -- twice the value against the sum of both neighbours
  let doubled : Ratio := ⟨2 * value.num, value.den⟩
  let middle := at_ (2 * lower + 1)
  let pickLower := doubled.lt middle || (!middle.lt doubled && lower % 2 == 0)
  match lowerIn, upperIn with
  | false, false => none
  | true, false => some ⟨lower, power⟩
  | false, true => some ⟨lower + 1, power⟩
  | true, true => some ⟨if pickLower then lower else lower + 1, power⟩

/-- Without trailing zeros, at most `fuel` of them. -/
def strip : Nat → Decimal → Decimal
  | 0, d => d
  | fuel + 1, d =>
    if d.digits % 10 == 0 && d.digits != 0 then strip fuel ⟨d.digits / 10, d.exponent + 1⟩ else d

/-- The shortest decimal that reads back as the double `mantissa * 2 ^ power`; `lowest` says that
the next smaller double is only half as far away as the next larger one. -/
def shortest (mantissa : Nat) (power : Int) (lowest : Bool) : Decimal :=
  let value := Ratio.scaled (4 * mantissa) 2 (power - 2)
  let interval : Interval :=
    ⟨Ratio.scaled (4 * mantissa - if lowest then 1 else 2) 2 (power - 2),
      Ratio.scaled (4 * mantissa + 2) 2 (power - 2), mantissa % 2 == 0⟩
  let grids := (List.range 17).map fun (digits : Nat) => value.magnitude - digits - 1
  match grids.findSome? (onGrid? value interval) with
  | some d => strip 20 d
  | none => ⟨mantissa, power⟩

/-- Mantissa, power of two, and whether the mantissa is the least of its power, of a finite double
without its sign. -/
def parts (x : Float) : Nat × Int × Bool :=
  let bits := x.toBits.toNat
  let exponent : Nat := bits / Nat.pow 2 52 % Nat.pow 2 11
  let fraction : Nat := bits % Nat.pow 2 52
  if exponent == 0 then (fraction, -1074, false)
  else (fraction + Nat.pow 2 52, (exponent : Int) - 1075, fraction == 0 && exponent != 1)

/-- The shortest decimal of a finite double without its sign. -/
def ofFloat (x : Float) : Decimal :=
  match parts x with
  | (0, _, _) => ⟨0, 0⟩
  | (mantissa, power, lowest) => shortest mantissa power lowest

/-- The leading digits that fit 64 bits; for each digit cut off the exponent grows by one. -/
def fitWord (d : Decimal) : Decimal :=
  if d.digits < Nat.pow 2 64 then d else fitWord ⟨d.digits / 10, d.exponent + 1⟩
termination_by d.digits
decreasing_by
  have : 0 < Nat.pow 2 64 := by decide
  show d.digits / 10 < d.digits
  omega

/-- The largest power of ten among the doubles. -/
def topPower : Nat := 308

/-- The double nearest to a power of ten. -/
def tenTo (power : Nat) : Float :=
  Float.ofScientific 1 false (min power (topPower + 1))

/-- A double times a power of ten: one rounded product or quotient, and for the smallest powers one
quotient more for each `topPower` places. -/
def scaled (x : Float) (power : Int) : Float :=
  if x == 0 then x
  else if power < -topPower then scaled (x / tenTo topPower) (power + topPower)
  else if power < 0 then x / tenTo power.natAbs
  else x * tenTo power.natAbs
termination_by power.natAbs
decreasing_by
  simp only [topPower] at *
  omega

/-- The double that a decimal is read as: its leading digits as a double, scaled. Up to fifteen
digits and twenty-two places this is the nearest double; beyond, it may be a neighbour of it. -/
def toFloat (d : Decimal) : Float :=
  let kept := d.fitWord
  scaled kept.digits.toUInt64.toFloat kept.exponent

/-- Fewest digits, with a decimal point: positional while the point lies at most five places before
and sixteen behind the first digit, else with an exponent. -/
def text (d : Decimal) : String :=
  let digits := Nat.repr d.digits
  let count : Int := digits.length
  let point := count + d.exponent
  if 0 ≤ d.exponent && point ≤ 16 then
    digits ++ String.ofList (List.replicate d.exponent.toNat '0') ++ ".0"
  else if 0 < point && point ≤ 16 then
    String.ofList (digits.toList.take point.toNat) ++ "." ++
      String.ofList (digits.toList.drop point.toNat)
  else if -5 < point && point ≤ 0 then
    "0." ++ String.ofList (List.replicate point.natAbs '0') ++ digits
  else
    let fraction := String.ofList (digits.toList.drop 1)
    String.ofList (digits.toList.take 1) ++ (if fraction.isEmpty then "" else "." ++ fraction) ++
      "e" ++ toString (point - 1)

end Decimal
end SourceAtlas
