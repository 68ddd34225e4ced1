set_option autoImplicit false

/-!
# Decimal text of doubles

A finite double is a sign and `mantissa * 2 ^ exponent`. The decimals that read back as the double
are those between the midpoints to its two neighbours, the midpoints included when the mantissa is
even. All arithmetic below is on natural numbers. Doubles are written without an exponent, with the
fewest digits that read back or with a fixed number of places and ties to even.
-/

namespace FunctionalSize

structure Double where
  mantissa : Nat
  exponent : Int
deriving DecidableEq, Repr, Inhabited

structure Ratio where
  num : Nat
  den : Nat
deriving DecidableEq, Repr, Inhabited

namespace Ratio

def scale (n : Nat) (e : Int) : Ratio :=
  if 0 ≤ e then ⟨n * Nat.pow 2 e.toNat, 1⟩ else ⟨n, Nat.pow 2 (-e).toNat⟩

def shift (r : Ratio) (e : Int) : Ratio :=
  if 0 ≤ e then ⟨r.num * Nat.pow 10 e.toNat, r.den⟩
  else ⟨r.num, r.den * Nat.pow 10 (-e).toNat⟩

def floor (r : Ratio) : Nat := r.num / r.den

/-- The nearest natural number, and the even one of two that are equally near. -/
def round (r : Ratio) : Nat :=
  let whole := r.num / r.den
  let rest := 2 * (r.num % r.den)
  if rest < r.den then whole
  else if r.den < rest then whole + 1
  else whole + whole % 2

def lt (r : Ratio) (n : Nat) : Bool := r.num < n * r.den

def gt (r : Ratio) (n : Nat) : Bool := n * r.den < r.num

end Ratio

namespace Double

def ofBits? (bits : UInt64) : Option (Bool × Double) :=
  let n := bits.toNat
  let negative := n / Nat.pow 2 63 == 1
  let biased : Nat := n / Nat.pow 2 52 % Nat.pow 2 11
  let fraction : Nat := n % Nat.pow 2 52
  if biased = 2047 then none
  else if biased = 0 then some (negative, ⟨fraction, -1074⟩)
  else some (negative, ⟨fraction + Nat.pow 2 52, (biased : Int) - 1075⟩)

def toRatio (d : Double) : Ratio := .scale d.mantissa d.exponent

/-- Midpoint to the next smaller double, which is nearer at a power of two. -/
def lower (d : Double) : Ratio :=
  if d.mantissa = Nat.pow 2 52 ∧ -1074 < d.exponent then
    .scale (4 * d.mantissa - 1) (d.exponent - 2)
  else .scale (2 * d.mantissa - 1) (d.exponent - 1)

def upper (d : Double) : Ratio := .scale (2 * d.mantissa + 1) (d.exponent - 1)

def readsBack (d : Double) (digits : Nat) (power : Int) : Bool :=
  let low := d.lower.shift (-power)
  let high := d.upper.shift (-power)
  if d.mantissa % 2 = 0 then !low.gt digits && !high.lt digits
  else low.lt digits && high.gt digits

/-- The number of digits in front of the point, zero or less for small numbers. -/
def magnitude (d : Double) : Int :=
  let whole := d.toRatio.floor
  if whole ≠ 0 then (Nat.toDigits 10 whole).length
  else
    let small := (List.range 330).find? fun (k : Nat) => (d.toRatio.shift (k + 1)).floor ≠ 0
    Int.negOfNat (small.getD 0)

def withDigits? (d : Double) (count : Nat) : Option (Nat × Int) :=
  let power := d.magnitude - count
  let low := (d.toRatio.shift (-power)).floor
  let near := (d.toRatio.shift (-power)).round
  let far := if near = low then low + 1 else low
  if d.readsBack near power then some (near, power)
  else if d.readsBack far power then some (far, power)
  else none

/-- The fewest digits that read back, as an integer and a power of ten. One digit may round up to
ten, which is one digit again. -/
def shortest (d : Double) : Nat × Int :=
  if d.mantissa = 0 then (0, 0)
  else
    let (digits, power) := ((List.range 17).findSome? fun k => d.withDigits? (k + 1)).getD (0, 0)
    if digits = 10 then (1, power + 1) else (digits, power)

end Double

namespace Decimal

def withPoint (n places : Nat) : String :=
  let digits := Nat.toDigits 10 n
  let padded := List.replicate (places + 1 - digits.length) '0' ++ digits
  let whole := padded.take (padded.length - places)
  if places = 0 then String.ofList padded
  else String.ofList (whole ++ '.' :: padded.drop (padded.length - places))

def positional (digits : Nat) (power : Int) : String :=
  if 0 ≤ power then (digits * Nat.pow 10 power.toNat).repr
  else withPoint digits (-power).toNat

def signed (negative : Bool) (text : String) : String := if negative then "-" ++ text else text

def unbounded (x : Float) : String :=
  if x.isNaN then "NaN" else if x < 0 then "-inf" else "inf"

def shortest (x : Float) : String :=
  match Double.ofBits? x.toBits with
  | some (negative, d) =>
    let (digits, power) := d.shortest
    signed negative (positional digits power)
  | none => unbounded x

def fixed (places : Nat) (x : Float) : String :=
  match Double.ofBits? x.toBits with
  | some (negative, d) => signed negative (withPoint (d.toRatio.shift places).round places)
  | none => unbounded x

end Decimal

end FunctionalSize
