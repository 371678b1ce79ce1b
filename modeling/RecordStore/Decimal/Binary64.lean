/-!
# Finite binary64 numbers

A finite binary64 number is a sign and a magnitude, and the magnitude is the word that its exponent and
significand bits spell. Adjacent magnitudes are adjacent words, so numbers compare as the signed words do,
and rounding is a matter of exact arithmetic on natural numbers: `roundRatio` takes a fraction to the
nearest magnitude, a tie to the even one, and fails where the result would not be finite.
-/

namespace RecordStore

/-- The magnitude of a finite binary64 number: the word of its exponent and significand bits. -/
abbrev Magnitude := Fin 0x7FF0000000000000

/-- A finite binary64 number. Zero has two signs. -/
structure Binary64 where
  negative : Bool
  magnitude : Magnitude
  deriving DecidableEq, Repr

namespace Magnitude

def zero : Magnitude := ⟨0, by decide⟩

/-- The leading bit of a normal number, two to the power of 52. -/
def leading : Nat := 0x10000000000000

def significand (w : Magnitude) : Nat :=
  if w.val < leading then w.val else leading + w.val % leading

/-- The power of two that scales the significand, raised by 1074 so that it is a natural number. -/
def scale (w : Magnitude) : Nat :=
  if w.val < leading then 0 else w.val / leading - 1

def num (w : Magnitude) : Nat :=
  w.significand * Nat.pow 2 (w.scale - 1074)

def den (w : Magnitude) : Nat :=
  Nat.pow 2 (1074 - w.scale)

/-- The quotient rounded to the nearest integer, a tie going to the even neighbour. -/
def roundDiv (n d : Nat) : Nat :=
  let q := n / d
  let r := 2 * (n % d)
  if r < d then q
  else if d < r then q + 1
  else if q % 2 = 0 then q
  else q + 1

def floorLog2 (n d : Nat) : Int :=
  let guess : Int := (n.log2 : Int) - (d.log2 : Int)
  let fits := d * Nat.pow 2 guess.toNat ≤ n * Nat.pow 2 (-guess).toNat
  if fits then guess else guess - 1

/-- The magnitude nearest to a fraction, a tie going to the even word; `none` if it is not finite. -/
def roundRatio (n d : Nat) : Option Magnitude :=
  if n = 0 then some zero
  else
    let scale : Nat := (floorLog2 n d - 52 + 1074).toNat
    let word := scale * leading + roundDiv (n * Nat.pow 2 (1074 - scale)) (d * Nat.pow 2 (scale - 1074))
    if h : word < 0x7FF0000000000000 then some ⟨word, h⟩ else none

def ofNat? (n : Nat) : Option Magnitude :=
  roundRatio n 1

def mul? (a b : Magnitude) : Option Magnitude :=
  roundRatio (a.num * b.num) (a.den * b.den)

/-- The rounded quotient; division by zero has no finite result. -/
def div? (a b : Magnitude) : Option Magnitude :=
  if b.num = 0 then none else roundRatio (a.num * b.den) (a.den * b.num)

def tenPower? (e : Nat) : Option Magnitude :=
  ofNat? (Nat.pow 10 e)

/-- Divides by a power of ten, at most `10 ^ 308` at a time, and stops early at zero. -/
def scaleDown (w : Magnitude) (e : Nat) : Option Magnitude :=
  if e ≤ 308 then do w.div? (← tenPower? e)
  else if w.val = 0 then some w
  else do scaleDown (← w.div? (← tenPower? 308)) (e - 308)
termination_by e

/-- Multiplies by a power of ten; powers above `10 ^ 308` leave only zero finite. -/
def scaleUp (w : Magnitude) (e : Nat) : Option Magnitude :=
  if e ≤ 308 then do w.mul? (← tenPower? e)
  else if w.val = 0 then some w
  else none

/-- Reads digits scaled by a power of ten: the digits are rounded first and the scaling rounds again. -/
def ofDecimal? (digits : Nat) (exponent : Int) : Option Magnitude := do
  let w ← ofNat? digits
  if 0 ≤ exponent then w.scaleUp exponent.toNat else w.scaleDown (-exponent).toNat

end Magnitude

namespace Binary64

/-- The signed word. Numbers compare as these integers do, and both zeros have the same one. -/
def key (x : Binary64) : Int :=
  if x.negative then -(x.magnitude.val : Int) else x.magnitude.val

def ofInt (n : Int) : Binary64 :=
  ⟨decide (n < 0), (Magnitude.ofNat? n.natAbs).getD Magnitude.zero⟩

end Binary64

end RecordStore
