import RecordStore.Decimal.Binary64

/-!
# The shortest decimal of a binary64 number

A magnitude is written with the fewest digits that read back as it, and among those with the digits nearest
to it. All reals that round to a magnitude form an interval; for one digit, two digits, and so on, the two
neighbours of the magnitude on that decimal grid are tried, and the first grid with a neighbour inside the
interval gives the digits. Seventeen digits always suffice.

`Binary64.text` fixes the spelling: positional from `10 ^ (-5)` up to but excluding `10 ^ 16`, always with a
fraction digit, and scientific elsewhere with a signed exponent.
-/

namespace RecordStore

/-- A positive decimal `digits * 10 ^ exponent`. -/
structure Decimal where
  digits : Nat
  exponent : Int
  deriving DecidableEq, Repr

namespace Decimal

/-- Drops trailing zeros, at most as many as the given number of steps. -/
def trim : Nat → Decimal → Decimal
  | 0, d => d
  | steps + 1, d =>
    if d.digits ≠ 0 ∧ d.digits % 10 = 0 then trim steps ⟨d.digits / 10, d.exponent + 1⟩ else d

/-- Whether `a * 10 ^ e` is at most `b * 2 ^ s / 2 ^ 1076`. -/
def leBinary (a : Nat) (e : Int) (b s : Nat) : Bool :=
  a * Nat.pow 10 e.toNat * Nat.pow 2 1076 ≤ b * Nat.pow 2 s * Nat.pow 10 (-e).toNat

def binaryLe (b s : Nat) (a : Nat) (e : Int) : Bool :=
  b * Nat.pow 2 s * Nat.pow 10 (-e).toNat ≤ a * Nat.pow 10 e.toNat * Nat.pow 2 1076

end Decimal

namespace Magnitude

def lower (w : Magnitude) : Nat :=
  if w.significand = leading ∧ 0 < w.scale then 4 * w.significand - 1 else 4 * w.significand - 2

def upper (w : Magnitude) : Nat :=
  4 * w.significand + 2

/-- Whether a decimal reads back as the magnitude. The ends of the interval count for even words. -/
def reads (w : Magnitude) (a : Nat) (e : Int) : Bool :=
  if w.val % 2 = 0 then
    Decimal.binaryLe w.lower w.scale a e && Decimal.leBinary a e w.upper w.scale
  else
    !Decimal.leBinary a e w.lower w.scale && !Decimal.binaryLe w.upper w.scale a e

/-- Searches downwards for the largest exponent whose power of ten is not above the magnitude. -/
def floorLog10From (w : Magnitude) : Nat → Int → Int
  | 0, e => e
  | steps + 1, e =>
    if Decimal.leBinary 1 e (4 * w.significand) w.scale then e else floorLog10From w steps (e - 1)

def floorLog10 (w : Magnitude) : Int :=
  let guess : Int := (floorLog2 w.num w.den) * 30103 / 100000 + 1
  floorLog10From w 4 guess

/-- The candidate with a given number of digits: the nearer neighbour on the grid, if it reads back. -/
def candidate (w : Magnitude) (e : Int) : Option Decimal :=
  let below := (w.num * Nat.pow 10 (-e).toNat) / (w.den * Nat.pow 10 e.toNat)
  let above := below + 1
  let rest := (w.num * Nat.pow 10 (-e).toNat) % (w.den * Nat.pow 10 e.toNat)
  match w.reads below e, w.reads above e with
  | false, false => none
  | true, false => some ⟨below, e⟩
  | false, true => some ⟨above, e⟩
  | true, true =>
    let unit := w.den * Nat.pow 10 e.toNat
    if 2 * rest < unit ∨ (2 * rest = unit ∧ below % 2 = 0) then some ⟨below, e⟩ else some ⟨above, e⟩

/-- Tries one digit more at each step. -/
def shortestFrom (w : Magnitude) : Nat → Int → Decimal
  | 0, e => (w.candidate e).getD ⟨0, 0⟩
  | steps + 1, e =>
    match w.candidate e with
    | some d => d
    | none => shortestFrom w steps (e - 1)

def shortest (w : Magnitude) : Decimal :=
  (w.shortestFrom 17 w.floorLog10).trim 17

end Magnitude

namespace Binary64

def zeros (n : Nat) : String :=
  String.ofList (List.replicate n '0')

/-- The text of a positive decimal: positional for exponents of the leading digit from -5 to 15. -/
def decimalText (d : Decimal) : String :=
  let digits := (Nat.repr d.digits).toList
  let lead : Int := d.exponent + digits.length - 1
  if -5 ≤ lead ∧ lead ≤ 15 then
    if 0 ≤ d.exponent then
      String.ofList digits ++ zeros d.exponent.toNat ++ ".0"
    else if 0 ≤ lead then
      let whole := lead.toNat + 1
      String.ofList (digits.take whole) ++ "." ++ String.ofList (digits.drop whole)
    else
      "0." ++ zeros (-lead - 1).toNat ++ String.ofList digits
  else
    let fraction := digits.drop 1
    let mantissa :=
      String.ofList (digits.take 1) ++ (if fraction.isEmpty then "" else "." ++ String.ofList fraction)
    mantissa ++ "e" ++ (if lead < 0 then "-" else "+") ++ Nat.repr lead.natAbs

/-- The text of a number: the fewest digits that read back, a sign before negative numbers and negative zero. -/
def text (x : Binary64) : String :=
  (if x.negative then "-" else "") ++
    (if x.magnitude.val = 0 then "0.0" else decimalText x.magnitude.shortest)

end Binary64

end RecordStore
