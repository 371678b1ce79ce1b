/-!
# Durations

A duration is written in the largest unit that is not above it, as a decimal without zeros at its end.
-/

namespace RecordStore
namespace Text

/-- The digits of a number below a power of ten, with zeros before them up to so many places. -/
def paddedDigits (places n : Nat) : List Char :=
  let digits := Nat.toDigits 10 n
  List.replicate (places - digits.length) '0' ++ digits

/-- A decimal with so many places at most, and none that would be zeros at the end. -/
def decimalText (whole fraction places : Nat) : String :=
  let digits := ((paddedDigits places fraction).reverse.dropWhile (· = '0')).reverse
  if fraction = 0 then toString whole else toString whole ++ "." ++ String.ofList digits

def durationText (nanoseconds : Nat) : String :=
  if 1000000000 ≤ nanoseconds then decimalText (nanoseconds / 1000000000) (nanoseconds % 1000000000) 9 ++ "s"
  else if 1000000 ≤ nanoseconds then decimalText (nanoseconds / 1000000) (nanoseconds % 1000000) 6 ++ "ms"
  else if 1000 ≤ nanoseconds then decimalText (nanoseconds / 1000) (nanoseconds % 1000) 3 ++ "µs"
  else toString nanoseconds ++ "ns"

end Text
end RecordStore
