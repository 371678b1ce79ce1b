/-!
# Random keys

A random key is a number of 128 bits, of which six are fixed: four say that the number is random and two which
layout it has. It is written with hexadecimal digits in five groups.
-/

namespace RecordStore
namespace Text

/-- So many hexadecimal digits of a number, counted from its end. -/
def hexDigits : Nat → Nat → List Char
  | 0, _ => []
  | places + 1, n => hexDigits places (n / 16) ++ [Nat.digitChar (n % 16)]

def uuidText (bits : Nat) : String :=
  let group (places shift : Nat) := String.ofList (hexDigits places (bits >>> shift))
  let version := String.ofList ('4' :: hexDigits 3 (bits >>> 64))
  let variant := String.ofList (hexDigits 4 (0x8000 + (bits >>> 48) % 0x4000))
  "-".intercalate [group 8 96, group 4 80, version, variant, group 12 0]

def uuidStart (places bits : Nat) : String :=
  String.ofList (((uuidText bits).toList.filter (· ≠ '-')).take places)

end Text
end RecordStore
