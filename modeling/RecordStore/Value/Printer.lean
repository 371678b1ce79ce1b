import RecordStore.Value.Basic
import RecordStore.Decimal.Shortest

/-!
# Values as text

The compact text of a value: no spaces, attributes in ascending order of their names, integers in decimal and
floats as `Binary64.text` writes them. In strings the quote, the backslash and the control characters below
U+0020 are escaped, and every other character stands for itself.
-/

namespace RecordStore
namespace Value

def hexDigit (n : Nat) : Char :=
  Nat.digitChar (n % 16)

/-- The characters that stand for one character inside quotes. -/
def escapeChar (c : Char) : List Char :=
  if c = '"' then ['\\', '"']
  else if c = '\\' then ['\\', '\\']
  else if c.toNat = 0x08 then ['\\', 'b']
  else if c.toNat = 0x0C then ['\\', 'f']
  else if c = '\n' then ['\\', 'n']
  else if c = '\r' then ['\\', 'r']
  else if c = '\t' then ['\\', 't']
  else if c.toNat < 0x20 then ['\\', 'u', '0', '0', hexDigit (c.toNat / 16), hexDigit c.toNat]
  else [c]

def quote (s : String) : List Char :=
  '"' :: s.toList.flatMap escapeChar ++ ['"']

/-- The text of a number. -/
def numberText : Number → String
  | .int n => toString n
  | .float x => x.text

mutual

def chars : Value → List Char
  | .null => "null".toList
  | .bool true => "true".toList
  | .bool false => "false".toList
  | .number n => (numberText n).toList
  | .string s => quote s
  | .array [] => ['[', ']']
  | .array (v :: rest) => '[' :: chars v ++ itemChars rest
  | .object [] => ['\x7b', '\x7d']
  | .object ((k, v) :: rest) => '\x7b' :: quote k ++ ':' :: chars v ++ fieldChars rest

def itemChars : List Value → List Char
  | [] => [']']
  | v :: rest => ',' :: chars v ++ itemChars rest

def fieldChars : List (String × Value) → List Char
  | [] => ['\x7d']
  | (k, v) :: rest => ',' :: quote k ++ ':' :: chars v ++ fieldChars rest

end

def text (v : Value) : String :=
  String.ofList v.chars

/-- The text that patterns are matched against: strings as they are, null as nothing, the rest as written. -/
def patternText : Value → String
  | .null => ""
  | .string s => s
  | v => v.text

end Value
end RecordStore
