import RecordStore.Value.Basic

/-!
# Reading values

A strict reader of JSON text: one value with blanks around it and nothing else. Arrays and objects may be
nested 127 deep. Escapes must be complete, surrogates must come in pairs, and control characters must be
escaped. An integer literal of 64 bits is exact, `-0` and every other number is a float, and a number too large
for a finite float is refused. Of a repeated attribute the last value counts.

The reader's steps are bounded by the length of the text, since every step takes at least one character.
-/

namespace RecordStore
namespace Value

def isBlank (c : Char) : Bool :=
  c = ' ' || c = '\n' || c = '\r' || c = '\t'

def skipBlanks (cs : List Char) : List Char :=
  cs.dropWhile isBlank

def digit? (c : Char) : Option Nat :=
  if '0' ≤ c ∧ c ≤ '9' then some (c.toNat - '0'.toNat) else none

def hexDigit? (c : Char) : Option Nat :=
  if '0' ≤ c ∧ c ≤ '9' then some (c.toNat - '0'.toNat)
  else if 'a' ≤ c ∧ c ≤ 'f' then some (c.toNat - 'a'.toNat + 10)
  else if 'A' ≤ c ∧ c ≤ 'F' then some (c.toNat - 'A'.toNat + 10)
  else none

/-- The digits of a number so far: the leading digits that fit 64 bits, the power of ten that the digits left
out stand for, and whether any were left out. -/
structure Digits where
  value : Nat := 0
  exponent : Int := 0
  full : Bool := false

namespace Digits

/-- Takes a digit before the point. Once a digit does not fit, those that follow only scale. -/
def push (d : Digits) (n : Nat) : Digits :=
  if d.full ∨ UInt64.size ≤ d.value * 10 + n then { d with full := true, exponent := d.exponent + 1 }
  else { d with value := d.value * 10 + n }

/-- Takes a digit after the point. Once a digit does not fit, those that follow are dropped. -/
def pushFraction (d : Digits) (n : Nat) : Digits :=
  if d.full ∨ UInt64.size ≤ d.value * 10 + n then { d with full := true }
  else { d with value := d.value * 10 + n, exponent := d.exponent - 1 }

end Digits

def takeDigits (cs : List Char) : List Nat :=
  (cs.takeWhile fun c => (digit? c).isSome).filterMap digit?

def dropDigits (cs : List Char) : List Char :=
  cs.dropWhile fun c => (digit? c).isSome

def ofDigits (digits : List Nat) : Nat :=
  digits.foldl (fun n d => n * 10 + d) 0

def exponent? (cs : List Char) : Option (Int × List Char) :=
  let (negative, rest) :=
    match cs with
    | '+' :: rest => (false, rest)
    | '-' :: rest => (true, rest)
    | _ => (false, cs)
  match takeDigits rest with
  | [] => none
  | digits =>
    let n : Int := ofDigits digits
    some (if negative then -n else n, dropDigits rest)

/-- The float with given digits, unless it is too large. -/
def float? (negative : Bool) (d : Digits) (exponent : Int) : Option Value :=
  (Magnitude.ofDecimal? d.value (d.exponent + exponent)).map fun w => .number (.float ⟨negative, w⟩)

def scaled? (negative : Bool) (d : Digits) (cs : List Char) : Option (Value × List Char) :=
  match cs with
  | 'e' :: rest | 'E' :: rest => do
    let (exponent, rest) ← exponent? rest
    return (← float? negative d exponent, rest)
  | _ => do return (← float? negative d 0, cs)

def number? (negative : Bool) (cs : List Char) : Option (Value × List Char) :=
  match takeDigits cs with
  | [] => none
  | first :: more =>
    if first = 0 ∧ more ≠ [] then none
    else
      let whole := (first :: more).foldl Digits.push {}
      match dropDigits cs with
      | '.' :: rest =>
        match takeDigits rest with
        | [] => none
        | fraction =>
          scaled? negative (fraction.foldl Digits.pushFraction { whole with full := false })
            (dropDigits rest)
      | 'e' :: rest => scaled? negative whole ('e' :: rest)
      | 'E' :: rest => scaled? negative whole ('E' :: rest)
      | rest =>
        if whole.full then scaled? negative whole rest
        else if !negative then some (.number (.int whole.value), rest)
        else if whole.value = 0 ∨ UInt64.size / 2 < whole.value then scaled? negative whole rest
        else some (.number (.int (-(whole.value : Int))), rest)

def unit? : List Char → Option (Nat × List Char)
  | a :: b :: c :: d :: rest => do
    return ((((← hexDigit? a) * 16 + (← hexDigit? b)) * 16 + (← hexDigit? c)) * 16 + (← hexDigit? d), rest)
  | _ => none

/-- Reads an escape after the backslash. Two surrogates in a row spell one character. -/
def escape? : List Char → Option (Char × List Char)
  | '"' :: rest => some ('"', rest)
  | '\\' :: rest => some ('\\', rest)
  | '/' :: rest => some ('/', rest)
  | 'b' :: rest => some (Char.ofNat 0x08, rest)
  | 'f' :: rest => some (Char.ofNat 0x0C, rest)
  | 'n' :: rest => some ('\n', rest)
  | 'r' :: rest => some ('\r', rest)
  | 't' :: rest => some ('\t', rest)
  | 'u' :: rest => do
    let (unit, rest) ← unit? rest
    if 0xDC00 ≤ unit ∧ unit ≤ 0xDFFF then none
    else if 0xD800 ≤ unit ∧ unit ≤ 0xDBFF then
      match rest with
      | '\\' :: 'u' :: rest => do
        let (low, rest) ← unit? rest
        if 0xDC00 ≤ low ∧ low ≤ 0xDFFF then
          some (Char.ofNat (0x10000 + (unit - 0xD800) * 0x400 + (low - 0xDC00)), rest)
        else none
      | _ => none
    else some (Char.ofNat unit, rest)
  | _ => none

def string? : Nat → List Char → List Char → Option (String × List Char)
  | 0, _, _ => none
  | _ + 1, _, [] => none
  | steps + 1, done, c :: rest =>
    if c = '"' then some (String.ofList done.reverse, rest)
    else if c = '\\' then do
      let (c, rest) ← escape? rest
      string? steps (c :: done) rest
    else if c.toNat < 0x20 then none
    else string? steps (c :: done) rest

def word? : List Char → List Char → Option (List Char)
  | [], cs => some cs
  | w :: word, c :: cs => if w = c then word? word cs else none
  | _ :: _, [] => none

mutual

/-- Reads a value at the front of a text. Arrays and objects may open `depth - 1` levels deep. -/
def value? : Nat → Nat → List Char → Option (Value × List Char)
  | 0, _, _ => none
  | steps + 1, depth, cs =>
    match skipBlanks cs with
    | 'n' :: rest => (word? "ull".toList rest).map fun rest => (.null, rest)
    | 't' :: rest => (word? "rue".toList rest).map fun rest => (.bool true, rest)
    | 'f' :: rest => (word? "alse".toList rest).map fun rest => (.bool false, rest)
    | '"' :: rest => (string? (rest.length + 1) [] rest).map fun (s, rest) => (.string s, rest)
    | '-' :: rest => number? true rest
    | '[' :: rest =>
      if depth ≤ 1 then none
      else
        match skipBlanks rest with
        | ']' :: rest => some (.array [], rest)
        | rest => (items? steps (depth - 1) [] rest).map fun (items, rest) => (.array items, rest)
    | '\x7b' :: rest =>
      if depth ≤ 1 then none
      else
        match skipBlanks rest with
        | '\x7d' :: rest => some (.object [], rest)
        | rest => (fields? steps (depth - 1) [] rest).map fun (fields, rest) => (.object fields, rest)
    | cs => number? false cs

def items? : Nat → Nat → List Value → List Char → Option (List Value × List Char)
  | 0, _, _, _ => none
  | steps + 1, depth, done, cs => do
    let (v, rest) ← value? steps depth cs
    match skipBlanks rest with
    | ',' :: rest => items? steps depth (v :: done) rest
    | ']' :: rest => some ((v :: done).reverse, rest)
    | _ => none

def fields? : Nat → Nat → Document → List Char → Option (Document × List Char)
  | 0, _, _, _ => none
  | steps + 1, depth, done, cs =>
    match skipBlanks cs with
    | '"' :: rest => do
      let (name, rest) ← string? (rest.length + 1) [] rest
      match skipBlanks rest with
      | ':' :: rest => do
        let (v, rest) ← value? steps depth rest
        match skipBlanks rest with
        | ',' :: rest => fields? steps depth (done.set name v) rest
        | '\x7d' :: rest => some (done.set name v, rest)
        | _ => none
      | _ => none
    | _ => none

end

/-- Reads a text that is one value with nothing around it but blanks. -/
def ofText? (text : String) : Option Value := do
  let cs := text.toList
  let (v, rest) ← value? (cs.length + 1) 128 cs
  if (skipBlanks rest).isEmpty then some v else none

end Value
end RecordStore
