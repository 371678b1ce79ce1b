import RecordStore.Text.Split

/-!
# Runs of code points

Tables of characters are written as texts: words between blanks, code points in hexadecimal. A word is a
range such as `41-5A`, a range with labels such as `41-5A:Latn`, or a range with the distance that it moves by,
such as `41-5A:+20`. With `/2` after it a range takes every second code point, with `/3` every third. The words
of a table are in ascending order.
-/

namespace RecordStore
namespace Text
namespace Runs

def lastCode : Nat := 0x10FFFF

def entries (text : String) : List (List Char) :=
  words text.toList

def hex (digits : List Char) : Nat :=
  digits.foldl (fun n c => n * 16 + (if c ≤ '9' then c.toNat - '0'.toNat else c.toNat - 'A'.toNat + 10)) 0

def range (word : List Char) : Nat × Nat :=
  match splitBy (· = '-') word with
  | [first, last] => (hex first, hex last)
  | _ => (hex word, hex word)

/-- Every code point of a range that is a number of steps after its first. -/
def steps (first last step : Nat) : List Nat :=
  (List.range ((last - first) / step + 1)).map fun n => first + n * step

/-- The ranges that a word spells: one, or the single code points of a range with steps. -/
def rangesOf (word : List Char) : List (Nat × Nat) :=
  match splitBy (· = '/') word with
  | [place, step] =>
    let (first, last) := range place
    (steps first last (hex step)).map fun c => (c, c)
  | _ => [range word]

def ranges (text : String) : List (Nat × Nat) :=
  (entries text).flatMap rangesOf

/-- Ranges from their first code points: each lasts until the next one starts. -/
def spans {α : Type} : List (Nat × α) → List ((Nat × Nat) × α)
  | [] => []
  | [(start, label)] => [((start, lastCode), label)]
  | (start, label) :: (next, other) :: rest => ((start, next - 1), label) :: spans ((next, other) :: rest)

def labelled {α : Type} (label? : String → Option α) (text : String) : List ((Nat × Nat) × α) :=
  spans ((entries text).filterMap fun word =>
    match splitBy (· = ':') word with
    | [start, label] => (label? (String.ofList label)).map fun label => (hex start, label)
    | _ => none)

def parts (label : List Char) : List String :=
  (splitBy (· = ',') label).map String.ofList

def listed (text : String) : List ((Nat × Nat) × List String) :=
  (entries text).filterMap fun word =>
    match splitBy (· = ':') word with
    | [place, label] => some (range place, parts label)
    | _ => none

def names (text : String) : List (String × List String) :=
  (entries text).filterMap fun word =>
    match splitBy (· = ':') word with
    | [code, label] => some (String.ofList code, parts label)
    | _ => none

/-- Code points that move by the same distance. -/
structure Shift where
  codes : List Nat
  distance : Int

namespace Shift

def ofWord? (word : List Char) : Option Shift :=
  match splitBy (· = ':') word with
  | [place, sign :: digits] =>
    let distance : Int := if sign = '-' then -(hex digits : Int) else hex digits
    let codes := (rangesOf place).flatMap fun (first, last) => steps first last 1
    some ⟨codes, distance⟩
  | _ => none

def moves (s : Shift) : List (Nat × Nat) :=
  s.codes.map fun (c : Nat) => (c, ((c : Int) + s.distance).toNat)

end Shift

def moves (text : String) : List (Nat × Nat) :=
  ((entries text).filterMap Shift.ofWord?).flatMap Shift.moves

end Runs
end Text
end RecordStore
