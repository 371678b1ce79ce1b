import RecordStore.Text.CharSet

/-!
# UTF-8

The bytes of characters, and the ranges of bytes that spell a range of characters: a range is cut where the length
of the spelling changes and at the blocks of 64, 4096 and 262144 code points, so that every piece takes one range
of bytes at each place.
-/

namespace RecordStore
namespace Text
namespace Utf8

def length (c : Nat) : Nat :=
  if c < 0x80 then 1 else if c < 0x800 then 2 else if c < 0x10000 then 3 else 4

def tail (c : Nat) : Nat → List Nat
  | 0 => []
  | count + 1 => (0x80 + c / Nat.pow 64 count % 64) :: tail c count

def bytes (c : Nat) : List Nat :=
  match length c with
  | 1 => [c]
  | 2 => (0xC0 + c / 64) :: tail c 1
  | 3 => (0xE0 + c / 0x1000) :: tail c 2
  | _ => (0xF0 + c / 0x40000) :: tail c 3

/-- Cuts a range at the ends of blocks, from blocks of 64 to the power of the level down. -/
def blocks : Nat → Nat → Nat → List (Nat × Nat)
  | 0, first, last => [(first, last)]
  | level + 1, first, last =>
    let size := Nat.pow 64 (level + 1)
    if first / size = last / size then blocks level first last
    else
      let whole := (first + size - 1) / size * size
      let rest := (last + 1) / size * size
      (if first < whole then blocks level first (whole - 1) else []) ++
        (if whole < rest then [(whole, rest - 1)] else []) ++
        (if rest ≤ last then blocks level rest last else [])

/-- The ranges of characters whose spellings have one length each, without the surrogates. -/
def lengths : List (Nat × Nat) :=
  [(0, 0x7F), (0x80, 0x7FF), (0x800, 0xD7FF), (0xE000, 0xFFFF), (0x10000, Runs.lastCode)]

/-- The ranges of bytes that spell a range of characters, for each piece of it. -/
def spellings (range : Nat × Nat) : List (List (Nat × Nat)) :=
  (lengths.filterMap (CharSet.overlap? range)).flatMap fun (first, last) =>
    (blocks (length first - 1) first last).map fun (first, last) => (bytes first).zip (bytes last)

end Utf8
end Text
end RecordStore
