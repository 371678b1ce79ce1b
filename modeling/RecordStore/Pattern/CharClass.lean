import RecordStore.Text.Case
import RecordStore.Text.Property.Binary

/-!
# Character classes

The sets of characters that patterns have names for, and the sets that do not tell upper from lower case.
-/

namespace RecordStore
namespace Pattern

open Text (CharSet)

namespace CharClass

def ascii : CharSet := .range (Char.ofNat 0) (Char.ofNat 0x7F)

/-- The decimal digits of all scripts. -/
def digit : CharSet := Text.Category.set [.nd]

def blank : CharSet := Text.Property.whiteSpace.set

/-- The characters of words: letters, marks, digits, connectors and joiners. -/
def wordChar : CharSet :=
  .unions [Text.Property.alphabetic.set, Text.Category.set [.mn, .mc, .me, .nd, .pc],
    Text.Property.joinControl.set]

def asciiDigit : CharSet := .range '0' '9'

def asciiBlank : CharSet := .unions [.range '\t' '\r', .single ' ']

def asciiWordChar : CharSet :=
  .unions [.range 'a' 'z', .range 'A' 'Z', .range '0' '9', .single '_']

def asciiNamed (name : String) : CharSet :=
  match name with
  | "alnum" => .unions [.range 'a' 'z', .range 'A' 'Z', asciiDigit]
  | "alpha" => .unions [.range 'a' 'z', .range 'A' 'Z']
  | "ascii" => ascii
  | "blank" => .unions [.single ' ', .single '\t']
  | "cntrl" => .unions [.range (Char.ofNat 0) (Char.ofNat 0x1F), .single (Char.ofNat 0x7F)]
  | "digit" => asciiDigit
  | "graph" => .range '!' '~'
  | "lower" => .range 'a' 'z'
  | "print" => .range ' ' '~'
  | "punct" => .unions [.range '!' '/', .range ':' '@', .range '[' (Char.ofNat 0x60), .range '\x7b' '~']
  | "space" => asciiBlank
  | "upper" => .range 'A' 'Z'
  | "word" => asciiWordChar
  | "xdigit" => .unions [asciiDigit, .range 'a' 'f', .range 'A' 'F']
  | _ => .empty

/-- Every character that equals one of a set up to case: what the set folds to, and all that is folded to that. -/
def anyCase (s : CharSet) : CharSet :=
  let targets := Text.foldMoves.filterMap fun (c, folded) =>
    if CharSet.covers s.ranges c then some (folded, folded) else none
  let folded := CharSet.ofRanges (s.ranges ++ targets)
  let sources := Text.foldMoves.filterMap fun (c, target) =>
    if CharSet.covers folded.ranges target then some (c, c) else none
  .ofRanges (folded.ranges ++ sources)

/-- Every character that equals one of a set up to the case of ASCII letters. -/
def anyAsciiCase (s : CharSet) : CharSet :=
  let upper := (s.inter (.range 'a' 'z')).ranges.map fun (first, last) => (first - 32, last - 32)
  let lower := (s.inter (.range 'A' 'Z')).ranges.map fun (first, last) => (first + 32, last + 32)
  .ofRanges (s.ranges ++ upper ++ lower)

end CharClass

end Pattern
end RecordStore
