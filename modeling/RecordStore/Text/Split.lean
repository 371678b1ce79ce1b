/-!
# Cutting texts

Texts are cut as lists of characters: at every character that a test picks out, at the first or the last
occurrence of a character, or at blanks. A blank is a character with the property White_Space.
-/

namespace RecordStore
namespace Text

def isBlank (c : Char) : Bool :=
  let n := c.toNat
  (0x09 ≤ n && n ≤ 0x0D) || n = 0x20 || n = 0x85 || n = 0xA0 || n = 0x1680 || (0x2000 ≤ n && n ≤ 0x200A) ||
    n = 0x2028 || n = 0x2029 || n = 0x202F || n = 0x205F || n = 0x3000

/-- The pieces between the characters that a test picks out; there is always one more piece than cuts. -/
def splitBy (cut : Char → Bool) : List Char → List (List Char)
  | [] => [[]]
  | c :: rest =>
    if cut c then [] :: splitBy cut rest
    else
      match splitBy cut rest with
      | [] => [[c]]
      | piece :: pieces => (c :: piece) :: pieces

/-- The text before and after the first occurrence of a character. -/
def splitFirst? (mark : Char) : List Char → Option (List Char × List Char)
  | [] => none
  | c :: rest =>
    if c = mark then some ([], rest)
    else (splitFirst? mark rest).map fun (before, after) => (c :: before, after)

def splitLast? (mark : Char) (cs : List Char) : Option (List Char × List Char) :=
  (splitFirst? mark cs.reverse).map fun (after, before) => (before.reverse, after.reverse)

def trim (cs : List Char) : List Char :=
  ((cs.dropWhile isBlank).reverse.dropWhile isBlank).reverse

def words (cs : List Char) : List (List Char) :=
  (splitBy isBlank cs).filter fun word => !word.isEmpty

/-- The text after a beginning that it has to have. -/
def dropStart? : List Char → List Char → Option (List Char)
  | [], cs => some cs
  | b :: beginning, c :: cs => if b = c then dropStart? beginning cs else none
  | _ :: _, [] => none

theorem splitBy_ne_nil (cut : Char → Bool) (cs : List Char) : splitBy cut cs ≠ [] := by
  induction cs with
  | nil => simp [splitBy]
  | cons c rest ih =>
    unfold splitBy
    split
    · simp
    · split <;> simp

end Text
end RecordStore
