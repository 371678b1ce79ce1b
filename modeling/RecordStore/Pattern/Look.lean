import RecordStore.Pattern.CharClass

/-!
# Assertions

An assertion such as a word boundary looks at the characters next to a place in a text and takes none.
-/

namespace RecordStore
namespace Pattern

/-- What an assertion asks of the place where it stands. The words are those of all scripts or ASCII ones. -/
inductive Look where
  | textStart
  | textEnd
  | lineStart
  | lineEnd
  | lineStartCrlf
  | lineEndCrlf
  | wordBoundary (allScripts : Bool)
  | notWordBoundary (allScripts : Bool)
  | wordStart (allScripts : Bool)
  | wordEnd (allScripts : Bool)
  | wordStartHalf (allScripts : Bool)
  | wordEndHalf (allScripts : Bool)
  deriving DecidableEq, Repr

namespace Look

def touches (allScripts : Bool) (side : Option Char) : Bool :=
  side.any (if allScripts then CharClass.wordChar else CharClass.asciiWordChar).mem

/-- Whether an assertion holds between two characters; a side without a character is an end of the text. -/
def holds (l : Look) (before after : Option Char) : Bool :=
  match l with
  | textStart => before.isNone
  | textEnd => after.isNone
  | lineStart => before.isNone || before = some '\n'
  | lineEnd => after.isNone || after = some '\n'
  | lineStartCrlf =>
    before.isNone || before = some '\n' || (before = some '\r' && after ≠ some '\n')
  | lineEndCrlf =>
    after.isNone || after = some '\r' || (after = some '\n' && before ≠ some '\r')
  | wordBoundary all => touches all before ≠ touches all after
  | notWordBoundary all => touches all before = touches all after
  | wordStart all => !touches all before && touches all after
  | wordEnd all => touches all before && !touches all after
  | wordStartHalf all => !touches all before
  | wordEndHalf all => !touches all after

end Look

end Pattern
end RecordStore
