import RecordStore.Pattern.Meaning

/-!
# Wildcard patterns

In a wildcard pattern `%` stands for any run of characters and `_` for any one character. A backslash makes the
character after it stand for itself; at the end of a pattern it stands for nothing. Every other character stands
for itself. A wildcard pattern is translated into a pattern that is held at both ends of the text.
-/

namespace RecordStore
namespace Pattern
namespace Like

inductive Piece where
  | run
  | oneChar
  | literal (c : Char)
  deriving DecidableEq, Repr

def pieces : List Char → List Piece
  | [] => []
  | '%' :: rest => .run :: pieces rest
  | '_' :: rest => .oneChar :: pieces rest
  | ['\\'] => []
  | '\\' :: c :: rest => .literal c :: pieces rest
  | c :: rest => .literal c :: pieces rest

/-- The pattern for a piece. A character with a meaning of its own is escaped. -/
def Piece.written : Piece → List Char
  | .run => ['.', '*']
  | .oneChar => ['.']
  | .literal c => if Tree.isMeta c then ['\\', c] else [c]

/-- The pattern that a wildcard pattern is translated into. The dot takes ends of lines too. -/
def translation (pattern : String) : String :=
  String.ofList ("(?s)^".toList ++ (pieces pattern.toList).flatMap Piece.written ++ ['$'])

def holds (pattern text : String) : Bool :=
  matchesIn (translation pattern) text

end Like
end Pattern
end RecordStore
