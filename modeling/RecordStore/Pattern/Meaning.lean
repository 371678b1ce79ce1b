import RecordStore.Pattern.Footprint
import RecordStore.Pattern.PropertyName
import RecordStore.Pattern.Tree.Parser

/-!
# The meaning of patterns

A pattern tree becomes an expression under flags. Flags that change inside a group hold to its end, over its
remaining branches too. Without the flag for Unicode, classes are sets of bytes; one that could take a part of a
character is refused, and that is every class that is negated.
-/

namespace RecordStore
namespace Pattern

open Text (CharSet)

structure Flags where
  ignoreCase : Bool := false
  multiLine : Bool := false
  dotAll : Bool := false
  swapGreed : Bool := false
  crlf : Bool := false
  unicode : Bool := true

namespace Flags

/-- Sets or clears one flag. How blanks are read is settled when a pattern is read. -/
def set (flags : Flags) (flag : Flag) (on : Bool) : Flags :=
  match flag with
  | .ignoreCase => { flags with ignoreCase := on }
  | .multiLine => { flags with multiLine := on }
  | .dotAll => { flags with dotAll := on }
  | .swapGreed => { flags with swapGreed := on }
  | .crlf => { flags with crlf := on }
  | .unicode => { flags with unicode := on }
  | .spaced => flags

def apply (flags : Flags) (change : FlagChange) : Flags :=
  change.settings.foldl (fun flags (flag, on) => flags.set flag on) flags

def fold (flags : Flags) (s : CharSet) : CharSet :=
  if flags.ignoreCase then if flags.unicode then CharClass.anyCase s else CharClass.anyAsciiCase s else s

/-- Negates a set if it is negated, which needs Unicode. -/
def negate? (flags : Flags) (negated : Bool) (s : CharSet) : Option CharSet :=
  if negated && !flags.unicode then none else some (.complIf negated s)

def oneOf (flags : Flags) (s : CharSet) : Expression :=
  .ofSet s flags.unicode

end Flags

def ShortClass.set? (flags : Flags) (negated : Bool) (kind : ShortClass) : Option CharSet :=
  flags.negate? negated
    (match kind, flags.unicode with
    | .digit, true => CharClass.digit
    | .blank, true => CharClass.blank
    | .word, true => CharClass.wordChar
    | .digit, false => CharClass.asciiDigit
    | .blank, false => CharClass.asciiBlank
    | .word, false => CharClass.asciiWordChar)

/-- The set of a property; there are none without Unicode. -/
def PropertyQuery.set? (flags : Flags) (negated : Bool) (query : PropertyQuery) : Option CharSet := do
  let s ← CharClass.ofQuery? query
  if flags.unicode then flags.negate? negated (flags.fold s) else none

/-- The character of a literal in a set; without Unicode it has to be ASCII. -/
def Literal.setChar? (flags : Flags) (l : Literal) : Option Char :=
  if flags.unicode || l.char.toNat < 128 then some l.char else none

mutual

def SetItem.set? (flags : Flags) : SetItem → Option CharSet
  | .literal l => (l.setChar? flags).map .single
  | .range first last => do return .range (← first.setChar? flags) (← last.setChar? flags)
  | .named name negated => flags.negate? negated (flags.fold (CharClass.asciiNamed name))
  | .short kind negated => kind.set? flags negated
  | .property query negated => query.set? flags negated
  | .bracket negated set => do flags.negate? negated (flags.fold (← set.set? flags))

def SetItem.sets? (flags : Flags) : List SetItem → Option (List CharSet)
  | [] => some []
  | item :: rest => do return (← item.set? flags) :: (← SetItem.sets? flags rest)

/-- The set that brackets hold, before case is ignored in it and before it is negated. -/
def SetTree.set? (flags : Flags) : SetTree → Option CharSet
  | .items items => (SetItem.sets? flags items).map .unions
  | .operation kind left right => do
    let left := flags.fold (← left.set? flags)
    let right := flags.fold (← right.set? flags)
    return .unions [match kind with
      | .intersection => .inter left right
      | .difference => .diff left right
      | .symmetricDifference => .symmDiff left right]

end

/-- The expression of a literal, which is a set if case is ignored. Without Unicode a literal that was written as a
byte has to be ASCII, and only ASCII letters have two cases. -/
def Literal.expression? (flags : Flags) (l : Literal) : Option Expression :=
  if !flags.unicode && l.byte && 128 ≤ l.char.toNat then none
  else if flags.ignoreCase && (flags.unicode || l.char.isAlpha) then some (flags.oneOf (flags.fold (.single l.char)))
  else some (.literal [l.char])

def dotSet? (flags : Flags) : Option CharSet :=
  if !flags.unicode then none
  else if flags.dotAll then some .all
  else if flags.crlf then some (CharSet.unions [.single '\r', .single '\n']).compl
  else some (CharSet.single '\n').compl

def Anchor.look (flags : Flags) (a : Anchor) : Look :=
  match a with
  | .caret =>
    if flags.multiLine then if flags.crlf then .lineStartCrlf else .lineStart else .textStart
  | .dollar =>
    if flags.multiLine then if flags.crlf then .lineEndCrlf else .lineEnd else .textEnd
  | .textStart => .textStart
  | .textEnd => .textEnd
  | .wordBoundary => .wordBoundary flags.unicode
  | .notWordBoundary => .notWordBoundary flags.unicode
  | .wordStart => .wordStart flags.unicode
  | .wordEnd => .wordEnd flags.unicode
  | .wordStartHalf => .wordStartHalf flags.unicode
  | .wordEndHalf => .wordEndHalf flags.unicode

mutual

/-- The expression of a pattern under flags, and the flags after it. -/
def Tree.expression? (flags : Flags) : Tree → Option (Expression × Flags)
  | .empty => some (.empty, flags)
  | .flags change => some (.empty, flags.apply change)
  | .literal l => do return (← l.expression? flags, flags)
  | .dot => do return (flags.oneOf (← dotSet? flags), flags)
  | .anchor a => some (.look (a.look flags), flags)
  | .short kind negated => do return (flags.oneOf (← kind.set? flags negated), flags)
  | .property query negated => do return (flags.oneOf (← query.set? flags negated), flags)
  | .bracket negated set => do
    return (flags.oneOf (← flags.negate? negated (flags.fold (← set.set? flags))), flags)
  | .repetition greedy low high body => do
    let (e, flags) ← body.expression? flags
    return (.repeated (greedy != flags.swapGreed) low high e, flags)
  | .group change captures body => do
    let (e, _) ← body.expression? (flags.apply change)
    return (if captures then .capture e else e, flags)
  | .sequence parts => do
    let (es, flags) ← Tree.expressions? flags [] parts
    return (.inSequence es, flags)
  | .alternatives branches => do
    let (es, flags) ← Tree.expressions? flags [] branches
    return (.either es, flags)

/-- The expressions of some patterns, each under the flags after the one before it, behind those that are done. -/
def Tree.expressions? (flags : Flags) (done : List Expression) : List Tree → Option (List Expression × Flags)
  | [] => some (done.reverse, flags)
  | part :: rest => do
    let (e, flags) ← part.expression? flags
    Tree.expressions? flags (e :: done) rest

end

def Expression.ofPattern? (pattern : String) : Option Expression := do
  let (e, _) ← (← Tree.ofText? pattern).expression? {}
  return e

/-- Whether a pattern matches some part of a text; an invalid pattern matches nothing. -/
def matchesIn (pattern text : String) : Bool :=
  (Expression.ofPattern? pattern).any (·.matchesIn text)

end Pattern
end RecordStore
