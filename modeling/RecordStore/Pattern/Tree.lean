/-!
# Pattern trees

A pattern as it is written: literals, classes, groups, repetitions and changes of flags, before flags and names of
properties have been given their meaning.
-/

namespace RecordStore
namespace Pattern

inductive Flag where
  | ignoreCase
  | multiLine
  | dotAll
  | swapGreed
  | unicode
  | crlf
  | spaced
  deriving DecidableEq, Repr

structure FlagChange where
  settings : List (Flag × Bool)
  deriving Repr

namespace FlagChange

def setting? (change : FlagChange) (flag : Flag) : Option Bool :=
  change.settings.lookup flag

end FlagChange

/-- A literal character. One written as a two-digit escape counts as a byte where bytes are matched. -/
structure Literal where
  char : Char
  byte : Bool := false
  deriving Repr

inductive Anchor where
  | caret
  | dollar
  | textStart
  | textEnd
  | wordBoundary
  | notWordBoundary
  | wordStart
  | wordEnd
  | wordStartHalf
  | wordEndHalf
  deriving DecidableEq, Repr

inductive ShortClass where
  | digit
  | blank
  | word
  deriving DecidableEq, Repr

/-- A class given by a property: by one name, or by the name of a property and a value. -/
inductive PropertyQuery where
  | name (name : String)
  | value (property value : String)
  deriving DecidableEq, Repr

inductive SetOperation where
  | intersection
  | difference
  | symmetricDifference
  deriving DecidableEq, Repr

mutual

inductive SetItem where
  | literal (l : Literal)
  | range (first last : Literal)
  | named (name : String) (negated : Bool)
  | short (kind : ShortClass) (negated : Bool)
  | property (query : PropertyQuery) (negated : Bool)
  | bracket (negated : Bool) (set : SetTree)

inductive SetTree where
  | items (items : List SetItem)
  | operation (kind : SetOperation) (left right : SetTree)

end

inductive Tree where
  | empty
  | flags (change : FlagChange)
  | literal (l : Literal)
  | dot
  | anchor (a : Anchor)
  | short (kind : ShortClass) (negated : Bool)
  | property (query : PropertyQuery) (negated : Bool)
  | bracket (negated : Bool) (set : SetTree)
  /-- A repetition takes as much as it can if it is greedy, and else as little. -/
  | repetition (greedy : Bool) (low : Nat) (high : Option Nat) (body : Tree)
  | group (change : FlagChange) (captures : Bool) (body : Tree)
  | sequence (parts : List Tree)
  | alternatives (branches : List Tree)

namespace Tree

/-- Parts one after another, without a level for none or one. -/
def ofSequence : List Tree → Tree
  | [] => empty
  | [part] => part
  | parts => sequence parts

def ofBranches : List Tree → Tree
  | [] => empty
  | [branch] => branch
  | branches => alternatives branches

end Tree

mutual

def SetItem.depth : SetItem → Nat
  | .bracket _ set => 1 + set.depth
  | _ => 0

def SetItem.depths : List SetItem → Nat
  | [] => 0
  | item :: rest => Nat.max item.depth (SetItem.depths rest)

/-- How many levels a set has; two items and more make a level of their own. -/
def SetTree.depth : SetTree → Nat
  | .items [] => 0
  | .items [item] => item.depth
  | .items (item :: rest) => 1 + Nat.max item.depth (SetItem.depths rest)
  | .operation _ left right => 1 + Nat.max left.depth right.depth

end

mutual

def Tree.depth : Tree → Nat
  | .bracket _ set => 1 + set.depth
  | .repetition _ _ _ body => 1 + body.depth
  | .group _ _ body => 1 + body.depth
  | .sequence parts => 1 + Tree.depths parts
  | .alternatives branches => 1 + Tree.depths branches
  | _ => 0

def Tree.depths : List Tree → Nat
  | [] => 0
  | part :: rest => Nat.max part.depth (Tree.depths rest)

end

end Pattern
end RecordStore
