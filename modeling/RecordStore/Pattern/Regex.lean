import RecordStore.Pattern.Look

/-!
# Regular expressions

A regular expression is matched by marking: a copy of the expression carries a mark at every class that has just
taken a character. One pass over the copy moves all marks over the next character, so a search takes time in
proportion to the lengths of expression and text, and no marks are ever forgotten or repeated. A part without marks
is passed over unless a match may start in it. `search` starts a match at every place of a text and says whether
one of them ends anywhere.
-/

namespace RecordStore
namespace Pattern

open Text (CharSet)

/-- A regular expression. -/
inductive Regex where
  /-- Takes no character. -/
  | empty
  /-- Takes no character and asks something of the place. -/
  | look (l : Look)
  /-- Takes one character of a set. -/
  | one (s : CharSet)
  | cat (a b : Regex)
  | alt (a b : Regex)
  /-- Once or more often. -/
  | plus (a : Regex)

namespace Regex

/-- Joins the first `count` expressions of a list in a tree of even depth, and gives the others. -/
def joinFirst (join : Regex → Regex → Regex) (unit : Regex) (count : Nat) (rs : List Regex) :
    Regex × List Regex :=
  if count < 2 then
    match count, rs with
    | 1, r :: rest => (r, rest)
    | _, rs => (unit, rs)
  else
    let (a, rest) := joinFirst join unit (count / 2) rs
    let (b, rest) := joinFirst join unit (count - count / 2) rest
    (join a b, rest)
termination_by count
decreasing_by all_goals omega

def cats (rs : List Regex) : Regex :=
  (joinFirst cat empty rs.length rs).1

def alts (rs : List Regex) : Regex :=
  (joinFirst alt (one .empty) rs.length rs).1

def opt (a : Regex) : Regex := alt a empty

def star (a : Regex) : Regex := opt (plus a)

/-- A number of times, as two halves. -/
def times (a : Regex) (n : Nat) : Regex :=
  if n = 0 then empty
  else if n = 1 then a
  else
    let half := times a (n / 2)
    if n % 2 = 0 then cat half half else cat a (cat half half)
termination_by n
decreasing_by omega

/-- At most a number of times: the greater half of it or not, and then at most the rest. -/
def upTo (a : Regex) (n : Nat) : Regex :=
  if n = 0 then empty
  else if n = 1 then opt a
  else cat (opt (times a (n - n / 2))) (upTo a (n / 2))
termination_by n
decreasing_by omega

def counted (a : Regex) (low : Nat) : Option Nat → Regex
  | none => if low = 0 then star a else if low = 1 then plus a else cat (times a (low - 1)) (plus a)
  | some high =>
    if high ≤ low then times a low
    else if low = 0 then upTo a high
    else cat (times a low) (upTo a (high - low))

end Regex

/-- A regular expression with marks at the sets that have just taken a character. A part with parts of its own says
whether there is a mark in it. -/
inductive Marked where
  | empty
  | look (l : Look)
  | one (marked : Bool) (s : CharSet)
  | cat (marked : Bool) (a b : Marked)
  | alt (marked : Bool) (a b : Marked)
  | plus (marked : Bool) (a : Marked)

def Regex.unmarked : Regex → Marked
  | .empty => .empty
  | .look l => .look l
  | .one s => .one false s
  | .cat a b => .cat false a.unmarked b.unmarked
  | .alt a b => .alt false a.unmarked b.unmarked
  | .plus a => .plus false a.unmarked

namespace Marked

def isMarked : Marked → Bool
  | empty | look _ => false
  | one marked _ | cat marked _ _ | alt marked _ _ | plus marked _ => marked

/-- Whether a match ends behind the expression at a place between two characters: one in progress, or one that
enters the expression there and takes nothing. -/
def leaves (before after : Option Char) : Bool → Marked → Bool
  | enter, empty => enter
  | enter, look l => enter && l.holds before after
  | _, one marked _ => marked
  | enter, cat marked a b => (marked || enter) && b.leaves before after (a.leaves before after enter)
  | enter, alt marked a b => (marked || enter) && (a.leaves before after enter || b.leaves before after enter)
  | enter, plus marked a => (marked || enter) && a.leaves before after enter

/-- What holds of an expression at a place, and the expression after the next character. -/
structure Shifted where
  /-- Whether a match ends behind the expression at the place. -/
  leaves : Bool
  next : Marked

/-- Moves all marks over the next character; with `enter` a match may also start before it. -/
def shift (before : Option Char) (c : Char) : Bool → Marked → Shifted
  | enter, empty => ⟨enter, empty⟩
  | enter, look l => ⟨enter && l.holds before (some c), look l⟩
  | enter, one marked s => ⟨marked, one (enter && s.mem c) s⟩
  | enter, cat marked a b =>
    if marked || enter then
      let x := a.shift before c enter
      let y := b.shift before c x.leaves
      ⟨y.leaves, cat (x.next.isMarked || y.next.isMarked) x.next y.next⟩
    else ⟨false, cat marked a b⟩
  | enter, alt marked a b =>
    if marked || enter then
      let x := a.shift before c enter
      let y := b.shift before c enter
      ⟨x.leaves || y.leaves, alt (x.next.isMarked || y.next.isMarked) x.next y.next⟩
    else ⟨false, alt marked a b⟩
  | enter, plus marked a =>
    if marked || enter then
      let x := a.shift before c (enter || a.leaves before (some c) false)
      ⟨x.leaves, plus x.next.isMarked x.next⟩
    else ⟨false, plus marked a⟩

/-- Whether a match that is in progress, or that starts at any place from here on, ends somewhere. -/
def search (before : Option Char) (m : Marked) : List Char → Bool
  | [] => m.leaves before none true
  | c :: rest =>
    let x := m.shift before c true
    x.leaves || search (some c) x.next rest

end Marked

def Regex.matchesIn (r : Regex) (text : String) : Bool :=
  r.unmarked.search none text.toList

end Pattern
end RecordStore
