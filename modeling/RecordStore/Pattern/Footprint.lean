import RecordStore.Pattern.Expression
import RecordStore.Text.Utf8
import Std.Data.HashMap

/-!
# The memory of expressions

An expression is used only if it is a long list of literals, or if two automata for it are small enough: one that
reads the bytes of a text forwards and tells its captures apart, and one that reads them backwards and does not. An
automaton takes 32 bytes for each state, 8 for each link of a state that chooses by bytes, and 4 for each way out of
a state that forks. It is built only as far as that is ten mebibytes at most, so that a repetition of a large number
of times is given up in time.

Links are laid from the end of a part to the start of the next one, so of a finished part only this is kept:
whether it ends in a fork.
-/

namespace RecordStore
namespace Pattern

open Text (CharSet)

/-- What has been built of an automaton. -/
structure Automaton where
  states : Nat
  /-- The bytes that are taken by links. -/
  links : Nat

namespace Automaton

def size (a : Automaton) : Nat := 32 * a.states + a.links

/-- The bytes that an automaton may take: ten mebibytes. -/
def limit : Nat := 10 * 1024 * 1024

def bounded? (a : Automaton) : Option Automaton :=
  if a.size ≤ limit then some a else none

end Automaton

/-- Building, which ends when the automaton becomes too large. -/
abbrev Build := StateT Automaton Option

namespace Build

def state (links : Nat) : Build Nat := fun a => do
  let grown ← Automaton.bounded? ⟨a.states + 1, a.links + links⟩
  return (a.states, grown)

def plain : Build Unit := do
  let _ ← state 0

/-- Lays a link from the end of a part, which takes memory if the part ends in a fork. -/
def link (fork : Bool) : Build Unit := fun a => do
  let grown ← Automaton.bounded? ⟨a.states, a.links + (if fork then 4 else 0)⟩
  return ((), grown)

/-- Adds a part some more times, each linked to the one before, which ends in a fork or not. -/
def more (part : Build Bool) : Nat → Bool → Build Bool
  | 0, fork => pure fork
  | count + 1, fork => do
    let next ← part
    link fork
    more part count next

def times (part : Build Bool) : Nat → Build Bool
  | 0 => do plain; return false
  | count + 1 => do more part count (← part)

/-- Adds a part some more times, each of which may be passed over, and links the last one to the end. -/
def upTo (part : Build Bool) : Nat → Bool → Build Bool
  | 0, fork => do link fork; return false
  | count + 1, fork => do
    plain
    let next ← part
    link fork
    link true
    link true
    upTo part count next

end Build

/-! ### Sets of characters -/

/-- A link for a range of bytes to a state. -/
structure Edge where
  first : Nat
  last : Nat
  target : Nat
  deriving DecidableEq

/-- States that may be used again by their links. It has a number of places, and the links of a state say which of
them is its own; a state drives out the one that had its place before. -/
structure Remembered where
  places : Nat
  states : Std.HashMap Nat (List Edge × Nat)

namespace Remembered

def mix (hash : UInt64) (n : Nat) : UInt64 :=
  (hash ^^^ n.toUInt64) * 1099511628211

def place (m : Remembered) (numbers : List Nat) : Nat :=
  (numbers.foldl mix 14695981039346656037).toNat % m.places

/-- The state at a place, if it is the one with these links. -/
def find? (m : Remembered) (place : Nat) (edges : List Edge) : Option Nat :=
  match m.states[place]? with
  | some (known, state) => if known = edges then some state else none
  | none => none

def put (m : Remembered) (place : Nat) (edges : List Edge) (state : Nat) : Remembered :=
  { m with states := m.states.insert place (edges, state) }

end Remembered

abbrev SetBuild := StateT Remembered Build

namespace SetBuild

/-- A state that chooses between links, added unless it is remembered. -/
def choice (edges : List Edge) : SetBuild Nat := do
  let place := (← get).place (edges.flatMap fun e => [e.first, e.last, e.target])
  match (← get).find? place edges with
  | some state => return state
  | none => do
    let state ← Build.state (8 * edges.length)
    modify (·.put place edges state)
    return state

mutual

/-- Adds what reads any of some spellings forwards to a target, and gives its first state. Spellings with the same
first range share what comes before them. -/
def forwards (target : Nat) : Nat → List (List (Nat × Nat)) → SetBuild Nat
  | 0, _ => return target
  | depth + 1, spellings => do
    let edges ← groups target depth (spellings.splitBy fun a b => a.head? = b.head?)
    choice edges

def groups (target depth : Nat) : List (List (List (Nat × Nat))) → SetBuild (List Edge)
  | [] => return []
  | group :: rest => do
    let tails := group.map List.tail
    let next ← if tails.all List.isEmpty then pure target else forwards target depth tails
    let edges ← groups target depth rest
    match group with
    | ((first, last) :: _) :: _ => return ⟨first, last, next⟩ :: edges
    | _ => return edges

end

/-- Adds what reads one spelling backwards to a target, from its first range on, and gives the last state. -/
def backwards (target : Nat) : List (Nat × Nat) → SetBuild Nat
  | [] => return target
  | (first, last) :: rest => do
    let edge : Edge := ⟨first, last, target⟩
    let place := (← get).place [target, first, last]
    match (← get).find? place [edge] with
    | some state => backwards state rest
    | none => do
      let state ← Build.state 0
      modify (·.put place [edge] state)
      backwards state rest

def allBackwards (target : Nat) : List (List (Nat × Nat)) → SetBuild Unit
  | [] => return
  | spelling :: rest => do
    let _ ← backwards target spelling
    Build.link true
    allBackwards target rest

/-- Adds a set of characters. -/
def build (reversed : Bool) (s : CharSet) : Build Bool := do
  let spellings := s.ranges.flatMap Text.Utf8.spellings
  if s.isAscii then
    Build.plain
    let _ ← Build.state (8 * s.ranges.length)
  else if reversed then
    Build.plain
    let target ← Build.state 0
    (allBackwards target spellings).run' ⟨1000, ∅⟩
  else
    let target ← Build.state 0
    let _ ← (forwards target 4 spellings).run' ⟨10000, ∅⟩
  return false

end SetBuild

/-! ### Alternatives that are literals -/

/-- The bytes of some literals in a tree of what comes after each byte, with the literals that end. What was added
before a literal that ends is no longer looked into. -/
inductive LiteralTree where
  | done
  | next (byte : Nat) (after rest : LiteralTree)
  | ending (rest : LiteralTree)

namespace LiteralTree

def change (byte : Nat) (f : LiteralTree → LiteralTree) : LiteralTree → LiteralTree
  | next b after rest => if b = byte then next b (f after) rest else next b after (change byte f rest)
  | t => next byte (f done) t

/-- Adds a literal that ends here, unless nothing else could follow one that does already. -/
def finish : LiteralTree → LiteralTree
  | ending done => ending done
  | t => ending t

def insert : List Nat → LiteralTree → LiteralTree
  | [], t => t.finish
  | byte :: bytes, t => t.change byte (insert bytes)

def goesOn : LiteralTree → Bool
  | done => false
  | next _ _ _ => true
  | ending rest => rest.goesOn

def choices : LiteralTree → List Nat
  | done => [0]
  | next _ _ rest =>
    match rest.choices with
    | count :: counts => (count + 1) :: counts
    | [] => [1]
  | ending rest => 0 :: rest.choices

def buildChoices : List Nat → Build Nat
  | [] => return 0
  | count :: counts => do
    if count = 1 then Build.plain
    else if 1 < count then
      let _ ← Build.state (8 * count)
    return (if count = 0 then 0 else 1) + (← buildChoices counts)

def buildFork (t : LiteralTree) : Build Unit := do
  let ways ← buildChoices t.choices
  let _ ← Build.state (4 * (ways + (t.choices.length - 1)))

def buildAfter : LiteralTree → Build Unit
  | done => return
  | next _ after rest => do
    if after.goesOn then
      after.buildFork
      after.buildAfter
    rest.buildAfter
  | ending rest => rest.buildAfter

def build (literals : List (List Nat)) : Build Bool := do
  let t := literals.foldl (fun t bytes => t.insert bytes) done
  Build.plain
  t.buildFork
  t.buildAfter
  return false

end LiteralTree

namespace Expression

def bytes? : Expression → Option (List Nat)
  | literal cs => some (cs.flatMap fun c => Text.Utf8.bytes c.toNat)
  | _ => none

mutual

/-- Adds an expression, and says whether it ends in a fork. -/
def build (reversed : Bool) : Expression → Build Bool
  | empty | look _ => do Build.plain; return false
  | literal cs => Build.times (do Build.plain; return false) (cs.foldl (fun n c => n + Text.Utf8.length c.toNat) 0)
  | oneOf s _ => SetBuild.build reversed s
  | capture body =>
    if reversed then body.build reversed
    else do
      Build.plain
      let fork ← body.build reversed
      Build.plain
      Build.link fork
      return false
  | repetition _ 0 (some 1) body => do
    Build.plain
    let fork ← body.build reversed
    Build.plain
    Build.link true
    Build.link true
    Build.link fork
    return false
  | repetition _ 0 none body =>
    if body.shortest?.any (0 < ·) then do
      Build.plain
      let fork ← body.build reversed
      Build.link true
      Build.link fork
      return true
    else do
      let fork ← body.build reversed
      Build.plain
      Build.link fork
      Build.link true
      Build.plain
      Build.plain
      Build.link true
      Build.link true
      Build.link true
      return false
  | repetition _ 1 none body => do
    let fork ← body.build reversed
    Build.plain
    Build.link fork
    Build.link true
    return true
  | repetition _ low none body => do
    let fork ← Build.times (body.build reversed) (low - 1)
    let last ← body.build reversed
    Build.plain
    Build.link fork
    Build.link last
    Build.link true
    return true
  | repetition _ low (some high) body => do
    let fork ← Build.times (body.build reversed) low
    if high ≤ low then return fork
    else do
      Build.plain
      Build.upTo (body.build reversed) (high - low) fork
  | sequence parts => buildSequence reversed parts
  | alternatives branches =>
    match branches.mapM bytes? with
    | some literals => LiteralTree.build (if reversed then literals.map List.reverse else literals)
    | none => buildAlternatives reversed branches

def buildSequence (reversed : Bool) : List Expression → Build Bool
  | [] => do Build.plain; return false
  | [e] => e.build reversed
  | e :: rest =>
    if reversed then do
      let fork ← buildSequence reversed rest
      let last ← e.build reversed
      Build.link fork
      return last
    else do
      let fork ← e.build reversed
      Build.link fork
      buildSequence reversed rest

/-- Adds expressions as ways out of one fork to one end. -/
def buildAlternatives (reversed : Bool) : List Expression → Build Bool
  | [] => do Build.plain; return false
  | [e] => e.build reversed
  | a :: b :: rest => do
    let fork ← a.build reversed
    let fork' ← b.build reversed
    Build.plain
    Build.plain
    Build.link true
    Build.link fork
    Build.link true
    Build.link fork'
    buildBranches reversed rest
    return false

def buildBranches (reversed : Bool) : List Expression → Build Unit
  | [] => return
  | e :: rest => do
    let fork ← e.build reversed
    Build.link true
    Build.link fork
    buildBranches reversed rest

end

mutual

def leads (l : Look) : Expression → Bool
  | empty | literal _ | oneOf _ _ => false
  | look m => l = m
  | repetition _ low _ body => 0 < low && body.leads l
  | capture body => body.leads l
  | sequence parts => leadsSequence l parts
  | alternatives branches => leadsAll l branches

def leadsSequence (l : Look) : List Expression → Bool
  | [] => false
  | e :: rest => e.leads l || (e.takesNone && leadsSequence l rest)

def leadsAll (l : Look) : List Expression → Bool
  | [] => true
  | e :: rest => e.leads l && leadsAll l rest

end

mutual

def trails (l : Look) : Expression → Bool
  | empty | literal _ | oneOf _ _ => false
  | look m => l = m
  | repetition _ low _ body => 0 < low && body.trails l
  | capture body => body.trails l
  | sequence parts => trailsSequence l parts
  | alternatives branches => trailsAll l branches

def trailsSequence (l : Look) : List Expression → Bool
  | [] => false
  | e :: rest => trailsSequence l rest || (takesNones rest && e.trails l)

def trailsAll (l : Look) : List Expression → Bool
  | [] => true
  | e :: rest => e.trails l && trailsAll l rest

end

/-- Builds the whole automaton of an expression. Unless a match has to start where the text does, any bytes may come
before it. -/
def buildWhole (reversed : Bool) (e : Expression) : Build Unit := do
  let anchored := if reversed then e.trails .textEnd else e.leads .textStart
  Build.plain
  if !anchored then
    Build.plain
    let _ ← Build.state 8
    Build.link true
  let fork ← (capture e).build reversed
  Build.plain
  Build.link fork
  Build.link (!anchored)

/-- Whether an expression is a long list of literals, for which no automata are needed. -/
def isLongList : Expression → Bool
  | alternatives branches => 3000 ≤ branches.length && (branches.mapM bytes?).isSome
  | _ => false

def fits (e : Expression) : Bool :=
  e.isLongList || [false, true].all fun reversed => (buildWhole reversed e ⟨0, 0⟩).isSome

/-- Whether an expression matches some part of a text; one that is too large matches nothing. -/
def matchesIn (e : Expression) (text : String) : Bool :=
  e.fits && e.regex.matchesIn text

end Expression

end Pattern
end RecordStore
