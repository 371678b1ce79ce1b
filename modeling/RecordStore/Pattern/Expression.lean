import RecordStore.Pattern.Regex

/-!
# Expressions

An expression is a pattern without flags and names, in a simple form that its constructors keep: literals next to
each other are one, a sequence has no sequences, empty parts or less than two parts, alternatives have no
alternatives among them, single characters and sets as alternatives are one set, and what all alternatives start
with stands in front of them. How much memory an expression takes depends on this form; what it matches does not.
-/

namespace RecordStore
namespace Pattern

open Text (CharSet)

/-- A pattern whose flags and names have been given their meaning. -/
inductive Expression where
  | empty
  | literal (cs : List Char)
  /-- One character of a set. Sets of all scripts and sets of ASCII characters are told apart. -/
  | oneOf (s : CharSet) (allScripts : Bool)
  | look (l : Look)
  | repetition (greedy : Bool) (low : Nat) (high : Option Nat) (body : Expression)
  | capture (body : Expression)
  | sequence (parts : List Expression)
  | alternatives (branches : List Expression)

namespace Expression

/-! ### Lengths -/

mutual

def takesNone : Expression → Bool
  | empty | look _ => true
  | literal _ | oneOf _ _ => false
  | repetition _ _ high body => high.isSome && body.takesNone
  | capture body => body.takesNone
  | sequence parts => takesNones parts
  | alternatives branches => takesNones branches

def takesNones : List Expression → Bool
  | [] => true
  | e :: rest => e.takesNone && takesNones rest

end

mutual

/-- The number of characters that an expression takes at least, if it can match at all. -/
def shortest? : Expression → Option Nat
  | empty | look _ => some 0
  | literal cs => some cs.length
  | oneOf s _ => if s.ranges.isEmpty then none else some 1
  | repetition _ low _ body => body.shortest?.map (low * ·)
  | capture body => body.shortest?
  | sequence parts => shortestSum? parts
  | alternatives branches => (shortests? branches).bind List.min?

def shortestSum? : List Expression → Option Nat
  | [] => some 0
  | e :: rest => do return (← e.shortest?) + (← shortestSum? rest)

def shortests? : List Expression → Option (List Nat)
  | [] => some []
  | e :: rest => do return (← e.shortest?) :: (← shortests? rest)

end

/-! ### Constructors -/

/-- One character of a set; for a set of one character, that character. -/
def ofSet (s : CharSet) (allScripts : Bool) : Expression :=
  match s.ranges with
  | [] => oneOf .empty false
  | [(first, last)] => if first = last then literal [Char.ofNat first] else oneOf s allScripts
  | _ => oneOf s allScripts

def never : Expression := ofSet .empty false

/-- A repetition. What takes no character is repeated at most once. -/
def repeated (greedy : Bool) (low : Nat) (high : Option Nat) (body : Expression) : Expression :=
  let (low, high) :=
    if body.takesNone then (Nat.min low 1, some (high.elim 1 (Nat.min 1 ·))) else (low, high)
  if low = 0 && high = some 0 then empty
  else if low = 1 && high = some 1 then body
  else repetition greedy low high body

def parts : Expression → List Expression
  | empty => []
  | sequence es => es
  | e => [e]

/-- Makes one of literals that are next to each other. -/
def fuse : List Expression → List Expression
  | [] => []
  | e :: rest =>
    match e, fuse rest with
    | literal a, literal b :: rest => literal (a ++ b) :: rest
    | e, rest => e :: rest

def inSequence (es : List Expression) : Expression :=
  match fuse (es.flatMap parts) with
  | [] => empty
  | [e] => e
  | es => sequence es

def branches : Expression → List Expression
  | alternatives es => es
  | e => [e]

def char? : Expression → Option Char
  | literal [c] => some c
  | _ => none

def set? : Expression → Option CharSet
  | oneOf s _ => some s
  | _ => none

def branchSet? (es : List Expression) : Option CharSet :=
  ((es.mapM char?).map fun cs => CharSet.unions (cs.map .single)).orElse fun _ =>
    (es.mapM set?).map CharSet.unions

mutual

/-- Whether two expressions are the same. Captures are not: each has a number of its own. -/
def same : Expression → Expression → Bool
  | empty, empty => true
  | literal a, literal b => a = b
  | oneOf s allScripts, oneOf t allScripts' => s = t && allScripts = allScripts'
  | look l, look m => l = m
  | repetition greedy low high a, repetition greedy' low' high' b =>
    greedy = greedy' && low = low' && high = high' && a.same b
  | sequence a, sequence b => sames a b
  | alternatives a, alternatives b => sames a b
  | _, _ => false

def sames : List Expression → List Expression → Bool
  | [], [] => true
  | a :: as, b :: bs => a.same b && sames as bs
  | _, _ => false

end

def commonParts : List Expression → List Expression → List Expression
  | a :: as, b :: bs => if a.same b then a :: commonParts as bs else []
  | _, _ => []

def sequenceParts : Expression → List Expression
  | sequence es => es
  | _ => []

def commonStart (es : List Expression) : List Expression :=
  match es with
  | [] => []
  | e :: rest => rest.foldl (fun common e => commonParts common e.sequenceParts) e.sequenceParts

def beside (es : List Expression) : Expression :=
  match es.flatMap branches with
  | [] => never
  | [e] => e
  | es =>
    match branchSet? es with
    | some s => ofSet s true
    | none => alternatives es

/-- Expressions beside each other. What is left of alternatives without their common start has none. -/
def either (es : List Expression) : Expression :=
  match beside es with
  | alternatives es =>
    match commonStart es with
    | [] => alternatives es
    | common => inSequence (common ++ [beside (es.map fun e => inSequence (e.parts.drop common.length))])
  | e => e

/-! ### Meaning -/

mutual

def regex : Expression → Regex
  | empty => .empty
  | literal cs => .cats (cs.map fun c => .one (.single c))
  | oneOf s _ => .one s
  | look l => .look l
  | repetition _ low high body => body.regex.counted low high
  | capture body => body.regex
  | sequence parts => .cats (regexes parts)
  | alternatives branches => .alts (regexes branches)

def regexes : List Expression → List Regex
  | [] => []
  | e :: rest => e.regex :: regexes rest

end

end Expression

end Pattern
end RecordStore
