import RecordStore.Pattern.Tree
import RecordStore.Text.Letter
import RecordStore.Value.Parser

/-!
# Reading patterns

The grammar of patterns. Where blanks are ignored, a `#` starts a comment that lasts to the end of the line.
Look-around, back references, repeated names of groups, empty changes of flags and operators with nothing to
repeat are refused. The reader's steps are bounded by the length of the pattern, since every step takes at least
one character.
-/

namespace RecordStore
namespace Pattern
namespace Tree

/-- The text after blanks and comments; `inComment` says whether it starts inside a comment. -/
def skipLayout (inComment : Bool) : List Char → List Char
  | [] => []
  | c :: rest =>
    if inComment then skipLayout (c ≠ '\n') rest
    else if Text.isBlank c then skipLayout false rest
    else if c = '#' then skipLayout true rest
    else c :: rest

def skip (spaced : Bool) (cs : List Char) : List Char :=
  if spaced then skipLayout false cs else cs

/-- Characters with a meaning of their own, which a backslash takes away. -/
def isMeta (c : Char) : Bool :=
  "\\.+*?()|[]\x7b\x7d^$#&-~".toList.contains c

/-- Characters that may be escaped without need: ASCII other than letters, digits and angle brackets. -/
def isEscapable (c : Char) : Bool :=
  isMeta c || (c.toNat < 128 && !c.isAlphanum && c ≠ '<' && c ≠ '>')

def charOfNat? (n : Nat) : Option Char :=
  if n.isValidChar then some (Char.ofNat n) else none

def hexDigits? (spaced : Bool) : Nat → Nat → List Char → Option (Nat × List Char)
  | 0, n, cs => some (n, cs)
  | count + 1, n, c :: rest => do hexDigits? spaced count (n * 16 + (← Value.hexDigit? c)) (skip spaced rest)
  | _ + 1, _, [] => none

/-- Reads hexadecimal digits up to a closing brace; there has to be one at least. -/
def hexBrace? (spaced : Bool) : Nat → Bool → Nat → List Char → Option (Nat × List Char)
  | 0, _, _, _ => none
  | steps + 1, some?, n, cs =>
    match cs with
    | [] => none
    | c :: rest =>
      if c = '\x7d' then if some? then some (n, skip spaced rest) else none
      else do hexBrace? spaced steps true (n * 16 + (← Value.hexDigit? c)) (skip spaced rest)

def hexEscape? (spaced : Bool) (width : Nat) (cs : List Char) : Option (Literal × List Char) :=
  match skip spaced cs with
  | '\x7b' :: rest => do
    let rest := skip spaced rest
    let (n, rest) ← hexBrace? spaced (rest.length + 1) false 0 rest
    return (⟨← charOfNat? n, false⟩, rest)
  | cs => do
    let (n, rest) ← hexDigits? spaced width 0 cs
    return (⟨← charOfNat? n, width = 2⟩, rest)

def bracedName? (spaced : Bool) : Nat → List Char → List Char → Option (List Char × List Char)
  | 0, _, _ => none
  | steps + 1, done, cs =>
    match cs with
    | [] => none
    | c :: rest =>
      if c = '\x7d' then some (done.reverse, rest)
      else bracedName? spaced steps (c :: done) (skip spaced rest)

def splitUnequal? : List Char → Option (List Char × List Char)
  | '!' :: '=' :: rest => some ([], rest)
  | c :: rest => (splitUnequal? rest).map fun (before, after) => (c :: before, after)
  | [] => none

/-- The query that a name in braces spells, and whether it asks for all other characters. A property and its value
have `!=`, a colon or `=` between them. -/
def query (name : List Char) : PropertyQuery × Bool :=
  match splitUnequal? name with
  | some (kind, value) => (.value (String.ofList kind) (String.ofList value), true)
  | none =>
    match (Text.splitFirst? ':' name).orElse fun _ => Text.splitFirst? '=' name with
    | some (kind, value) => (.value (String.ofList kind) (String.ofList value), false)
    | none => (.name (String.ofList name), false)

/-- Reads a class given by a property, after the letter of the escape: what it asks for, and whether the name asks
for all other characters. -/
def property? (spaced : Bool) (cs : List Char) : Option ((PropertyQuery × Bool) × List Char) :=
  match skip spaced cs with
  | [] => none
  | '\x7b' :: rest => do
    let rest := skip spaced rest
    let (name, rest) ← bracedName? spaced (rest.length + 1) [] rest
    return (query name, rest)
  | c :: rest =>
    if c = '\\' then none else some ((.name (String.singleton c), false), skip spaced rest)

/-- What an escape or a single character stands for. -/
inductive Atom where
  | literal (l : Literal)
  | short (kind : ShortClass) (negated : Bool)
  | property (query : PropertyQuery) (negated : Bool)
  | anchor (a : Anchor)
  | dot

def isBoundaryNameChar (c : Char) : Bool :=
  c.isAlpha || c = '-'

def boundaryName? (spaced : Bool) : Nat → List Char → List Char → Option (String × List Char)
  | 0, _, _ => none
  | steps + 1, done, cs =>
    match cs with
    | [] => none
    | c :: rest =>
      if isBoundaryNameChar c then boundaryName? spaced steps (c :: done) (skip spaced rest)
      else if c = '\x7d' then some (String.ofList done.reverse, rest)
      else none

def boundary? (spaced : Bool) (cs : List Char) : Option (Anchor × List Char) :=
  match cs with
  | '\x7b' :: rest =>
    match skip spaced rest with
    | [] => none
    | c :: inner =>
      if !isBoundaryNameChar c then some (.wordBoundary, cs)
      else do
        let (name, rest) ← boundaryName? spaced (inner.length + 2) [] (c :: inner)
        match name with
        | "start" => some (.wordStart, rest)
        | "end" => some (.wordEnd, rest)
        | "start-half" => some (.wordStartHalf, rest)
        | "end-half" => some (.wordEndHalf, rest)
        | _ => none
  | _ => some (.wordBoundary, cs)

def escape? (spaced : Bool) : List Char → Option (Atom × List Char)
  | [] => none
  | c :: rest =>
    match c with
    | 'x' => (hexEscape? spaced 2 rest).map fun (l, rest) => (.literal l, rest)
    | 'u' => (hexEscape? spaced 4 rest).map fun (l, rest) => (.literal l, rest)
    | 'U' => (hexEscape? spaced 8 rest).map fun (l, rest) => (.literal l, rest)
    | 'p' => (property? spaced rest).map fun ((q, unequal), rest) => (.property q unequal, rest)
    | 'P' => (property? spaced rest).map fun ((q, unequal), rest) => (.property q (!unequal), rest)
    | 'd' => some (.short .digit false, rest)
    | 's' => some (.short .blank false, rest)
    | 'w' => some (.short .word false, rest)
    | 'D' => some (.short .digit true, rest)
    | 'S' => some (.short .blank true, rest)
    | 'W' => some (.short .word true, rest)
    | 'a' => some (.literal ⟨Char.ofNat 0x07, false⟩, rest)
    | 'f' => some (.literal ⟨Char.ofNat 0x0C, false⟩, rest)
    | 't' => some (.literal ⟨'\t', false⟩, rest)
    | 'n' => some (.literal ⟨'\n', false⟩, rest)
    | 'r' => some (.literal ⟨'\r', false⟩, rest)
    | 'v' => some (.literal ⟨Char.ofNat 0x0B, false⟩, rest)
    | 'A' => some (.anchor .textStart, rest)
    | 'z' => some (.anchor .textEnd, rest)
    | 'b' => (boundary? spaced rest).map fun (a, rest) => (.anchor a, rest)
    | 'B' => some (.anchor .notWordBoundary, rest)
    | '<' => some (.anchor .wordStart, rest)
    | '>' => some (.anchor .wordEnd, rest)
    | c => if isEscapable c then some (.literal ⟨c, false⟩, rest) else none

def atom? (spaced : Bool) : List Char → Option (Atom × List Char)
  | '\\' :: rest => escape? spaced rest
  | '.' :: rest => some (.dot, rest)
  | '^' :: rest => some (.anchor .caret, rest)
  | '$' :: rest => some (.anchor .dollar, rest)
  | c :: rest => some (.literal ⟨c, false⟩, rest)
  | [] => none

def setAtom? (spaced : Bool) : List Char → Option (Atom × List Char)
  | '\\' :: rest => escape? spaced rest
  | c :: rest => some (.literal ⟨c, false⟩, rest)
  | [] => none

/-- The item of a set that an atom makes; assertions cannot be items. -/
def Atom.item? : Atom → Option SetItem
  | .literal l => some (.literal l)
  | .short kind negated => some (.short kind negated)
  | .property q negated => some (.property q negated)
  | _ => none

def Atom.tree : Atom → Tree
  | .literal l => .literal l
  | .short kind negated => .short kind negated
  | .property q negated => .property q negated
  | .anchor a => .anchor a
  | .dot => .dot

/-- The character that decides what a hyphen in a set stands for: the next one, or where blanks are ignored the next
one that is neither a blank nor the start of a comment. What a comment holds may decide it too. -/
def decider? (spaced inComment : Bool) : List Char → Option Char
  | [] => none
  | c :: rest =>
    if spaced && Text.isBlank c then decider? spaced inComment rest
    else if spaced && !inComment && c = '#' then decider? spaced true rest
    else some c

/-- Reads one item of a set: a character, an escape, or a range between two characters. A hyphen makes a range unless
the set ends or a second hyphen comes after it. -/
def setItem? (spaced : Bool) (cs : List Char) : Option (SetItem × List Char) := do
  let (first, rest) ← setAtom? spaced cs
  let rest := skip spaced rest
  match rest with
  | [] => none
  | '-' :: after =>
    match decider? spaced false after with
    | some ']' | some '-' => return (← first.item?, rest)
    | _ => do
      let (last, rest) ← setAtom? spaced (skip spaced after)
      match first, last with
      | .literal first, .literal last =>
        if first.char ≤ last.char then some (.range first last, rest) else none
      | _, _ => none
  | _ => return (← first.item?, rest)

def asciiNames : List String :=
  ["alnum", "alpha", "ascii", "blank", "cntrl", "digit", "graph", "lower", "print", "punct", "space", "upper",
    "word", "xdigit"]

def namedClass? (cs : List Char) : Option (SetItem × List Char) :=
  match cs with
  | ':' :: rest =>
    let (negated, rest) :=
      match rest with
      | '^' :: rest => (true, rest)
      | _ => (false, rest)
    let name := String.ofList (rest.takeWhile (· ≠ ':'))
    match rest.dropWhile (· ≠ ':') with
    | ':' :: ']' :: rest => if asciiNames.contains name then some (.named name negated, rest) else none
    | _ => none
  | _ => none

/-- Reads hyphens at the front of a set, which stand for themselves. -/
def leadingHyphens (spaced : Bool) : Nat → List SetItem → List Char → List SetItem × List Char
  | 0, done, cs => (done, cs)
  | steps + 1, done, cs =>
    match cs with
    | '-' :: rest => leadingHyphens spaced steps (.literal ⟨'-', false⟩ :: done) (skip spaced rest)
    | _ => (done, cs)

/-- Reads the front of a set after its opening bracket: whether it is negated, and the characters that stand
for themselves there. The items are in reverse order. -/
def setFront? (spaced : Bool) (cs : List Char) : Option (Bool × List SetItem × List Char) :=
  let (negated, cs) :=
    match skip spaced cs with
    | '^' :: rest => (true, skip spaced rest)
    | cs => (false, cs)
  let (hyphens, cs) := leadingHyphens spaced cs.length [] cs
  match hyphens, cs with
  | _, [] => none
  | [], ']' :: rest =>
    match skip spaced rest with
    | [] => none
    | rest => some (negated, [.literal ⟨']', false⟩], rest)
  | hyphens, cs => some (negated, hyphens, cs)

/-- A set in progress: what stands before the last operation, if there was one. -/
abbrev Pending := Option (SetOperation × SetTree)

def complete (pending : Pending) (items : List SetItem) : SetTree :=
  match pending with
  | none => .items items.reverse
  | some (kind, left) => .operation kind left (.items items.reverse)

/-- How many levels a pattern may have. -/
def maxDepth : Nat := 250

def set? (spaced : Bool) : Nat → Nat → Pending → List SetItem → List Char → Option (SetTree × List Char)
  | 0, _, _, _, _ => none
  | steps + 1, level, pending, items, cs =>
    match skip spaced cs with
    | [] => none
    | '[' :: rest =>
      match namedClass? rest with
      | some (item, rest) => set? spaced steps level pending (item :: items) rest
      | none => do
        if level = maxDepth then none
        let (negated, front, rest) ← setFront? spaced rest
        let (inner, rest) ← set? spaced steps (level + 1) none front rest
        set? spaced steps level pending (.bracket negated inner :: items) rest
    | ']' :: rest => some (complete pending items, rest)
    | '&' :: '&' :: rest => set? spaced steps level (some (.intersection, complete pending items)) [] rest
    | '-' :: '-' :: rest => set? spaced steps level (some (.difference, complete pending items)) [] rest
    | '~' :: '~' :: rest => set? spaced steps level (some (.symmetricDifference, complete pending items)) [] rest
    | cs => do
      let (item, rest) ← setItem? spaced cs
      set? spaced steps level pending (item :: items) rest

def bracket? (spaced : Bool) (cs : List Char) : Option (Tree × List Char) := do
  let (negated, front, rest) ← setFront? spaced cs
  let (set, rest) ← set? spaced (rest.length + 1) 1 none front rest
  return (.bracket negated set, rest)

/-- The digits at the front of a text, and the text after them. Where blanks are ignored there may be blanks and
comments between the digits; `inComment` says whether the text starts inside a comment. -/
def spacedDigits (spaced inComment : Bool) : List Char → List Nat × List Char
  | [] => ([], [])
  | c :: rest =>
    if inComment then spacedDigits spaced (c ≠ '\n') rest
    else
      match Value.digit? c with
      | some d =>
        let (more, rest) := spacedDigits spaced false rest
        (d :: more, rest)
      | none =>
        if spaced && Text.isBlank c then spacedDigits spaced false rest
        else if spaced && c = '#' then spacedDigits spaced true rest
        else ([], c :: rest)

/-- Reads a decimal number with blanks around it, below two to the power of 32. -/
def decimal? (spaced : Bool) (cs : List Char) : Option (Nat × List Char) :=
  let (ds, rest) := spacedDigits spaced false (cs.dropWhile Text.isBlank)
  let n := Value.ofDigits ds
  if ds.isEmpty || UInt32.size ≤ n then none else some (n, skip spaced (rest.dropWhile Text.isBlank))

/-- What comes after an operator that repeats: whether the repetition is greedy, and the text after the mark that
says it is not. -/
def greed (cs : List Char) : Bool × List Char :=
  match cs with
  | '?' :: rest => (false, rest)
  | _ => (true, cs)

def bounds? (spaced : Bool) (cs : List Char) : Option ((Nat × Option Nat) × List Char) := do
  let (low, rest) ← decimal? spaced (skip spaced cs)
  let (high, rest) ←
    match rest with
    | ',' :: rest =>
      match skip spaced rest with
      | '\x7d' :: rest => some (none, '\x7d' :: rest)
      | rest => (decimal? spaced rest).map fun (high, rest) => (some high, rest)
    | rest => some (some low, rest)
  match rest with
  | '\x7d' :: rest =>
    if high.all (low ≤ ·) then some ((low, high), skip spaced rest) else none
  | _ => none

/-- Puts the last part under a repetition; there has to be one, and a change of flags is none. -/
def repeatLast? (greedy : Bool) (low : Nat) (high : Option Nat) (parts : List Tree) : Option (List Tree) :=
  match parts with
  | [] | .empty :: _ | .flags _ :: _ => none
  | last :: parts => some (.repetition greedy low high last :: parts)

def flag? : Char → Option Flag
  | 'i' => some .ignoreCase
  | 'm' => some .multiLine
  | 's' => some .dotAll
  | 'U' => some .swapGreed
  | 'u' => some .unicode
  | 'R' => some .crlf
  | 'x' => some .spaced
  | _ => none

/-- Reads flags up to a colon or a closing parenthesis, which stays in the text. -/
def flags? : Bool → Bool → List (Flag × Bool) → List Char → Option (FlagChange × List Char)
  | _, _, _, [] => none
  | negated, dangling, done, c :: rest =>
    if c = ':' || c = ')' then if dangling then none else some (⟨done.reverse⟩, c :: rest)
    else if c = '-' then if negated then none else flags? true true done rest
    else
      match flag? c with
      | some flag =>
        if (done.lookup flag).isSome then none else flags? negated false ((flag, !negated) :: done) rest
      | none => none

/-- Characters of the names of groups; fewer may come first. -/
def isGroupNameChar (first : Bool) (c : Char) : Bool :=
  if first then c = '_' || Text.isAlphabetic c
  else c = '_' || c = '.' || c = '[' || c = ']' || Text.isAlphanumeric c

def groupName? : List Char → List Char → Option (String × List Char)
  | _, [] => none
  | done, c :: rest =>
    if c = '>' then if done.isEmpty then none else some (String.ofList done.reverse, rest)
    else if isGroupNameChar done.isEmpty c then groupName? (c :: done) rest
    else none

inductive GroupFront where
  | flags (change : FlagChange)
  | group (change : FlagChange) (captures : Bool)
  | named (name : String)

def groupFront? (spaced : Bool) (cs : List Char) : Option (GroupFront × List Char) :=
  match skip spaced cs with
  | '?' :: '=' :: _ | '?' :: '!' :: _ | '?' :: '<' :: '=' :: _ | '?' :: '<' :: '!' :: _ => none
  | '?' :: 'P' :: '<' :: rest => (groupName? [] rest).map fun (name, rest) => (.named name, rest)
  | '?' :: '<' :: rest => (groupName? [] rest).map fun (name, rest) => (.named name, rest)
  | '?' :: rest => do
    let (change, rest) ← flags? false false [] rest
    match rest with
    | ')' :: rest => if change.settings.isEmpty then none else some (.flags change, rest)
    | ':' :: rest => some (.group change false, rest)
    | _ => none
  | rest => some (.group ⟨[]⟩ true, rest)

/-- A reader's result: the branches of a group so far and the names of groups that have been used. -/
structure Progress where
  spaced : Bool
  /-- How many groups are open. -/
  level : Nat
  names : List String
  branches : List Tree
  parts : List Tree

namespace Progress

def start : Progress := ⟨false, 0, [], [], []⟩

def push (p : Progress) (part : Tree) : Progress :=
  { p with parts := part :: p.parts }

def branch (p : Progress) : Progress :=
  { p with branches := ofSequence p.parts.reverse :: p.branches, parts := [] }

def repeat? (p : Progress) (greedy : Bool) (low : Nat) (high : Option Nat) : Option Progress :=
  (repeatLast? greedy low high p.parts).map fun parts => { p with parts := parts }

/-- Opens a group, if a pattern may have that many levels. -/
def open? (p : Progress) (spaced : Bool) (names : List String) : Option Progress :=
  if p.level = maxDepth then none else some ⟨spaced, p.level + 1, names, [], []⟩

def tree (p : Progress) : Tree :=
  ofBranches (ofSequence p.parts.reverse :: p.branches).reverse

def close (p : Progress) (change : FlagChange) (captures : Bool) (inner : Progress) : Progress :=
  { p.push (.group change captures inner.tree) with names := inner.names }

end Progress

/-- Reads the branches of a group up to its closing parenthesis, which stays in the text, or to the end. -/
def body? : Nat → Progress → List Char → Option (Progress × List Char)
  | 0, _, _ => none
  | steps + 1, p, cs =>
    match skip p.spaced cs with
    | [] => some (p, [])
    | ')' :: rest => some (p, ')' :: rest)
    | '|' :: rest => body? steps p.branch rest
    | '[' :: rest => do
      let (set, rest) ← bracket? p.spaced rest
      body? steps (p.push set) rest
    | '?' :: rest => do
      let (greedy, rest) := greed rest
      body? steps (← p.repeat? greedy 0 (some 1)) rest
    | '*' :: rest => do
      let (greedy, rest) := greed rest
      body? steps (← p.repeat? greedy 0 none) rest
    | '+' :: rest => do
      let (greedy, rest) := greed rest
      body? steps (← p.repeat? greedy 1 none) rest
    | '\x7b' :: rest => do
      let ((low, high), rest) ← bounds? p.spaced rest
      let (greedy, rest) := greed rest
      body? steps (← p.repeat? greedy low high) rest
    | '(' :: rest => do
      match ← groupFront? p.spaced rest with
      | (.flags change, rest) =>
        let spaced := (change.setting? .spaced).getD p.spaced
        body? steps { p.push (.flags change) with spaced := spaced } rest
      | (.group change captures, rest) => do
        let inner ← p.open? ((change.setting? .spaced).getD p.spaced) p.names
        let (inner, rest) ← body? steps inner rest
        match rest with
        | ')' :: rest => body? steps (p.close change captures inner) rest
        | _ => none
      | (.named name, rest) => do
        if p.names.contains name then none
        let inner ← p.open? p.spaced (name :: p.names)
        let (inner, rest) ← body? steps inner rest
        match rest with
        | ')' :: rest => body? steps (p.close ⟨[]⟩ true inner) rest
        | _ => none
    | cs => do
      let (atom, rest) ← atom? p.spaced cs
      body? steps (p.push atom.tree) rest

/-- Reads a pattern, if it has no more levels than it may have. -/
def ofText? (text : String) : Option Tree := do
  let cs := text.toList
  let (p, rest) ← body? (cs.length + 1) .start cs
  if rest.isEmpty && p.tree.depth ≤ maxDepth then some p.tree else none

end Tree
end Pattern
end RecordStore
