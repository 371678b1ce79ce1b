import RecordStore.Proofs.Pattern.Budget
import RecordStore.Proofs.Pattern.Sequence
import RecordStore.Query.Operator

/-!
# Wildcard patterns match what they say

`Wildcard` is what a wildcard pattern says of a text, without any translation. The translation of a pattern is read
back piece by piece, whatever characters it holds, and matches a text exactly if the pattern says so.
-/

namespace RecordStore
namespace Pattern

/-! ### Reading the translation -/

namespace Tree

theorem metaCharacters : "\\.+*?()|[]\x7b\x7d^$#&-~".toList =
    ['\\', '.', '+', '*', '?', '(', ')', '|', '[', ']', '\x7b', '\x7d', '^', '$', '#', '&', '-', '~'] := by
  decide +kernel

/-- Characters that are operators between or around the parts of a pattern. -/
def isOperator (c : Char) : Bool :=
  [')', '|', '[', '?', '*', '+', '\x7b', '('].contains c

variable {c : Char} {rest : List Char} {p : Progress} {steps : Nat}

theorem isOperator_of_isMeta (plain : isMeta c = false) : isOperator c = false := by
  unfold isMeta at plain
  rw [metaCharacters] at plain
  simp_all [isOperator]

theorem escape?_meta (special : isMeta c = true) : escape? false (c :: rest) = some (.literal ⟨c, false⟩, rest) := by
  unfold isMeta at special
  rw [metaCharacters] at special
  simp only [List.contains_cons, List.contains_nil, Bool.or_false, Bool.or_eq_true, beq_iff_eq] at special
  rcases special with rfl | rfl | rfl | rfl | rfl | rfl | rfl | rfl | rfl | rfl | rfl | rfl | rfl | rfl | rfl | rfl |
    rfl | rfl <;> rfl

theorem skip_false (cs : List Char) : skip false cs = cs := rfl

theorem atom?_plain (plain : isMeta c = false) : atom? false (c :: rest) = some (.literal ⟨c, false⟩, rest) := by
  unfold atom?
  split
  case h_5 =>
    rename_i same
    obtain ⟨rfl, rfl⟩ := List.cons.inj same
    rfl
  case h_6 =>
    rename_i same
    cases same
  all_goals
    rename_i same
    obtain ⟨rfl, rfl⟩ := List.cons.inj same
    cases plain

theorem body?_nil (compact : p.spaced = false) : body? (steps + 1) p [] = some (p, []) := by
  rw [body?, compact, skip_false]

/-- What is no operator is read as a part of its own. -/
theorem body?_atom (compact : p.spaced = false) (operand : isOperator c = false) :
    body? (steps + 1) p (c :: rest) =
      (atom? false (c :: rest)).bind fun (atom, rest) => body? steps (p.push atom.tree) rest := by
  rw [body?, compact, skip_false]
  split
  case h_10 => rfl
  all_goals
    rename_i same
    cases same
    try cases operand

/-- A star repeats the last part, as often as it can unless a question mark follows. -/
theorem body?_star (compact : p.spaced = false) {parts : List Tree} (last : p.parts = .dot :: parts)
    (greedy : rest.head? ≠ some '?') :
    body? (steps + 1) p ('*' :: rest) =
      body? steps { p with parts := .repetition true 0 none .dot :: parts } rest := by
  have whole : greed rest = (true, rest) := by
    unfold greed
    split
    · exact absurd rfl greedy
    · rfl
  rw [body?, compact, skip_false]
  simp only [whole, Progress.repeat?, last, repeatLast?, Option.map_some, bind, Option.bind, compact]

end Tree

namespace Like

open RecordStore.Pattern.Tree

/-- The part of a pattern that the translation of a piece is read as. -/
def Piece.tree : Piece → Tree
  | .run => .repetition true 0 none .dot
  | .oneChar => .dot
  | .literal c => .literal ⟨c, false⟩

/-- No translation starts with the mark that would make a repetition before it take as little as it can. -/
theorem head?_written (ps : List Piece) : (ps.flatMap Piece.written ++ ['$']).head? ≠ some '?' := by
  cases ps with
  | nil => simp
  | cons piece rest =>
    cases piece with
    | run | oneChar => simp [Piece.written]
    | literal c =>
      by_cases special : isMeta c
      · simp [Piece.written, special]
      · have apart : c ≠ '?' := by
          rintro rfl
          exact special (by decide +kernel)
        simp [Piece.written, special, apart]

/-- The translation of a piece is read back as one part, in no more steps than it has characters. -/
theorem body?_piece (piece : Piece) {p : Progress} (compact : p.spaced = false) {rest : List Char}
    (greedy : rest.head? ≠ some '?') (n : Nat) :
    ∃ m, n ≤ m ∧
      body? (n + piece.written.length) p (piece.written ++ rest) = body? m (p.push piece.tree) rest := by
  cases piece with
  | run =>
    refine ⟨n, Nat.le_refl n, (body?_atom compact (by decide)).trans ?_⟩
    exact body?_star (p := p.push .dot) compact rfl greedy
  | oneChar => exact ⟨n, Nat.le_refl n, body?_atom compact (by decide)⟩
  | literal c =>
    cases special : isMeta c with
    | true =>
      refine ⟨n + 1, Nat.le_succ n, ?_⟩
      simp only [Piece.written, special, if_true, List.length_cons, List.length_nil, List.cons_append, List.nil_append]
      rw [body?_atom compact (by decide), atom?, escape?_meta special]
      rfl
    | false =>
      refine ⟨n, Nat.le_refl n, ?_⟩
      simp only [Piece.written, special, Bool.false_eq_true, if_false, List.length_cons, List.length_nil,
        List.cons_append, List.nil_append]
      rw [body?_atom compact (isOperator_of_isMeta special), atom?_plain special]
      rfl

/-- The translation of pieces is read back piece by piece. -/
theorem body?_written (ps : List Piece) {p : Progress} (compact : p.spaced = false) {steps : Nat}
    (enough : (ps.flatMap Piece.written ++ ['$']).length < steps) :
    body? steps p (ps.flatMap Piece.written ++ ['$']) =
      some ({ p with parts := .anchor .dollar :: ((ps.map Piece.tree).reverse ++ p.parts) }, []) := by
  induction ps generalizing p steps with
  | nil =>
    obtain ⟨n, rfl⟩ : ∃ n, steps = n + 2 := ⟨steps - 2, by simp at enough; omega⟩
    rw [List.flatMap_nil, List.nil_append, body?_atom compact (by decide)]
    exact body?_nil compact
  | cons piece rest ih =>
    rw [List.flatMap_cons, List.append_assoc] at enough ⊢
    rw [List.length_append] at enough
    obtain ⟨n, rfl⟩ : ∃ n, steps = n + piece.written.length := ⟨steps - piece.written.length, by omega⟩
    obtain ⟨m, more, read⟩ := body?_piece piece compact (head?_written rest) n
    rw [read, ih (p := p.push piece.tree) compact (by omega)]
    simp [Progress.push]

def tree (pattern : String) : Tree :=
  .sequence (.flags ⟨[(.dotAll, true)]⟩ :: .anchor .caret ::
    (pieces pattern.toList).map Piece.tree ++ [.anchor .dollar])

theorem depths_pieces (ps : List Piece) : Tree.depths (ps.map Piece.tree ++ [.anchor .dollar]) ≤ 1 := by
  induction ps with
  | nil => decide
  | cons piece rest ih =>
    refine Nat.max_le.mpr ⟨?_, ih⟩
    cases piece <;> simp [Piece.tree, Tree.depth]

/-- The flag in front of a translation lets the dot take every character. -/
theorem body?_front (steps : Nat) (rest : List Char) :
    body? (steps + 1) .start ('(' :: '?' :: 's' :: ')' :: rest) =
      body? steps (Progress.start.push (.flags ⟨[(.dotAll, true)]⟩)) rest := rfl

theorem ofText?_translation (pattern : String) : Tree.ofText? (translation pattern) = some (tree pattern) := by
  have front : "(?s)^".toList = ['(', '?', 's', ')', '^'] := by decide +kernel
  have caret (p : Progress) (compact : p.spaced = false) (steps : Nat) (rest : List Char) :
      body? (steps + 1) p ('^' :: rest) = body? steps (p.push (.anchor .caret)) rest :=
    body?_atom compact (by decide)
  unfold Tree.ofText? translation
  rw [String.toList_ofList, front, List.append_assoc]
  simp only [List.cons_append, List.nil_append, List.length_cons]
  rw [body?_front, caret _ rfl, body?_written _ rfl (by omega)]
  have depth : (tree pattern).depth ≤ maxDepth := by
    have parts := Nat.max_le.mpr ⟨Nat.zero_le 1, Nat.max_le.mpr ⟨Nat.zero_le 1, depths_pieces (pieces pattern.toList)⟩⟩
    exact Nat.le_trans (Nat.add_le_add_left parts 1) (by decide)
  have read (p : Progress) (same : p.parts = .anchor .dollar ::
      (((pieces pattern.toList).map Piece.tree).reverse ++ [.anchor .caret, .flags ⟨[(.dotAll, true)]⟩]))
      (first : p.branches = []) : p.tree = tree pattern := by
    rw [Progress.tree, first, same]
    simp [ofBranches, ofSequence, tree]
  simp only [Option.bind_eq_bind, Option.bind_some, List.isEmpty_nil, Bool.true_and, decide_eq_true_eq]
  rw [read _ rfl rfl, if_pos depth]

/-! ### The expression -/

def Piece.expression : Piece → Expression
  | .run => .repeated true 0 none (.ofSet .all true)
  | .oneChar => .ofSet .all true
  | .literal c => .literal [c]

theorem expressions?_pieces (ps : List Piece) (flags : Flags) (greedy : flags.swapGreed = false)
    (cased : flags.ignoreCase = false) (scripts : flags.unicode = true) (whole : flags.dotAll = true)
    (done : List Expression) (rest : List Tree) :
    Tree.expressions? flags done (ps.map Piece.tree ++ rest) =
      Tree.expressions? flags ((ps.map Piece.expression).reverse ++ done) rest := by
  induction ps generalizing done with
  | nil => rfl
  | cons piece more ih =>
    have one : piece.tree.expression? flags = some (piece.expression, flags) := by
      cases piece <;>
        simp [Piece.tree, Piece.expression, Tree.expression?, dotSet?, Literal.expression?, Flags.oneOf, greedy, cased,
          scripts, whole]
    rw [List.map_cons, List.cons_append, Tree.expressions?, one]
    simp [ih]

/-- The expressions of a translation: the pieces between the two ends of the text, behind the flag. -/
def expressions (pattern : String) : List Expression :=
  .empty :: .look .textStart :: (pieces pattern.toList).map Piece.expression ++ [.look .textEnd]

/-- A pattern is always translated into a valid one. -/
theorem ofPattern?_translation (pattern : String) :
    Expression.ofPattern? (translation pattern) = some (.inSequence (expressions pattern)) := by
  -- the flag and the caret are read first, and leave the flags that the pieces are read under
  have parts := expressions?_pieces (pieces pattern.toList) { dotAll := true } rfl rfl rfl rfl
    [.look .textStart, .empty] [.anchor .dollar]
  have read : (tree pattern).expression? {} = some (.inSequence (expressions pattern), { dotAll := true }) := by
    have whole : Tree.expressions? {} [] (.flags ⟨[(.dotAll, true)]⟩ :: .anchor .caret ::
        ((pieces pattern.toList).map Piece.tree ++ [.anchor .dollar])) = _ := parts
    have last (done : List Expression) (flags : Flags) (text : flags.multiLine = false) :
        Tree.expressions? flags done [.anchor .dollar] = some ((.look .textEnd :: done).reverse, flags) := by
      simp [Tree.expressions?, Tree.expression?, Anchor.look, text]
    rw [last _ _ rfl] at whole
    simp only [tree, Tree.expression?, List.cons_append, whole, Option.bind_eq_bind, Option.bind_some]
    simp [expressions]
  unfold Expression.ofPattern?
  rw [ofText?_translation]
  simp only [Option.bind_eq_bind, Option.bind_some, read]
  rfl

end Like

/-! ### What a wildcard pattern says -/

/-- A whole text matches a wildcard pattern. -/
inductive Wildcard : List Char → List Char → Prop where
  | done : Wildcard [] []
  /-- A percent sign takes any run of characters. -/
  | run (taken : List Char) {pattern text : List Char} (later : Wildcard pattern text) :
    Wildcard ('%' :: pattern) (taken ++ text)
  /-- An underscore takes any one character. -/
  | oneChar (c : Char) {pattern text : List Char} (later : Wildcard pattern text) :
    Wildcard ('_' :: pattern) (c :: text)
  /-- Behind a backslash every character takes itself. -/
  | escaped (c : Char) {pattern text : List Char} (later : Wildcard pattern text) :
    Wildcard ('\\' :: c :: pattern) (c :: text)
  /-- A backslash at the end takes nothing. -/
  | dangling : Wildcard ['\\'] []
  /-- Any other character takes itself. -/
  | plain (c : Char) {pattern text : List Char} (ordinary : c ≠ '%' ∧ c ≠ '_' ∧ c ≠ '\\')
    (later : Wildcard pattern text) : Wildcard (c :: pattern) (c :: text)

namespace Like

theorem leads_any {p q : Place} : (Expression.ofSet .all true).regex.Leads p q ↔ Place.Step p q := by
  constructor
  · rintro ⟨c, rest, here, -, rfl⟩
    obtain ⟨before, text⟩ := p
    obtain rfl := here
    exact .across before c rest
  · rintro ⟨before, c, rest⟩
    exact ⟨c, rest, rfl, Text.CharSet.mem_all c, rfl⟩

theorem leads_oneChar {p q : Place} : Piece.oneChar.expression.regex.Leads p q ↔ Place.Step p q :=
  leads_any

theorem leads_run {p q : Place} : Piece.run.expression.regex.Leads p q ↔ Place.Later p q := by
  refine Regex.leads_star.trans ?_
  have same : (Expression.ofSet .all true).regex.Leads = Place.Step := by
    funext p q
    exact propext leads_any
  unfold Place.Later
  rw [← same]

theorem leads_literal {c : Char} {p q : Place} :
    (Piece.literal c).expression.regex.Leads p q ↔ ∃ rest, p.rest = c :: rest ∧ q = ⟨some c, rest⟩ := by
  refine Expression.leads_literal.trans (Regex.chain_singleton.trans ?_)
  constructor
  · rintro ⟨d, rest, here, taken, rfl⟩
    rw [Text.CharSet.mem_single, decide_eq_true_eq] at taken
    subst taken
    exact ⟨rest, here, rfl⟩
  · rintro ⟨rest, here, rfl⟩
    exact ⟨c, rest, here, by rw [Text.CharSet.mem_single, decide_eq_true_eq], rfl⟩

theorem exists_taken {p q : Place} (later : Place.Later p q) : ∃ taken, p.rest = taken ++ q.rest := by
  induction later using Relation.ReflTransGen.head_induction_on with
  | refl => exact ⟨[], rfl⟩
  | head step _ ih =>
    obtain ⟨taken, split⟩ := ih
    cases step with
    | across before c rest => exact ⟨c :: taken, congrArg (c :: ·) split⟩

theorem later_append (before : Option Char) (taken text : List Char) :
    ∃ last, Place.Later ⟨before, taken ++ text⟩ ⟨last, text⟩ := by
  induction taken generalizing before with
  | nil => exact ⟨before, .refl⟩
  | cons c rest ih =>
    obtain ⟨last, later⟩ := ih (some c)
    exact ⟨last, .head (.across before c (rest ++ text)) later⟩

theorem pieces_plain {c : Char} (ordinary : c ≠ '%' ∧ c ≠ '_' ∧ c ≠ '\\') (rest : List Char) :
    pieces (c :: rest) = .literal c :: pieces rest := by
  obtain ⟨notRun, notOne, notEscape⟩ := ordinary
  rw [pieces]
  · exact notRun
  · exact notOne
  · exact fun same _ => notEscape same
  · exact fun _ _ same _ => notEscape same

/-- The pieces of a pattern lead from a place to the end of the text if the pattern takes the whole rest. -/
theorem chain_pieces (pattern : List Char) (before : Option Char) (text : List Char) :
    (∃ q, Regex.Chain ((pieces pattern).map fun piece => piece.expression.regex) ⟨before, text⟩ q ∧ q.rest = []) ↔
      Wildcard pattern text := by
  -- a character that takes itself, however it is written
  have itself {c : Char} {rest : List Char} {before : Option Char} {text : List Char}
      (ih : ∀ before text, (∃ q, Regex.Chain ((pieces rest).map fun piece => piece.expression.regex)
        ⟨before, text⟩ q ∧ q.rest = []) ↔ Wildcard rest text) :
      (∃ q, Regex.Chain ((Piece.literal c :: pieces rest).map fun piece => piece.expression.regex) ⟨before, text⟩ q ∧
        q.rest = []) ↔ ∃ more, text = c :: more ∧ Wildcard rest more := by
    constructor
    · rintro ⟨q, ⟨m, first, later⟩, ended⟩
      obtain ⟨more, here, rfl⟩ := leads_literal.mp first
      exact ⟨more, here, (ih _ _).mp ⟨q, later, ended⟩⟩
    · rintro ⟨more, rfl, matched⟩
      obtain ⟨q, later, ended⟩ := (ih (some c) more).mpr matched
      exact ⟨q, ⟨_, leads_literal.mpr ⟨more, rfl, rfl⟩, later⟩, ended⟩
  induction pattern using pieces.induct generalizing before text with
  | case1 =>
    constructor
    · rintro ⟨q, rfl, ended⟩
      obtain rfl : text = [] := ended
      exact .done
    · rintro ⟨⟩
      exact ⟨_, rfl, rfl⟩
  | case2 rest ih =>
    rw [pieces]
    constructor
    · rintro ⟨q, ⟨⟨last, left⟩, first, later⟩, ended⟩
      obtain ⟨taken, split⟩ := exists_taken (leads_run.mp first)
      obtain rfl : text = taken ++ left := split
      exact .run taken ((ih last left).mp ⟨q, later, ended⟩)
    · intro matched
      cases matched with
      | run taken matched =>
        obtain ⟨last, there⟩ := later_append before taken _
        obtain ⟨q, later, ended⟩ := (ih last _).mpr matched
        exact ⟨q, ⟨_, leads_run.mpr there, later⟩, ended⟩
      | plain _ ordinary => exact absurd rfl ordinary.1
  | case3 rest ih =>
    rw [pieces]
    constructor
    · rintro ⟨q, ⟨m, first, later⟩, ended⟩
      cases leads_oneChar.mp first with
      | across before c more => exact .oneChar c ((ih _ _).mp ⟨q, later, ended⟩)
    · intro matched
      cases matched with
      | oneChar c matched =>
        obtain ⟨q, later, ended⟩ := (ih (some c) _).mpr matched
        exact ⟨q, ⟨_, leads_oneChar.mpr (.across before c _), later⟩, ended⟩
      | plain _ ordinary => exact absurd rfl ordinary.2.1
  | case4 =>
    constructor
    · rintro ⟨q, rfl, ended⟩
      obtain rfl : text = [] := ended
      exact .dangling
    · intro matched
      cases matched with
      | dangling => exact ⟨_, rfl, rfl⟩
      | plain _ ordinary => exact absurd rfl ordinary.2.2
  | case5 c rest ih =>
    rw [pieces, itself ih]
    constructor
    · rintro ⟨more, rfl, matched⟩
      exact .escaped c matched
    · intro matched
      cases matched with
      | escaped _ matched => exact ⟨_, rfl, matched⟩
      | plain _ ordinary => exact absurd rfl ordinary.2.2
  | case6 c rest notRun notOne notAlone notEscape ih =>
    have ordinary : c ≠ '%' ∧ c ≠ '_' ∧ c ≠ '\\' := by
      refine ⟨notRun, notOne, fun same => ?_⟩
      cases rest with
      | nil => exact notAlone same rfl
      | cons d more => exact notEscape d more same rfl
    rw [pieces_plain ordinary, itself ih]
    constructor
    · rintro ⟨more, rfl, matched⟩
      exact .plain c ordinary matched
    · intro matched
      cases matched with
      | plain _ _ matched => exact ⟨_, rfl, matched⟩
      | run => exact absurd rfl ordinary.1
      | oneChar => exact absurd rfl ordinary.2.1
      | escaped | dangling => exact absurd rfl ordinary.2.2

/-- The expression of a translation matches the texts that the pattern takes. -/
theorem matchesIn_translation (pattern text : String) :
    (Expression.inSequence (expressions pattern)).regex.matchesIn text = true ↔
      Wildcard pattern.toList text.toList := by
  have ends {p q : Place} : (Expression.inSequence (expressions pattern)).regex.Leads p q ↔
      p.before = none ∧ Regex.Chain ((pieces pattern.toList).map fun piece => piece.expression.regex) p q ∧
        q.rest = [] := by
    rw [Expression.leads_inSequence, expressions, List.map_append, Regex.chain_append]
    simp only [List.map_cons, List.map_map]
    constructor
    · rintro ⟨m, ⟨_, rfl, _, ⟨started, rfl⟩, chain⟩, _, ⟨ended, rfl⟩, rfl⟩
      exact ⟨Option.isNone_iff_eq_none.mp started, chain,
        List.head?_eq_none_iff.mp (Option.isNone_iff_eq_none.mp ended)⟩
    · rintro ⟨started, chain, ended⟩
      exact ⟨q, ⟨p, rfl, p, ⟨Option.isNone_iff_eq_none.mpr started, rfl⟩, chain⟩,
        q, ⟨Option.isNone_iff_eq_none.mpr (List.head?_eq_none_iff.mpr ended), rfl⟩, rfl⟩
  rw [Regex.matchesIn_iff, ← chain_pieces pattern.toList none]
  constructor
  · rintro ⟨p, q, later, leads⟩
    obtain ⟨first, chain, ended⟩ := ends.mp leads
    -- only the first place of a text has no character before it
    obtain rfl : p = ⟨none, text.toList⟩ := by
      rcases Relation.ReflTransGen.cases_tail later with rfl | ⟨m, -, ⟨before, c, rest⟩⟩
      · rfl
      · cases first
    exact ⟨q, chain, ended⟩
  · rintro ⟨q, chain, ended⟩
    exact ⟨_, q, .refl, ends.mpr ⟨rfl, chain, ended⟩⟩

/-! ### The size of the expression -/

theorem length_pieces (pattern : List Char) : (pieces pattern).length ≤ pattern.length := by
  induction pattern using pieces.induct with
  | case1 => exact Nat.le_refl 0
  | case4 => decide
  | case2 rest ih | case3 rest ih =>
    rw [pieces]
    exact Nat.succ_le_succ ih
  | case5 c rest ih =>
    rw [pieces]
    exact Nat.succ_le_succ (Nat.le_succ_of_le ih)
  | case6 c rest notRun notOne notAlone notEscape ih =>
    rw [pieces]
    · exact Nat.succ_le_succ ih
    all_goals assumption

theorem modest_expression (piece : Piece) : piece.expression.Modest := by
  cases piece with
  | run => exact Expression.modest_run
  | oneChar => exact Expression.modest_any
  | literal c => exact Expression.modest_literal [c]

theorem parts_expressions (pattern : String) : (expressions pattern).flatMap Expression.parts =
    .look .textStart :: (pieces pattern.toList).map Piece.expression ++ [.look .textEnd] := by
  have alone (piece : Piece) : piece.expression.parts = [piece.expression] := by
    cases piece <;> rfl
  have between : ((pieces pattern.toList).map Piece.expression).flatMap Expression.parts =
      (pieces pattern.toList).map Piece.expression := by
    rw [List.flatMap_map]
    simp only [alone, List.map_eq_flatMap]
  simp [expressions, between, Expression.parts]

/-- Eight thousand characters are never too many, whatever they say. -/
theorem fits_expressions {pattern : String} (short : pattern.length ≤ 8000) :
    (Expression.inSequence (expressions pattern)).fits = true := by
  have each : ∀ e ∈ (expressions pattern).flatMap Expression.parts, e.Modest := by
    rw [parts_expressions]
    simp only [List.mem_append, List.mem_cons, List.mem_map, List.not_mem_nil, or_false]
    rintro e ((rfl | ⟨piece, -, rfl⟩) | rfl)
    · exact Expression.modest_look _
    · exact modest_expression piece
    · exact Expression.modest_look _
  have room (ps : List Piece) : Expression.rooms (ps.map Piece.expression ++ [.look .textEnd]) =
      1300 * (ps.length + 1) := by
    induction ps with
    | nil => rfl
    | cons piece rest ih =>
      have one : piece.expression.room = 1300 := by
        cases piece <;> rfl
      rw [List.map_cons, List.cons_append, Expression.rooms, one, ih, List.length_cons]
      omega
  have whole : Expression.rooms ((expressions pattern).flatMap Expression.parts) =
      1300 + 1300 * ((pieces pattern.toList).length + 1) := by
    rw [parts_expressions, List.cons_append, Expression.rooms, room]
    rfl
  have length : (pieces pattern.toList).length ≤ pattern.length := length_pieces pattern.toList
  have fused := Expression.rooms_fuse ((expressions pattern).flatMap Expression.parts)
  refine Expression.fits_of_within (fun reversed => ?_) (?_ : 216 + 1300 * 8003 ≤ Automaton.limit)
  · rw [Expression.build_inSequence]
    exact (Expression.within_buildSequence reversed (Expression.modest_fuse each)).mono (by omega)
  · decide

end Like
end Pattern

namespace Query

open Pattern (Expression Wildcard)

/-- Every string is a wildcard pattern, and unless its expression is too large, which eight thousand characters never
are, a value is like it exactly if the pattern takes the whole text of the value. What is no string is like nothing, and
the negated operator is the negation. -/
theorem like_iff_wildcard :
    (∀ pattern : String, ∃ e, Expression.ofPattern? (Pattern.Like.translation pattern) = some e ∧
      (pattern.length ≤ 8000 → e.fits = true) ∧
      ∀ value : Value, Operator.like.holds value (.string pattern) = true ↔
        e.fits = true ∧ Wildcard pattern.toList value.patternText.toList) ∧
    (∀ value operand : Value, (∀ pattern, operand ≠ .string pattern) → Operator.like.holds value operand = false) ∧
    ∀ value operand : Value, Operator.notLike.holds value operand = !Operator.like.holds value operand := by
  refine ⟨fun pattern => ⟨_, Pattern.Like.ofPattern?_translation pattern, Pattern.Like.fits_expressions,
    fun value => ?_⟩, fun value operand other => ?_, fun value operand => rfl⟩
  · rw [← Pattern.Like.matchesIn_translation]
    change Pattern.matchesIn (Pattern.Like.translation pattern) value.patternText = true ↔ _
    unfold Pattern.matchesIn
    rw [Pattern.Like.ofPattern?_translation, Option.any_some, Expression.matchesIn, Bool.and_eq_true]
  · cases operand with
    | string pattern => exact absurd rfl (other pattern)
    | _ => rfl

theorem escaped_run_like :
    Operator.like.holds (.string "a.\nb%c") (.string "a.%\\%_\\") = true ∧
      Operator.like.holds (.string "ax%c") (.string "a.%\\%_\\") = false ∧
      Operator.like.holds (.string "a") .null = false := by
  have characters : "a.%\\%_\\".toList = ['a', '.', '%', '\\', '%', '_', '\\'] := by decide +kernel
  obtain ⟨e, -, fits, like⟩ := like_iff_wildcard.1 "a.%\\%_\\"
  rw [characters] at like
  refine ⟨(like _).mpr ⟨fits (by decide +kernel), ?_⟩, ?_, like_iff_wildcard.2.1 _ _ (by simp)⟩
  · have text : (Value.string "a.\nb%c").patternText.toList = ['a', '.'] ++ (['\n', 'b'] ++ ['%', 'c']) := by
      decide +kernel
    rw [text]
    exact .plain 'a' (by decide) (.plain '.' (by decide) (.run ['\n', 'b'] (.escaped '%' (.oneChar 'c' .dangling))))
  · have text : (Value.string "ax%c").patternText.toList = ['a', 'x', '%', 'c'] := by decide +kernel
    refine Bool.eq_false_iff.mpr fun matched => ?_
    have taken := ((like _).mp matched).2
    rw [text] at taken
    cases taken with
    | plain _ _ taken => cases taken

end Query
end RecordStore
