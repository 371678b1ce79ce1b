import RecordStore.Query.Error
import RecordStore.Query.Operator
import RecordStore.Text.Split
import RecordStore.Value.Parser

/-!
# Statements

A statement runs over one collection, one clause on each line:

    FOR i IN @@collection
        FILTER i.@field_0_0 == @field_0_eq
            AND i.@field_1_0 ANY >= @field_1_any_gte
        SORT i.@sort_0_0 DESC, i.@sort_1_0
        LIMIT 0, 10
        RETURN i

The first line names the loop variable and the collection, and the last returns the loop variable. Between them
clauses may come in any order and more than once: conditions and sort keys add up, and the last limit counts.
Segments of paths and operands are parameters, with an `@`, or literals.
-/

namespace RecordStore
namespace Query

/-- A part of a statement that is written out, or that a bound value stands in for. -/
inductive Term where
  | literal (value : Value)
  | parameter (name : String)
  deriving Repr

structure Condition where
  path : List Term
  operator : Operator
  operand : Term
  deriving Repr

structure SortKey where
  path : List Term
  descending : Bool
  deriving Repr

/-- A statement. The limit is how many results are left out first, and how many are kept of the rest. -/
structure Statement where
  source : Term
  conditions : List Condition := []
  sort : List SortKey := []
  limit : Option (Nat × Nat) := none
  deriving Repr

namespace Statement

/-- A segment of a path: a parameter after an `@`, else the name itself. -/
def segment : List Char → Term
  | '@' :: name => .parameter (String.ofList name)
  | name => .literal (.string (String.ofList name))

/-- Reads a path, which starts with the loop variable and has one segment more at least. -/
def readPath (loop text : List Char) : Except QueryError (List Term) :=
  match Text.splitBy (· = '.') text with
  | first :: rest =>
    if first ≠ loop then .error (.foreignPath (String.ofList loop) (String.ofList text))
    else if rest.isEmpty then .error (.emptyPath (String.ofList text))
    else .ok (rest.map segment)
  | [] => .error (.emptyPath (String.ofList text))

def readOperand (word : List Char) : Except QueryError Term :=
  match word with
  | '@' :: name => .ok (.parameter (String.ofList name))
  | _ =>
    match Value.ofText? (String.ofList word) with
    | some value => .ok (.literal value)
    | none => .error (.invalidOperand (String.ofList word))

def readLoop (line : List Char) : Except QueryError (List Char × Term) :=
  match Text.words line with
  | [['F', 'O', 'R'], loop, ['I', 'N'], source] =>
    match source with
    | '@' :: '@' :: name => .ok (loop, .parameter (String.ofList ('@' :: name)))
    | _ => .ok (loop, .literal (.string (String.ofList source)))
  | _ => .error (.noLoop (String.ofList line))

def readCondition (loop text : List Char) : Except QueryError Condition :=
  match Text.words text with
  | path :: second :: third :: rest => do
    let later := second :: third :: rest
    let symbol := " ".intercalate (later.dropLast.map String.ofList)
    match Operator.read? symbol with
    | none => .error (.unknownOperator symbol)
    | some operator => do
      let path ← readPath loop path
      let operand ← readOperand ((third :: rest).getLast (by simp))
      return ⟨path, operator, operand⟩
  | _ => .error (.incompleteCondition (String.ofList text))

/-- Reads the direction of a sort key in either case; `true` stands for descending. -/
def readDirection? (word : List Char) : Option Bool :=
  match word.map Char.toUpper with
  | ['A', 'S', 'C'] => some false
  | ['D', 'E', 'S', 'C'] => some true
  | _ => none

def readSortKey (loop text : List Char) : Except QueryError SortKey :=
  let invalid := QueryError.invalidSortKey (String.ofList (Text.trim text))
  match Text.words text with
  | [path] => do return ⟨← readPath loop path, false⟩
  | [path, direction] =>
    match readDirection? direction with
    | some descending => do return ⟨← readPath loop path, descending⟩
    | none => .error invalid
  | _ => .error invalid

/-- The number that a text of digits spells, with or without a plus sign, below two to the power of 64. -/
def natural? (text : List Char) : Option Nat :=
  let digits :=
    match text with
    | '+' :: rest => rest
    | _ => text
  if digits.isEmpty || !digits.all (fun c => (Value.digit? c).isSome) then none
  else
    let n := Value.ofDigits (digits.filterMap Value.digit?)
    if n < UInt64.size then some n else none

def readNumber (text : List Char) : Except QueryError Nat :=
  match natural? (Text.trim text) with
  | some n => .ok n
  | none => .error (.invalidLimit (String.ofList (Text.trim text)))

/-- Reads a limit: a count, or an offset and a count. -/
def readLimit (text : List Char) : Except QueryError (Nat × Nat) :=
  match Text.splitFirst? ',' text with
  | some (offset, count) => do return (← readNumber offset, ← readNumber count)
  | none => do return (0, ← readNumber text)

inductive Clause where
  | filter (text : List Char)
  | also (text : List Char)
  | sort (text : List Char)
  | limit (text : List Char)
  | output (text : List Char)
  | unsupported

/-- The clause that a line is, by the word that it starts with. -/
def clause (line : List Char) : Clause :=
  match Text.dropStart? "FILTER ".toList line with
  | some text => .filter text
  | none =>
    match Text.dropStart? "AND ".toList line with
    | some text => .also text
    | none =>
      match Text.dropStart? "SORT ".toList line with
      | some text => .sort text
      | none =>
        match Text.dropStart? "LIMIT ".toList line with
        | some text => .limit text
        | none =>
          match Text.dropStart? "RETURN ".toList line with
          | some text => .output text
          | none => .unsupported

def readClauses (loop : List Char) : Statement → List (List Char) → Except QueryError Statement
  | _, [] => .error .noReturn
  | s, line :: rest =>
    match clause line with
    | .filter text => do
      let condition ← readCondition loop text
      readClauses loop { s with conditions := s.conditions ++ [condition] } rest
    | .also text =>
      if s.conditions.isEmpty then .error .andWithoutFilter
      else do
        let condition ← readCondition loop text
        readClauses loop { s with conditions := s.conditions ++ [condition] } rest
    | .sort text => do
      let keys ← (Text.splitBy (· = ',') text).mapM (readSortKey loop)
      readClauses loop { s with sort := s.sort ++ keys } rest
    | .limit text => do
      let limit ← readLimit text
      readClauses loop { s with limit := some limit } rest
    | .output text =>
      if Text.trim text ≠ loop then .error (.foreignReturn (String.ofList loop))
      else
        match rest with
        | [] => .ok s
        | line :: _ => .error (.clauseAfterReturn (String.ofList line))
    | .unsupported => .error (.unsupportedClause (String.ofList line))

/-- The lines of a text that are not blank, without the blanks around them. -/
def lines (text : String) : List (List Char) :=
  ((Text.splitBy (· = '\n') text.toList).map Text.trim).filter fun line => !line.isEmpty

def ofText (text : String) : Except QueryError Statement :=
  match lines text with
  | [] => .error .empty
  | header :: rest => do
    let (loop, source) ← readLoop header
    readClauses loop { source := source } rest

end Statement

end Query
end RecordStore
