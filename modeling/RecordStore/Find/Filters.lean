import RecordStore.Client.Error
import RecordStore.Find.Path
import RecordStore.Query.Operator
import RecordStore.Record.Endpoint

/-!
# Filters

Filters are conditions on attribute paths in the order in which the paths were first mentioned. `eq` replaces
what was asked of a path; `op` adds to it, one operand for each operator. Paths and symbols are checked when the
filters are compiled: every check gives a clause or the reason to refuse, and the first refusal counts.
-/

namespace RecordStore
namespace Find

inductive Operand where
  | value (v : Value)
  | record (endpoint : Endpoint)
  deriving Repr

namespace Operand

/-- The value that is compared with; a record without a key counts as null. -/
def resolve (o : Operand) (d : Directory) : Value :=
  match o with
  | value v => v
  | record endpoint =>
    match endpoint.resolve d with
    | some id => .string id
    | none => .null

def asked (o : Operand) (d : Directory) : List RecordType :=
  match o with
  | value _ => []
  | record endpoint => endpoint.asked d

end Operand

/-- What is asked of one path: equality with an operand, or symbols of operators with their operands. -/
inductive Condition where
  | literal (operand : Operand)
  | operators (pairs : List (String × Operand))
  deriving Repr

namespace Condition

def pairs : Condition → List (String × Operand)
  | literal operand => [(Query.Operator.equal.symbol, operand)]
  | operators pairs => pairs

end Condition

/-- Stores a value under a name, in the place of the value that it had, or else at the end. -/
def put {α : Type} (name : String) (value : α) : List (String × α) → List (String × α)
  | [] => [(name, value)]
  | (n, v) :: rest => if n = name then (name, value) :: rest else (n, v) :: put name value rest

structure Filters where
  terms : List (String × Condition) := []
  deriving Repr

namespace Filters

/-- Asks for equality, in the place of all that was asked of the path. -/
def eq (f : Filters) (path : String) (operand : Operand) : Filters :=
  ⟨put path (.literal operand) f.terms⟩

def op (f : Filters) (path symbol : String) (operand : Operand) : Filters :=
  match f.terms.lookup path with
  | none => ⟨put path (.operators [(symbol, operand)]) f.terms⟩
  | some condition => ⟨put path (.operators (put symbol operand condition.pairs)) f.terms⟩

def size (f : Filters) : Nat := f.terms.length

def isEmpty (f : Filters) : Bool := f.terms.isEmpty

end Filters

/-- A checked condition: its path among the terms by number, and one operator with its operand. -/
structure Clause where
  term : Nat
  segments : List String
  operator : Query.Operator
  operand : Operand

namespace Clause

def stem (c : Clause) : String := "field_" ++ toString c.term

def operandName (c : Clause) : String := c.stem ++ "_" ++ c.operator.token

def text (c : Clause) (loop : String) : String :=
  loop ++ "." ++ pathText c.stem c.segments.length ++ " " ++ c.operator.symbol ++ " @" ++ c.operandName

def bindings (c : Clause) (d : Directory) : List (String × Value) :=
  bindSegments c.stem 0 c.segments ++ [(c.operandName, c.operand.resolve d)]

end Clause

abbrev Checked := Except ClientError Clause

def checkPair (term : Nat) (path : String) (pair : String × Operand) : Checked :=
  match Query.Operator.ofSymbol? pair.1 with
  | some operator => .ok ⟨term, segments path, operator, pair.2⟩
  | none => .error (.unsupportedOperator path pair.1)

def checkTerm (term : Nat) (path : String) (condition : Condition) : List Checked :=
  if (segments path).isEmpty then [.error (.invalidQuery (.emptyFieldPath path))]
  else condition.pairs.map (checkPair term path)

def checkTerms : Nat → List (String × Condition) → List Checked
  | _, [] => []
  | term, (path, condition) :: rest => checkTerm term path condition ++ checkTerms (term + 1) rest

def firstRefusal : List Checked → Except ClientError (List Clause)
  | [] => .ok []
  | .error e :: _ => .error e
  | .ok clause :: rest =>
    match firstRefusal rest with
    | .ok clauses => .ok (clause :: clauses)
    | .error e => .error e

/-- The clauses before the first refusal. -/
def passed : List Checked → List Clause
  | .ok clause :: rest => clause :: passed rest
  | _ => []

namespace Filters

def clauses (f : Filters) : Except ClientError (List Clause) :=
  firstRefusal (checkTerms 0 f.terms)

def asked (f : Filters) (d : Directory) : List RecordType :=
  (passed (checkTerms 0 f.terms)).flatMap fun clause => clause.operand.asked d

end Filters

end Find
end RecordStore
