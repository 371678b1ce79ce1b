import RecordStore.Query.Statement

/-!
# Answers to statements

A statement is answered in three steps: the documents on which every condition holds are kept, they are sorted
by the keys with ties in stored order, and the limit cuts a slice out. Parameters are resolved first; those of
sort keys come after those of conditions.
-/

namespace RecordStore
namespace Query

/-- A condition whose parameters have been resolved. -/
structure Test where
  path : List String
  operator : Operator
  operand : Value

namespace Test

def holds (t : Test) (document : Value) : Bool :=
  t.operator.holds (document.lookup t.path) t.operand

end Test

structure Key where
  path : List String
  descending : Bool

namespace Key

def compare (k : Key) (a b : Value) : Ordering :=
  let o := (a.lookup k.path).compare (b.lookup k.path)
  if k.descending then o.swap else o

def compareAll (keys : List Key) (a b : Value) : Ordering :=
  match keys with
  | [] => .eq
  | k :: rest => (k.compare a b).then (compareAll rest a b)

/-- The documents in ascending order, ties as they stood. -/
def sort (keys : List Key) (documents : List Value) : List Value :=
  documents.mergeSort fun a b => compareAll keys a b != .gt

end Key

/-- The results of a statement, and how many documents there were before its limit. -/
structure Evaluation where
  items : List Value
  fullCount : Nat

def Term.resolve (t : Term) (bindings : Bindings) : Except QueryError Value :=
  match t with
  | literal value => .ok value
  | parameter name =>
    match bindings.get? name with
    | some value => .ok value
    | none => .error (.unboundParameter name)

def Term.resolveName (t : Term) (bindings : Bindings) : Except QueryError String := do
  match ← t.resolve bindings with
  | .string name => return name
  | other => throw (.notAName other)

def Term.resolvePath (path : List Term) (bindings : Bindings) : Except QueryError (List String) :=
  path.mapM (·.resolveName bindings)

/-- Resolves a condition, its path before its operand. -/
def Condition.resolve (c : Condition) (bindings : Bindings) : Except QueryError Test := do
  let path ← Term.resolvePath c.path bindings
  let operand ← c.operand.resolve bindings
  return ⟨path, c.operator, operand⟩

def SortKey.resolve (k : SortKey) (bindings : Bindings) : Except QueryError Key := do
  return ⟨← Term.resolvePath k.path bindings, k.descending⟩

namespace Statement

def collection (s : Statement) (bindings : Bindings) : Except QueryError String :=
  s.source.resolveName bindings

def slice (limit : Option (Nat × Nat)) (items : List Value) : List Value :=
  match limit with
  | none => items
  | some (offset, count) => (items.drop offset).take count

/-- Filters, sorts and limits documents. -/
def evaluate (s : Statement) (documents : List Value) (bindings : Bindings) :
    Except QueryError Evaluation := do
  let tests ← s.conditions.mapM (·.resolve bindings)
  let keys ← s.sort.mapM (·.resolve bindings)
  let kept := documents.filter fun document => tests.all (·.holds document)
  return ⟨slice s.limit (Key.sort keys kept), kept.length⟩

end Statement

end Query
end RecordStore
