import RecordStore.Store.Request

/-!
# Comparisons

How the store compares values, observed by statements over a collection that holds each value in a document of
its own, numbered from zero.
-/

namespace RecordStore
namespace Sample
namespace Comparisons

def collection : String := "values"

def document (number : Nat) (value : Value) : Document :=
  Table.ofList [("n", .ofNat number), ("v", value)]

/-- A store that holds some values; one batch takes all of them. -/
def storeOf (values : List Value) : Store :=
  (Store.empty (values.length + 1)).afterAll
    (.createCollection collection {} ::
      values.zipIdx.map fun (value, number) => .insert collection (document number value))

def number (result : Value) : Nat :=
  ((result.asObject?.bind fun fields => Table.get? fields "n").bind Value.asNat?).getD 0

/-- The numbers of the values on which a clause leaves, in the order in which the store answers. -/
def numbers (s : Store) (clause : String) (bindings : List (String × Value)) : Except StoreError (List Nat) :=
  let query : BoundQuery :=
    { text := "FOR i IN @@collection\n    " ++ clause ++ "\n    RETURN i"
      bindings := Table.ofList (("@collection", .string collection) :: bindings) }
  (s.answer (.execute query)).1.map fun batch => batch.items.map number

def matching (s : Store) (symbol : String) (operand : Value) : Except StoreError (List Nat) :=
  numbers s ("FILTER i.v " ++ symbol ++ " @x") [("x", operand)]

def sorted (s : Store) (direction : String) : Except StoreError (List Nat) :=
  numbers s ("SORT i.v " ++ direction) []

def holds (symbol : String) (left right : Value) : Except StoreError Bool :=
  (matching (storeOf [left]) symbol right).map fun found => !found.isEmpty

def signs (s : Store) (count : Nat) (operand : Value) : Except StoreError (List String) := do
  let less ← matching s "<" operand
  let same ← matching s "==" operand
  return (List.range count).map fun i => if less.contains i then "<" else if same.contains i then "=" else ">"

end Comparisons
end Sample
end RecordStore
