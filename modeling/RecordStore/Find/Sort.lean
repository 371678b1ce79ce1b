import RecordStore.Client.Error
import RecordStore.Find.Path
import RecordStore.Query.Statement

/-!
# Sort orders

A sort order is a list of paths with directions. They are checked when the order is compiled, key by key: the
direction first, then the path.
-/

namespace RecordStore
namespace Find

def directionText (descending : Bool) : String :=
  if descending then "DESC" else "ASC"

structure SortKey where
  path : String
  direction : String
  deriving DecidableEq, Repr

/-- A checked sort key with its number. -/
structure Placed where
  number : Nat
  segments : List String
  descending : Bool
  deriving DecidableEq, Repr

namespace Placed

def stem (k : Placed) : String := "sort_" ++ toString k.number

def text (k : Placed) (loop : String) : String :=
  loop ++ "." ++ pathText k.stem k.segments.length ++ " " ++ directionText k.descending

def bindings (k : Placed) : List (String × Value) :=
  bindSegments k.stem 0 k.segments

end Placed

namespace SortKey

def place (k : SortKey) (number : Nat) : Except ClientError Placed :=
  match Query.Statement.readDirection? k.direction.toList with
  | none => .error (.invalidSortDirection k.path k.direction)
  | some descending =>
    if (segments k.path).isEmpty then .error (.invalidQuery (.emptySortPath k.path))
    else .ok ⟨number, segments k.path, descending⟩

def placeAll : Nat → List SortKey → Except ClientError (List Placed)
  | _, [] => .ok []
  | number, key :: rest =>
    match key.place number with
    | .error e => .error e
    | .ok placed =>
      match placeAll (number + 1) rest with
      | .error e => .error e
      | .ok others => .ok (placed :: others)

end SortKey

end Find
end RecordStore
