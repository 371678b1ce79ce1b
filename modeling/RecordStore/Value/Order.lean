import RecordStore.Value.Basic

/-!
# The order of values

Values of different kinds are ordered by kind: null, booleans, numbers, strings, arrays, objects. Numbers
compare as binary64 numbers, strings by code points, arrays item by item and objects attribute by attribute
in ascending order of the names. A missing item or attribute counts as null, so equality in this order is
coarser than `Value.same`: `1` equals `1.0`, and `[]` equals `[null]`.
-/

namespace RecordStore
namespace Value

def rank : Value → Nat
  | .null => 0
  | .bool _ => 1
  | .number _ => 2
  | .string _ => 3
  | .array _ => 4
  | .object _ => 5

/-- A value against a missing one: only null is not above it. -/
def againstMissing (v : Value) : Ordering :=
  if v.isNull then .eq else .gt

def compareText (a b : String) : Ordering :=
  if a < b then .lt else if a = b then .eq else .gt

/-- Whether every attribute counts as missing. -/
def allMissing (fields : List (String × Value)) : Bool :=
  fields.all fun entry => entry.2.isNull

def fieldsBelow (name : String) (fields : List (String × Value)) : List (String × Value) :=
  fields.takeWhile fun entry => decide (entry.1 < name)

def fieldsFrom (name : String) (fields : List (String × Value)) : List (String × Value) :=
  fields.dropWhile fun entry => decide (entry.1 < name)

mutual

/-- The order that filters and sorts use. -/
def compare : Value → Value → Ordering
  | .bool a, .bool b => Ord.compare a b
  | .number a, .number b => Ord.compare a.toBinary64.key b.toBinary64.key
  | .string a, .string b => compareText a b
  | .array a, .array b => compareItems a b
  | .object a, .object b => compareFields a b
  | a, b => Ord.compare a.rank b.rank

/-- Item by item; a missing item counts as null. -/
def compareItems : List Value → List Value → Ordering
  | [], ys => if ys.all isNull then .eq else .lt
  | x :: xs, [] => (againstMissing x).then (compareItems xs [])
  | x :: xs, y :: ys => (compare x y).then (compareItems xs ys)

/-- Attribute by attribute in ascending order of the names; a missing attribute counts as null. -/
def compareFields : List (String × Value) → List (String × Value) → Ordering
  | [], ys => if allMissing ys then .eq else .lt
  | (name, x) :: xs, ys =>
    if allMissing (fieldsBelow name ys) then
      match fieldsFrom name ys with
      | [] => (againstMissing x).then (compareFields xs [])
      | (other, y) :: rest =>
        if other = name then (compare x y).then (compareFields xs rest)
        else (againstMissing x).then (compareFields xs ((other, y) :: rest))
    else .lt

end

/-- Follows a path of attribute names; whatever is missing on the way counts as null. -/
def lookup (v : Value) : List String → Value
  | [] => v
  | segment :: rest =>
    match v with
    | .object fields => lookup ((Table.get? fields segment).getD .null) rest
    | _ => lookup .null rest

end Value
end RecordStore
