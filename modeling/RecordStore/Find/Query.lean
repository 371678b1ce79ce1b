import RecordStore.Find.Filters
import RecordStore.Find.Sort
import RecordStore.Store.Basic

/-!
# Find queries

A find query is a statement that keeps the documents of a collection on which every filter holds, sorts them and
cuts out a slice. Its text depends on the form of what is asked only; all names, paths and operands are bound.
-/

namespace RecordStore
namespace Find

def loopName : String := "i"

def collectionName : String := "@collection"

structure Options where
  filters : Filters := {}
  sort : List SortKey := []
  limit : Option Nat := none
  /-- How many results to leave out first; only together with a limit. -/
  offset : Option Nat := none
  count : Bool := false
  fullCount : Bool := false
  batchSize : Option Nat := none
  deriving Repr

def filterText (clauses : List Clause) : List String :=
  if clauses.isEmpty then []
  else ["    FILTER " ++ "\n        AND ".intercalate (clauses.map (·.text loopName))]

/-- A sort clause over a loop variable; empty without keys. -/
def sortClause (keys : List Placed) (loop : String) : String :=
  if keys.isEmpty then "" else "SORT " ++ ", ".intercalate (keys.map (·.text loop))

def sortText (keys : List Placed) : List String :=
  if keys.isEmpty then [] else ["    " ++ sortClause keys loopName]

def limitText (offset : Nat) : Option Nat → List String
  | some limit => ["    LIMIT " ++ toString offset ++ ", " ++ toString limit]
  | none => []

def statementText (clauses : List Clause) (keys : List Placed) (offset : Nat) (limit : Option Nat) : String :=
  "\n".intercalate
    (("FOR " ++ loopName ++ " IN @@collection") :: filterText clauses ++ sortText keys ++
      limitText offset limit ++ ["    RETURN " ++ loopName])

def query (collection : String) (options : Options) (d : Directory) : Except ClientError BoundQuery :=
  match options.filters.clauses with
  | .error e => .error e
  | .ok clauses =>
    if options.limit.isNone && 0 < options.offset.getD 0 then .error (.invalidQuery .offsetWithoutLimit)
    else
      match SortKey.placeAll 0 options.sort with
      | .error e => .error e
      | .ok keys =>
        .ok {
          text := statementText clauses keys (options.offset.getD 0) options.limit
          bindings := Table.ofList (clauses.flatMap (·.bindings d) ++ keys.flatMap (·.bindings) ++
            [(collectionName, .string collection)])
          options := ⟨options.count, options.fullCount, options.batchSize⟩ }

end Find
end RecordStore
