import RecordStore.Store.Error

/-!
# Client errors

What can go wrong between a program and its records. Errors of the store that mean something to the operation
that met them are translated; all others are passed on as they are. `ClientError.message` is the only place
where the wordings stand.
-/

namespace RecordStore

inductive Absence where
  | withoutKey (action typeName : String)
  | noSuchKey (typeName key : String)
  | noMatch (typeName : String)
  | endpointWithoutKey (field typeName : String)
  | reported (subject message : String)
  deriving DecidableEq, Repr

inductive MissingCount where
  | count
  | fullCount
  deriving DecidableEq, Repr

inductive QueryFault where
  | emptyFieldPath (path : String)
  | emptySortPath (path : String)
  | offsetWithoutLimit
  | resultCount (records : Nat) (typeName : String) (results : Nat)
  deriving DecidableEq, Repr

inductive RecordFault where
  | notAnObject (typeName kind : String)
  | rejected (message : String)
  deriving DecidableEq, Repr

/-- What can go wrong between a program and its records. -/
inductive ClientError where
  | modelNotFound (reason : Absence)
  | multipleModelsFound (typeName : String)
  | uniqueConstraint (subject message : String)
  | dataSourceNotFound (name : String)
  | graphNotFound (name : String)
  | cursorNotFound (message : String)
  | cursor (missing : MissingCount)
  | unsupportedOperator (field operator : String)
  | invalidSortDirection (field direction : String)
  | lockUnavailable (name : String)
  | noLockBackend
  | invalidQuery (reason : QueryFault)
  | invalidRecord (reason : RecordFault)
  | store (e : StoreError)
  | serialization
  deriving DecidableEq, Repr

namespace Absence

def message : Absence → String
  | withoutKey action typeName => "can't " ++ action ++ " '" ++ typeName ++ "' without a key"
  | noSuchKey typeName key => "no '" ++ typeName ++ "' found with _key '" ++ key ++ "'"
  | noMatch typeName => "no '" ++ typeName ++ "' matched given filters"
  | endpointWithoutKey field typeName => field ++ " vertex of " ++ typeName ++ " has no key"
  | reported subject message => "'" ++ subject ++ "': " ++ message

end Absence

namespace MissingCount

def message : MissingCount → String
  | count => "cursor has no count, was the query run with count enabled?"
  | fullCount => "cursor statistics have no full count, was full_count enabled?"

end MissingCount

namespace QueryFault

def message : QueryFault → String
  | emptyFieldPath path => "field path '" ++ path ++ "' has no segments"
  | emptySortPath path => "sort path '" ++ path ++ "' has no segments"
  | offsetWithoutLimit => "offset is only supported together with limit"
  | resultCount records typeName results =>
    "insert of " ++ toString records ++ " '" ++ typeName ++ "' reported " ++ toString results ++ " results"

end QueryFault

namespace RecordFault

def message : RecordFault → String
  | notAnObject typeName kind => typeName ++ " serialized to " ++ kind ++ " instead of an object"
  | rejected message => message

end RecordFault

namespace ClientError

/-- The wording of an error. A failed conversion between records and values has none of its own. -/
def message : ClientError → String
  | modelNotFound reason => "model not found: " ++ reason.message
  | multipleModelsFound typeName =>
    "multiple models found: multiple '" ++ typeName ++ "' matched given filters"
  | uniqueConstraint subject message =>
    "unique constraint violated: for '" ++ subject ++ "': " ++ message
  | dataSourceNotFound name => "data source not found: " ++ name
  | graphNotFound name => "graph not found: " ++ name
  | cursorNotFound message => "cursor not found: " ++ message
  | cursor missing => "cursor error: " ++ missing.message
  | unsupportedOperator field operator =>
    "unsupported operator '" ++ operator ++ "' on field '" ++ field ++ "'"
  | invalidSortDirection field direction =>
    "invalid sort direction '" ++ direction ++ "' for field '" ++ field ++ "'"
  | lockUnavailable name => "lock '" ++ name ++ "' is held elsewhere"
  | noLockBackend => "configuration error: trying to get a lock when no lock backend is configured"
  | invalidQuery reason => "invalid query: " ++ reason.message
  | invalidRecord reason => "invalid record: " ++ reason.message
  | store e => "store error: " ++ e.display
  | serialization => "serialization error"

def kind : ClientError → String
  | modelNotFound _ => "ModelNotFound"
  | multipleModelsFound _ => "MultipleModelsFound"
  | uniqueConstraint _ _ => "UniqueConstraint"
  | dataSourceNotFound _ => "DataSourceNotFound"
  | graphNotFound _ => "GraphNotFound"
  | cursorNotFound _ => "CursorNotFound"
  | cursor _ => "Cursor"
  | unsupportedOperator _ _ => "UnsupportedOperator"
  | invalidSortDirection _ _ => "InvalidSortDirection"
  | lockUnavailable _ => "LockUnavailable"
  | noLockBackend => "Config"
  | invalidQuery _ => "InvalidQuery"
  | invalidRecord _ => "InvalidRecord"
  | store _ => "Store"
  | serialization => "Serialization"

end ClientError

inductive Operation where
  | save
  | graphSave
  | delete
  | collection
  | dropGraph
  | cursor
  deriving DecidableEq, Repr

namespace StoreError

/-- What an error of the store means to an operation on a subject. -/
def translate (e : StoreError) (operation : Operation) (subject : String) : ClientError :=
  match e with
  | .transport _ => .store e
  | .server code message =>
    match operation with
    | .save =>
      if code = ErrorCode.uniqueConstraintViolated then .uniqueConstraint subject message else .store e
    | .graphSave =>
      if code = ErrorCode.uniqueConstraintViolated then .uniqueConstraint subject message
      else if code = ErrorCode.documentNotFound then .modelNotFound (.reported subject message)
      else .store e
    | .delete =>
      if code = ErrorCode.documentNotFound then .modelNotFound (.reported subject message) else .store e
    | .collection =>
      if code = ErrorCode.dataSourceNotFound then .dataSourceNotFound subject else .store e
    | .dropGraph => if code = ErrorCode.graphNotFound then .graphNotFound subject else .store e
    | .cursor => if code = ErrorCode.cursorNotFound then .cursorNotFound message else .store e

end StoreError

end RecordStore
