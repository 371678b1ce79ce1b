import RecordStore.Query.Error

/-!
# Store errors

A store answers a failed request with an error number and a message, or it cannot be reached at all. `Refusal`
lists the reasons that the store of this library has; `Refusal.code` and `Refusal.message` are the only places
where their numbers and wordings stand.
-/

namespace RecordStore

/-- A failed request: refused by the store with a number, or lost on the way. -/
inductive StoreError where
  | server (code : Int) (message : String)
  | transport (message : String)
  deriving DecidableEq, Repr

namespace StoreError

def code? : StoreError → Option Int
  | server code _ => some code
  | transport _ => none

def hasCode (e : StoreError) (code : Int) : Bool :=
  e.code? == some code

def message : StoreError → String
  | server _ message => message
  | transport message => message

def display : StoreError → String
  | server code message => "store error " ++ toString code ++ ": " ++ message
  | transport message => "transport error: " ++ message

end StoreError

/-! ### Error numbers -/

namespace ErrorCode

def conflict : Int := 1200
def documentNotFound : Int := 1202
def dataSourceNotFound : Int := 1203
def documentHandleBad : Int := 1205
def duplicateName : Int := 1207
def uniqueConstraintViolated : Int := 1210
def documentKeyUnexpected : Int := 1222
def invalidEdgeAttribute : Int := 1233
def queryParse : Int := 1501
def queryBindParameterMissing : Int := 1551
def cursorNotFound : Int := 1600
def graphNotFound : Int := 1924
def graphDuplicate : Int := 1925
def graphVertexCollectionNotUsed : Int := 1926
def graphEdgeCollectionNotUsed : Int := 1930
def graphReferencedVertexCollectionNotUsed : Int := 1947

end ErrorCode

/-- Why the store refuses a request. -/
inductive Refusal where
  | staleRevision (collection key : String)
  | documentMissing (collection key : String)
  | collectionMissing (name : String)
  | illegalKey (key : Value)
  | keyRequired
  | collectionExists (name : String)
  | keyTaken (collection key : String)
  | notUnique (collection : String) (fields : List String)
  | repeatedValues (fields : List String)
  | keyNotAllowed (collection : String)
  | badEndpoint (field : String)
  | query (e : Query.QueryError)
  | cursorMissing (id : String)
  | graphMissing (name : String)
  | graphExists (name : String)
  | notAVertexCollection (collection graph : String)
  | notAnEdgeCollection (collection graph : String)
  | endpointNotAllowed (collection : String)
  deriving Repr

namespace Refusal

def code : Refusal → Int
  | staleRevision _ _ => ErrorCode.conflict
  | documentMissing _ _ => ErrorCode.documentNotFound
  | collectionMissing _ => ErrorCode.dataSourceNotFound
  | illegalKey _ | keyRequired => ErrorCode.documentHandleBad
  | collectionExists _ => ErrorCode.duplicateName
  | keyTaken _ _ | notUnique _ _ | repeatedValues _ => ErrorCode.uniqueConstraintViolated
  | keyNotAllowed _ => ErrorCode.documentKeyUnexpected
  | badEndpoint _ => ErrorCode.invalidEdgeAttribute
  | query (.unboundParameter _) => ErrorCode.queryBindParameterMissing
  | query _ => ErrorCode.queryParse
  | cursorMissing _ => ErrorCode.cursorNotFound
  | graphMissing _ => ErrorCode.graphNotFound
  | graphExists _ => ErrorCode.graphDuplicate
  | notAVertexCollection _ _ => ErrorCode.graphVertexCollectionNotUsed
  | notAnEdgeCollection _ _ => ErrorCode.graphEdgeCollectionNotUsed
  | endpointNotAllowed _ => ErrorCode.graphReferencedVertexCollectionNotUsed

def message : Refusal → String
  | staleRevision collection key =>
    "conflict, _rev values do not match for " ++ collection ++ "/" ++ key
  | documentMissing collection key => "document not found: " ++ collection ++ "/" ++ key
  | collectionMissing name => "collection or view not found: " ++ name
  | illegalKey key => "illegal document key: " ++ key.text
  | keyRequired => "replace requires a document key"
  | collectionExists name => "duplicate name: " ++ name
  | keyTaken collection key => "unique constraint violated: " ++ collection ++ "/" ++ key ++ " already exists"
  | notUnique collection fields =>
    "unique constraint violated in collection '" ++ collection ++ "' on [" ++ ", ".intercalate fields ++ "]"
  | repeatedValues fields =>
    "cannot create unique index on [" ++ ", ".intercalate fields ++ "]: duplicate values"
  | keyNotAllowed collection => "collection '" ++ collection ++ "' does not allow user defined keys"
  | badEndpoint field => "edge attribute missing or invalid: " ++ field
  | query e => e.message
  | cursorMissing id => "cursor not found: " ++ id
  | graphMissing name => "graph '" ++ name ++ "' not found"
  | graphExists name => "graph already exists: " ++ name
  | notAVertexCollection collection graph =>
    "vertex collection '" ++ collection ++ "' not used in graph '" ++ graph ++ "'"
  | notAnEdgeCollection collection graph =>
    "edge collection '" ++ collection ++ "' not used in graph '" ++ graph ++ "'"
  | endpointNotAllowed collection =>
    "referenced vertex collection '" ++ collection ++ "' is not part of the edge definition"

/-- The error that a client sees. -/
def error (r : Refusal) : StoreError :=
  .server r.code r.message

end Refusal

end RecordStore
