import RecordStore.Store.Error
import RecordStore.Store.Graph
import RecordStore.Text.Split
import RecordStore.Value.Order

/-!
# The store

The state of a store in memory: collections of documents in the order of their insertion, graphs, the cursors
whose results have not all been fetched, and the counters that keys, revisions and cursor names come from.
-/

namespace RecordStore

/-! ### System attributes -/

namespace Attribute

def key : String := "_key"
def id : String := "_id"
def rev : String := "_rev"
def source : String := "_from"
def target : String := "_to"

end Attribute

inductive CollectionKind where
  | document
  | edge
  deriving DecidableEq, Repr

structure CollectionOptions where
  kind : CollectionKind := .document
  /-- Whether documents may bring their own keys. -/
  userKeys : Bool := true
  deriving DecidableEq, Repr

namespace CollectionOptions

/-- An edge collection, whose keys the store assigns. -/
def edge : CollectionOptions := ⟨.edge, false⟩

end CollectionOptions

structure IndexSpec where
  fields : List String
  unique : Bool := false
  /-- Whether documents are left out that lack an indexed value or have null there. -/
  sparse : Bool := false
  name : Option String := none
  deriving DecidableEq, Repr

namespace IndexSpec

/-- Whether two indexes are the same but for their names. -/
def alike (a b : IndexSpec) : Bool :=
  a.fields == b.fields && a.unique == b.unique && a.sparse == b.sparse

def path (field : String) : List String :=
  (Text.splitBy (· = '.') field.toList).map String.ofList

/-- The indexed values of a document, unless the index leaves the document out. -/
def values? (index : IndexSpec) (document : Document) : Option (List Value) :=
  let values := index.fields.map fun field => (Value.object document).lookup (path field)
  if index.sparse && values.any Value.isNull then none else some values

/-- Whether two documents have the same values in an index that covers both. -/
def clash (index : IndexSpec) (a b : Document) : Bool :=
  match index.values? a, index.values? b with
  | some u, some v => Value.sameItems u v
  | _, _ => false

end IndexSpec

structure Header where
  id : String
  key : String
  rev : String
  deriving DecidableEq, Repr

namespace Header

def ofDocument (document : Document) : Header :=
  ⟨(document.text? Attribute.id).getD "", (document.text? Attribute.key).getD "",
    (document.text? Attribute.rev).getD ""⟩

end Header

structure Collection where
  options : CollectionOptions
  /-- The documents under their keys, in the order of their insertion. -/
  documents : List (String × Document) := []
  indexes : List IndexSpec := []
  deriving Repr

namespace Collection

def find? (c : Collection) (key : String) : Option Document :=
  c.documents.lookup key

def hasKey (c : Collection) (key : String) : Bool :=
  c.documents.any fun entry => entry.1 = key

def keys (c : Collection) : List String :=
  c.documents.map Prod.fst

def contents (c : Collection) : List Document :=
  c.documents.map Prod.snd

/-- The first unique index on which a document clashes with another one than that of its own key. -/
def clash? (c : Collection) (document : Document) (key : String) : Option IndexSpec :=
  c.indexes.find? fun index =>
    index.unique && c.documents.any fun (other, stored) => other ≠ key && index.clash document stored

/-- Puts a document in the place of the first one with its key. -/
def replaceFirst (key : String) (document : Document) :
    List (String × Document) → List (String × Document)
  | [] => []
  | (k, d) :: rest =>
    if k = key then (key, document) :: rest else (k, d) :: replaceFirst key document rest

def put (c : Collection) (key : String) (document : Document) : Collection :=
  { c with documents := replaceFirst key document c.documents }

/-- Adds a document after the others. -/
def push (c : Collection) (key : String) (document : Document) : Collection :=
  { c with documents := c.documents ++ [(key, document)] }

def remove (c : Collection) (key : String) : Collection :=
  { c with documents := c.documents.eraseP fun entry => entry.1 = key }

end Collection

structure PendingCursor where
  items : List Value
  batchSize : Nat
  deriving Repr

/-- One page of results. -/
structure Batch where
  id : Option String := none
  items : List Value := []
  hasMore : Bool := false
  count : Option Nat := none
  fullCount : Option Nat := none
  deriving Repr

structure QueryOptions where
  count : Bool := false
  fullCount : Bool := false
  batchSize : Option Nat := none
  deriving DecidableEq, Repr

structure BoundQuery where
  text : String
  bindings : Bindings := []
  options : QueryOptions := {}
  deriving Repr

/-- The state of a store. -/
structure Store where
  collections : Table Collection := []
  graphs : Table GraphDefinition := []
  cursors : Table PendingCursor := []
  /-- The last number that was tried as a key. -/
  keyCounter : Nat := 0
  /-- The number of the last revision. -/
  revCounter : Nat := 0
  /-- How many cursors have been opened. -/
  cursorCounter : Nat := 0
  /-- How many results a batch holds unless a query says otherwise; never zero. -/
  batchSize : Nat := 1000
  deriving Repr

namespace Store

def defaultBatchSize : Nat := 1000

/-- An empty store. A batch size of zero counts as one. -/
def empty (batchSize : Nat) : Store :=
  { batchSize := max batchSize 1 }

/-- The outcome of a request together with the state after it. -/
abbrev Outcome (α : Type) := Except Refusal α × Store

def openCursors (s : Store) : Nat := s.cursors.length

/-- The first part of an identifier and the key after the first slash, if neither is empty. -/
def splitId? (id : String) : Option (String × String) :=
  match Text.splitFirst? '/' id.toList with
  | some (collection, key) =>
    if collection.isEmpty || key.isEmpty then none
    else some (String.ofList collection, String.ofList key)
  | none => none

def idOf (collection key : String) : String :=
  collection ++ "/" ++ key

def endpoint? (document : Document) (field : String) : Option (String × String) :=
  (document.text? field).bind splitId?

end Store

end RecordStore
