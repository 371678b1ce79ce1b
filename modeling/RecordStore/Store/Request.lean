import RecordStore.Store.Catalogue
import RecordStore.Store.Cursors

/-!
# Requests

Everything that a client can ask of a store, with the type of each answer. `Store.answer` is the store in memory
as a state machine over requests. Bulk requests are their single requests in turn.
-/

namespace RecordStore

inductive Request where
  | hasCollection (name : String)
  | createCollection (name : String) (options : CollectionOptions)
  | deleteCollection (name : String) (ignoreMissing : Bool)
  | truncateCollection (name : String)
  | count (collection : String)
  | ensureIndex (collection : String) (index : IndexSpec)
  | get (collection key : String)
  | getMany (collection : String) (keys : List String)
  | keys (collection : String)
  | insert (collection : String) (document : Document)
  | insertMany (collection : String) (documents : List Document)
  | replace (collection : String) (document : Document)
  | delete (collection key : String) (rev : Option String) (ignoreMissing : Bool)
  | execute (query : BoundQuery)
  | nextBatch (cursor : String)
  | closeCursor (cursor : String)
  | hasGraph (name : String)
  | createGraph (definition : GraphDefinition)
  | deleteGraph (name : String) (ignoreMissing dropCollections : Bool)
  | insertVertex (graph collection : String) (document : Document)
  | insertEdge (graph collection : String) (document : Document)
  | replaceVertex (graph collection : String) (document : Document)
  | replaceEdge (graph collection : String) (document : Document)
  | deleteVertex (graph collection key : String) (rev : Option String) (ignoreMissing : Bool)
  | deleteEdge (graph collection key : String) (rev : Option String) (ignoreMissing : Bool)

namespace Request

abbrev Answer : Request → Type
  | hasCollection _ => Except StoreError Bool
  | createCollection _ _ => Except StoreError Unit
  | deleteCollection _ _ => Except StoreError Bool
  | truncateCollection _ => Except StoreError Unit
  | count _ => Except StoreError Nat
  | ensureIndex _ _ => Except StoreError Unit
  | get _ _ => Except StoreError (Option Document)
  | getMany _ _ => Except StoreError (List Document)
  | keys _ => Except StoreError (List String)
  | insert _ _ => Except StoreError Header
  | insertMany _ _ => List (Except StoreError Header)
  | replace _ _ => Except StoreError Header
  | delete _ _ _ _ => Except StoreError Bool
  | execute _ => Except StoreError Batch
  | nextBatch _ => Except StoreError Batch
  | closeCursor _ => Except StoreError Unit
  | hasGraph _ => Except StoreError Bool
  | createGraph _ => Except StoreError Unit
  | deleteGraph _ _ _ => Except StoreError Bool
  | insertVertex _ _ _ => Except StoreError Header
  | insertEdge _ _ _ => Except StoreError Header
  | replaceVertex _ _ _ => Except StoreError Header
  | replaceEdge _ _ _ => Except StoreError Header
  | deleteVertex _ _ _ _ _ => Except StoreError Bool
  | deleteEdge _ _ _ _ _ => Except StoreError Bool

/-- Whether an answer is an error. A bulk insert has an answer for each document and none of its own. -/
def refused : (r : Request) → r.Answer → Bool
  | hasCollection _, answer | deleteCollection _ _, answer | hasGraph _, answer => !answer.isOk
  | createCollection _ _, answer | truncateCollection _, answer | ensureIndex _ _, answer => !answer.isOk
  | closeCursor _, answer | createGraph _, answer => !answer.isOk
  | count _, answer => !answer.isOk
  | get _ _, answer => !answer.isOk
  | getMany _ _, answer => !answer.isOk
  | keys _, answer => !answer.isOk
  | insert _ _, answer | replace _ _, answer => !answer.isOk
  | insertVertex _ _ _, answer | insertEdge _ _ _, answer => !answer.isOk
  | replaceVertex _ _ _, answer | replaceEdge _ _ _, answer => !answer.isOk
  | insertMany _ _, _ => false
  | execute _, answer | nextBatch _, answer => !answer.isOk
  | delete _ _ _ _, answer | deleteGraph _ _ _, answer => !answer.isOk
  | deleteVertex _ _ _ _ _, answer | deleteEdge _ _ _ _ _, answer => !answer.isOk

end Request

/-- Asks for one thing after another until an answer is an error, and collects what was found. -/
def collectFound {σ : Type} (ask : String → σ → Except StoreError (Option Document) × σ) :
    List String → σ → Except StoreError (List Document) × σ
  | [], s => (.ok [], s)
  | key :: rest, s =>
    match ask key s with
    | (.error e, s) => (.error e, s)
    | (.ok found, s) =>
      match collectFound ask rest s with
      | (.error e, s) => (.error e, s)
      | (.ok documents, s) => (.ok (found.toList ++ documents), s)

/-- Does one thing after another, whatever comes of each, and collects the results. -/
def collectAll {σ α β : Type} (act : α → σ → β × σ) : List α → σ → List β × σ
  | [], s => ([], s)
  | x :: rest, s =>
    let (result, s) := act x s
    let (results, s) := collectAll act rest s
    (result :: results, s)

namespace Store

/-- An outcome as a client sees it. -/
def reply {α : Type} (outcome : Outcome α) : Except StoreError α × Store :=
  (outcome.1.mapError Refusal.error, outcome.2)

def look {α : Type} (s : Store) (answer : Except Refusal α) : Except StoreError α × Store :=
  (answer.mapError Refusal.error, s)

def answer (s : Store) : (r : Request) → r.Answer × Store
  | .hasCollection name => (.ok (s.collections.has name), s)
  | .createCollection name options => reply (s.createCollection name options)
  | .deleteCollection name ignoreMissing => reply (s.deleteCollection name ignoreMissing)
  | .truncateCollection name => reply (s.truncateCollection name)
  | .count collection => s.look (s.count collection)
  | .ensureIndex collection index => reply (s.ensureIndex collection index)
  | .get collection key => s.look (s.find collection key)
  | .getMany collection keys => collectFound (fun key s => s.look (s.find collection key)) keys s
  | .keys collection => s.look (s.keys collection)
  | .insert collection document => reply (s.insert collection document)
  | .insertMany collection documents =>
    collectAll (fun document s => reply (s.insert collection document)) documents s
  | .replace collection document => reply (s.replace collection document)
  | .delete collection key rev ignoreMissing => reply (s.delete collection key rev ignoreMissing)
  | .execute query => reply (s.execute query)
  | .nextBatch cursor => reply (s.nextBatch cursor)
  | .closeCursor cursor => reply (s.closeCursor cursor)
  | .hasGraph name => (.ok (s.graphs.has name), s)
  | .createGraph definition => reply (s.createGraph definition)
  | .deleteGraph name ignoreMissing dropCollections =>
    reply (s.deleteGraph name ignoreMissing dropCollections)
  | .insertVertex graph collection document => reply (s.insertVertex graph collection document)
  | .insertEdge graph collection document => reply (s.insertEdge graph collection document)
  | .replaceVertex graph collection document => reply (s.replaceVertex graph collection document)
  | .replaceEdge graph collection document => reply (s.replaceEdge graph collection document)
  | .deleteVertex graph collection key rev ignoreMissing =>
    reply (s.deleteVertex graph collection key rev ignoreMissing)
  | .deleteEdge graph collection key rev ignoreMissing =>
    reply (s.deleteEdge graph collection key rev ignoreMissing)

def afterAll (s : Store) (requests : List Request) : Store :=
  requests.foldl (fun s r => (s.answer r).2) s

end Store
end RecordStore
