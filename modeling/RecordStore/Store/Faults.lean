import RecordStore.Store.Request

/-!
# Prepared faults

A store whose answers can be prepared. A fault waits for one method; it lets a number of calls of that method
through, then takes the place of one call and is used up. Bulk requests reach the single requests that they
consist of, so a fault that waits for these strikes inside.
-/

namespace RecordStore

inductive Method where
  | hasCollection
  | createCollection
  | deleteCollection
  | truncateCollection
  | count
  | ensureIndex
  | get
  | getMany
  | keys
  | insert
  | insertMany
  | replace
  | delete
  | execute
  | nextBatch
  | closeCursor
  | hasGraph
  | createGraph
  | deleteGraph
  | insertVertex
  | insertEdge
  | replaceVertex
  | replaceEdge
  | deleteVertex
  | deleteEdge
  deriving DecidableEq, Repr

namespace Method

def all : List Method :=
  [hasCollection, createCollection, deleteCollection, truncateCollection, count, ensureIndex, get,
    getMany, keys, insert, insertMany, replace, delete, execute, nextBatch, closeCursor, hasGraph,
    createGraph, deleteGraph, insertVertex, insertEdge, replaceVertex, replaceEdge, deleteVertex,
    deleteEdge]

def name : Method → String
  | hasCollection => "has_collection"
  | createCollection => "create_collection"
  | deleteCollection => "delete_collection"
  | truncateCollection => "truncate_collection"
  | count => "count"
  | ensureIndex => "ensure_index"
  | get => "get"
  | getMany => "get_many"
  | keys => "keys"
  | insert => "insert"
  | insertMany => "insert_many"
  | replace => "replace"
  | delete => "delete"
  | execute => "execute"
  | nextBatch => "next_batch"
  | closeCursor => "close_cursor"
  | hasGraph => "has_graph"
  | createGraph => "create_graph"
  | deleteGraph => "delete_graph"
  | insertVertex => "insert_vertex"
  | insertEdge => "insert_edge"
  | replaceVertex => "replace_vertex"
  | replaceEdge => "replace_edge"
  | deleteVertex => "delete_vertex"
  | deleteEdge => "delete_edge"

def ofName? (name : String) : Option Method :=
  all.find? fun m => m.name = name

end Method

def Request.method : Request → Method
  | .hasCollection _ => .hasCollection
  | .createCollection _ _ => .createCollection
  | .deleteCollection _ _ => .deleteCollection
  | .truncateCollection _ => .truncateCollection
  | .count _ => .count
  | .ensureIndex _ _ => .ensureIndex
  | .get _ _ => .get
  | .getMany _ _ => .getMany
  | .keys _ => .keys
  | .insert _ _ => .insert
  | .insertMany _ _ => .insertMany
  | .replace _ _ => .replace
  | .delete _ _ _ _ => .delete
  | .execute _ => .execute
  | .nextBatch _ => .nextBatch
  | .closeCursor _ => .closeCursor
  | .hasGraph _ => .hasGraph
  | .createGraph _ => .createGraph
  | .deleteGraph _ _ _ => .deleteGraph
  | .insertVertex _ _ _ => .insertVertex
  | .insertEdge _ _ _ => .insertEdge
  | .replaceVertex _ _ _ => .replaceVertex
  | .replaceEdge _ _ _ => .replaceEdge
  | .deleteVertex _ _ _ _ _ => .deleteVertex
  | .deleteEdge _ _ _ _ _ => .deleteEdge

inductive Effect where
  | error (e : StoreError)
  | value (b : Bool)
  | batch (b : Batch)
  /-- Loses the last results of a bulk insert that does take place. -/
  | dropLast (n : Nat)
  deriving Repr

/-- A prepared fault. -/
structure Fault where
  method : Method
  /-- How many calls still go through. -/
  after : Nat
  effect : Effect
  deriving Repr

/-- A store with prepared faults, in the order in which they were prepared. -/
structure FaultyStore where
  store : Store
  faults : List Fault := []
  deriving Repr

namespace FaultyStore

/-- Looks at the first fault that waits for a method: the effect if it strikes, and the faults that are left. -/
def strike? (method : Method) : List Fault → Option Effect × List Fault
  | [] => (none, [])
  | f :: rest =>
    if f.method = method then
      if f.after = 0 then (some f.effect, rest) else (none, { f with after := f.after - 1 } :: rest)
    else
      let (effect, rest) := strike? method rest
      (effect, f :: rest)

/-- The answer that an effect puts in the place of a request's, if it is one for that request. -/
def substitute? : (r : Request) → Effect → Option r.Answer
  | .hasCollection _, .value b => some (.ok b)
  | .hasGraph _, .value b => some (.ok b)
  | .execute _, .batch b => some (.ok b)
  | .nextBatch _, .batch b => some (.ok b)
  | .hasCollection _, .error e => some (.error e)
  | .createCollection _ _, .error e => some (.error e)
  | .deleteCollection _ _, .error e => some (.error e)
  | .truncateCollection _, .error e => some (.error e)
  | .count _, .error e => some (.error e)
  | .ensureIndex _ _, .error e => some (.error e)
  | .get _ _, .error e => some (.error e)
  | .getMany _ _, .error e => some (.error e)
  | .keys _, .error e => some (.error e)
  | .insert _ _, .error e => some (.error e)
  | .insertMany _ documents, .error e => some (documents.map fun _ => .error e)
  | .replace _ _, .error e => some (.error e)
  | .delete _ _ _ _, .error e => some (.error e)
  | .execute _, .error e => some (.error e)
  | .nextBatch _, .error e => some (.error e)
  | .closeCursor _, .error e => some (.error e)
  | .hasGraph _, .error e => some (.error e)
  | .createGraph _, .error e => some (.error e)
  | .deleteGraph _ _ _, .error e => some (.error e)
  | .insertVertex _ _ _, .error e => some (.error e)
  | .insertEdge _ _ _, .error e => some (.error e)
  | .replaceVertex _ _ _, .error e => some (.error e)
  | .replaceEdge _ _ _, .error e => some (.error e)
  | .deleteVertex _ _ _ _ _, .error e => some (.error e)
  | .deleteEdge _ _ _ _ _, .error e => some (.error e)
  | _, _ => none

def pass (s : FaultyStore) (r : Request) : r.Answer × FaultyStore :=
  let (answer, store) := s.store.answer r
  (answer, { s with store := store })

def answerOne (s : FaultyStore) (r : Request) : r.Answer × FaultyStore :=
  let (effect, faults) := strike? r.method s.faults
  let s := { s with faults := faults }
  match effect.bind (substitute? r) with
  | some answer => (answer, s)
  | none => s.pass r

/-- The answer to a request. Bulk requests are made of single ones. -/
def answer (s : FaultyStore) : (r : Request) → r.Answer × FaultyStore
  | .getMany collection keys =>
    let (effect, faults) := strike? .getMany s.faults
    let s := { s with faults := faults }
    match effect.bind (substitute? (.getMany collection keys)) with
    | some answer => (answer, s)
    | none => collectFound (fun key s => s.answerOne (.get collection key)) keys s
  | .insertMany collection documents =>
    let (effect, faults) := strike? .insertMany s.faults
    let s := { s with faults := faults }
    match effect.bind (substitute? (.insertMany collection documents)) with
    | some answer => (answer, s)
    | none =>
      let (results, s) := collectAll (fun document s => s.answerOne (.insert collection document)) documents s
      match effect with
      | some (.dropLast n) => (results.take (results.length - n), s)
      | _ => (results, s)
  | r => s.answerOne r

end FaultyStore
end RecordStore
