import RecordStore.Client.Database
import RecordStore.Find.Query

/-!
# Record collections

The collection of a type of records: saving, loading, finding, deleting and locking them. Errors of the store
that say something of the collection or the record are translated. Locks that are taken for the time of one
operation are given back before it ends.
-/

namespace RecordStore

def RecordKind.collectionOptions : RecordKind → CollectionOptions
  | vertex => {}
  | edge => .edge

/-- The collection of a type of records in a database. -/
structure RecordCollection (ρ : Type) where
  db : Database
  name : String

def Database.collection (db : Database) (ρ : Type) [Record ρ] : Program (RecordCollection ρ) :=
  (Database.note [Record.type ρ]).bind fun () => .done ⟨db, db.config.names.collection (Record.type ρ)⟩

namespace RecordCollection

variable {ρ α : Type} [Record ρ]

def ask (c : RecordCollection ρ) (answer : Program (Except StoreError α)) : Program (Except ClientError α) :=
  Program.requestOr answer (·.translate .collection c.name)

def identifier (c : RecordCollection ρ) (r : ρ) : Option String :=
  (Record.key r).map (Store.idOf c.name)

def save (c : RecordCollection ρ) (context : SaveContext) (r : ρ) : Program (Except ClientError Unit × ρ) :=
  c.db.persist .collection c.name context r

def load (c : RecordCollection ρ) (key : String) : Program (Except ClientError ρ) :=
  (c.ask (Program.request (.get c.name key))).andThen fun
    | none => .done (.error (.modelNotFound (.noSuchKey (Record.typeName ρ) key)))
    | some document => .done (Record.ofValue (.object document))

def keyFor (action : String) (r : ρ) : Except ClientError String :=
  match Record.key r with
  | some key => .ok key
  | none => .error (.modelNotFound (.withoutKey action (Record.typeName ρ)))

def reload (c : RecordCollection ρ) (r : ρ) : Program (Except ClientError Unit × ρ) :=
  match keyFor "reload" r with
  | .error e => .done (.error e, r)
  | .ok key =>
    (c.load key).bind fun
      | .error e => .done (.error e, r)
      | .ok loaded => .done (.ok (), loaded)

/-- Deletes a record at its revision; `false` says that a missing one was ignored. -/
def delete (c : RecordCollection ρ) (r : ρ) (ignoreMissing : Bool) : Program (Except ClientError Bool) :=
  match keyFor "delete" r with
  | .error e => .done (if ignoreMissing then .ok false else .error e)
  | .ok key =>
    Program.requestOr (Program.request (.delete c.name key (Record.rev? r) ignoreMissing))
      (·.translate .delete (Store.idOf c.name key))

/-- Runs a find query. A query that cannot be made never reaches the store. -/
def find (c : RecordCollection ρ) (options : Find.Options) : Program (Except ClientError (RecordCursor ρ)) :=
  (Database.note (options.filters.asked c.db.directory)).bind fun () =>
    match Find.query c.name options c.db.directory with
    | .error e => .done (.error e)
    | .ok query => (c.ask (Program.request (.execute query))).mapOk .ofBatch

def chooseOne (raiseOnMultiple : Bool) : List ρ → Except ClientError ρ
  | [] => .error (.modelNotFound (.noMatch (Record.typeName ρ)))
  | [r] => .ok r
  | r :: _ :: _ => if raiseOnMultiple then .error (.multipleModelsFound (Record.typeName ρ)) else .ok r

/-- Finds one record: the first that matches, or, where more are an error, the only one. -/
def findOne (c : RecordCollection ρ) (filters : Find.Filters) (sort : List Find.SortKey)
    (raiseOnMultiple : Bool) : Program (Except ClientError ρ) :=
  let limit := if raiseOnMultiple then 2 else 1
  (c.find { filters := filters, sort := sort, limit := some limit }).andThen fun cursor =>
    cursor.toListAndDrop.andThen fun records => .done (chooseOne raiseOnMultiple records)

def all (c : RecordCollection ρ) (limit skip : Option Nat) : Program (Except ClientError (List ρ)) :=
  match limit with
  | some n =>
    (c.find { limit := some n, offset := some (skip.getD 0) }).andThen fun cursor => cursor.toListAndDrop
  | none =>
    (c.find {}).andThen fun cursor =>
      (cursor.skip (skip.getD 0)).bind fun cursor => cursor.toListAndDrop

def keys (c : RecordCollection ρ) : Program (Except ClientError (List String)) :=
  c.ask (Program.request (.keys c.name))

def ids (c : RecordCollection ρ) : Program (Except ClientError (List String)) :=
  c.keys.mapOk fun keys => keys.map (Store.idOf c.name)

/-- Reads documents as records up to the first that is none. -/
def ofDocuments : List Document → Except ClientError (List ρ)
  | [] => .ok []
  | document :: rest =>
    match Record.ofValue (.object document) with
    | .error e => .error e
    | .ok r => (ofDocuments rest).map (r :: ·)

def getMany (c : RecordCollection ρ) (keys : List String) : Program (Except ClientError (List ρ)) :=
  (c.ask (Program.request (.getMany c.name keys))).andThen fun documents => .done (ofDocuments documents)

/-- The documents of new records; the first failure ends it. Records keep what was changed in them. -/
def encodeAll (c : RecordCollection ρ) (context : SaveContext) :
    List ρ → Program (Except ClientError (List Document) × List ρ)
  | [] => .done (.ok [], [])
  | r :: rest =>
    (c.db.assignKey r).bind fun r =>
      (c.db.hookAndEncode c.name true context r).bind fun
        | (.error e, r) => .done (.error e, r :: rest)
        | (.ok document, r) =>
          (encodeAll c context rest).bind fun (documents, rest) =>
            .done (documents.map (document :: ·), r :: rest)

def stampAll : List ρ → List (Except StoreError Header) → List ρ
  | r :: rest, .ok header :: results => Record.restamp r (.ofHeader header) :: stampAll rest results
  | r :: rest, .error _ :: results => r :: stampAll rest results
  | rest, _ => rest

def firstError : List (Except StoreError Header) → Option StoreError
  | [] => none
  | .error e :: _ => some e
  | .ok _ :: rest => firstError rest

/-- Inserts new records with one request. Those that were stored are stamped even if others failed; the first
failure is the answer. -/
def insertMany (c : RecordCollection ρ) (context : SaveContext) (records : List ρ) :
    Program (Except ClientError Unit × List ρ) :=
  (c.encodeAll context records).bind fun
    | (.error e, records) => .done (.error e, records)
    | (.ok documents, records) =>
      (Program.request (.insertMany c.name documents)).bind fun results =>
        if results.length = records.length then
          match firstError results with
          | some e => .done (.error (e.translate .save (Record.typeName ρ)), stampAll records results)
          | none => .done (.ok (), stampAll records results)
        else
          .done (.error (.invalidQuery (.resultCount records.length (Record.typeName ρ) results.length)), records)

def count (c : RecordCollection ρ) : Program (Except ClientError Nat) :=
  c.ask (Program.request (.count c.name))

def ensureCollection (c : RecordCollection ρ) : Program (Except ClientError Unit) :=
  (Program.requestOr (Program.request (.hasCollection c.name)) .store).andThen fun found =>
    if found then .done (.ok ())
    else
      (Program.request (.createCollection c.name (Record.kind ρ).collectionOptions)).bind fun
        | .ok () => .done (.ok ())
        | .error e => .done (if e.hasCode ErrorCode.duplicateName then .ok () else .error (.store e))

def ensureIndex (c : RecordCollection ρ) (index : IndexSpec) : Program (Except ClientError Unit) :=
  c.ask (Program.request (.ensureIndex c.name index))

def deleteCollection (c : RecordCollection ρ) (ignoreMissing : Bool) : Program (Except ClientError Bool) :=
  c.ask (Program.request (.deleteCollection c.name ignoreMissing))

def truncateCollection (c : RecordCollection ρ) (ignoreMissing : Bool) : Program (Except ClientError Bool) :=
  (Program.request (.truncateCollection c.name)).bind fun
    | .ok () => .done (.ok true)
    | .error e =>
      if ignoreMissing && e.hasCode ErrorCode.dataSourceNotFound then .done (.ok false)
      else .done (.error (e.translate .collection c.name))

def lockName (c : RecordCollection ρ) (key : String) : String :=
  c.db.config.lockNamePrefix ++ c.name ++ "_" ++ key

def lock (c : RecordCollection ρ) (key : String) : Except ClientError NamedLock :=
  match c.db.config.lockBackend with
  | some backend => .ok ⟨backend, c.lockName key⟩
  | none => .error .noLockBackend

def acquire (c : RecordCollection ρ) (key : String) : Program (Except ClientError LockGuard) :=
  match c.lock key with
  | .error e => .done (.error e)
  | .ok lock => lock.acquire

/-- Locks the record with a key and loads it. The lock is given back if that fails. -/
def lockAndLoad (c : RecordCollection ρ) (key : String) : Program (Except ClientError (ρ × LockGuard)) :=
  (c.acquire key).andThen fun guard =>
    (c.load key).bind fun
      | .error e => guard.drop.bind fun () => .done (.error e)
      | .ok r => .done (.ok (r, guard))

/-- Locks the record with a key, loads it, changes and saves it, and gives the lock back, also if the save
fails. The name of the lock is told as well. -/
def update (c : RecordCollection ρ) (key : String) (context : SaveContext) (change : ρ → ρ) :
    Program (Except ClientError (ρ × String)) :=
  (c.lockAndLoad key).andThen fun (r, guard) =>
    (c.save context (change r)).bind fun
      | (.error e, _) => guard.drop.bind fun () => .done (.error e)
      | (.ok (), r) => guard.release.mapOk fun () => (r, guard.name)

def lockAndReload (c : RecordCollection ρ) (r : ρ) : Program (Except ClientError LockGuard × ρ) :=
  match keyFor "lock" r with
  | .error e => .done (.error e, r)
  | .ok key =>
    (c.acquire key).bind fun
      | .error e => .done (.error e, r)
      | .ok guard =>
        (c.reload r).bind fun
          | (.error e, r) => guard.drop.bind fun () => .done (.error e, r)
          | (.ok (), r) => .done (.ok guard, r)

end RecordCollection

end RecordStore
