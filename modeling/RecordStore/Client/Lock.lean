import RecordStore.Client.Cursor

/-!
# Locks

A lock is a name that one holder at a time can take. Locks are kept in the memory of one process, or in a store:
then holding a lock means having the only document with its name in a collection whose index on names is
unique. A guard stands for a lock that is held, and dropping the guard gives the lock back.
-/

namespace RecordStore

/-- Where locks are kept. -/
inductive LockBackend where
  | inProcess
  /-- In a collection of the store; between two tries to take a lock lie so many microseconds. -/
  | overStore (collection : String) (pollDelay : Nat)
  deriving DecidableEq, Repr

structure LockDocument where
  stamp : Stamp
  name : String
  /-- The time in seconds when the lock may be taken away from its holder. -/
  expiresAt : Nat
  deriving DecidableEq, Repr

namespace LockDocument

def decode (value : Value) : Option LockDocument := do
  let document ← value.asObject?
  let stamp ← Stamp.ofDocument? document
  let name ← document.text? "name"
  let expiresAt ← (document.get? "expiresAt").bind Value.asNat?
  return ⟨stamp, name, expiresAt⟩

/-- The attributes of a lock, which has neither key nor revision before it is written. -/
def attributes (l : LockDocument) : Document :=
  Table.ofList [("expiresAt", .ofNat l.expiresAt), ("name", .string l.name)]

instance : Record LockDocument where
  type := ⟨"LockDocument", none, .vertex⟩
  stamp l := l.stamp
  restamp l s := { l with stamp := s }
  ends? _ := none
  encode l := some (.object (Table.ofList (l.stamp.attributes ++ l.attributes)))
  decode := decode
  beforeSave := Record.noHook

end LockDocument

namespace LockBackend

def defaultCollection : String := "docgraph_locks"

/-- How many seconds a lock may be held. -/
def timeToLive : Nat := 300

/-- The microseconds between two tries, if nothing else is said. -/
def defaultPollDelay : Nat := 62500

/-- Prepares a collection of a store for locks: it has to exist, and names in it have to be unique. -/
def prepare (collection : String) : Program (Except ClientError Unit) :=
  let index : IndexSpec := ⟨["name"], true, false, none⟩
  let indexed := Program.requestOr (Program.request (.ensureIndex collection index)) .store
  (Program.requestOr (Program.request (.hasCollection collection)) .store).andThen fun found =>
    if found then indexed
    else
      (Program.request (.createCollection collection {})).bind fun
        | .ok () => indexed
        | .error e =>
          if e.hasCode ErrorCode.duplicateName then indexed else .done (.error (.store e))

def create (collection : String) : Program (Except ClientError LockBackend) :=
  (prepare collection).mapOk fun () => .overStore collection defaultPollDelay

/-- Tries once to write the document of a lock; `false` if there is one already. -/
def tryInsert (collection name : String) : Program (Except ClientError Bool) :=
  (Program.ofAction .now).bind fun now =>
    let document := LockDocument.attributes ⟨⟨none, ""⟩, name, now / 1000 + timeToLive⟩
    (Program.request (.insert collection document)).bind fun
      | .ok _ => .done (.ok true)
      | .error e =>
        if e.hasCode ErrorCode.uniqueConstraintViolated || e.hasCode ErrorCode.conflict then .done (.ok false)
        else .done (.error (.store e))

def insertWithin (collection name : String) : Nat → Program (Except ClientError Bool)
  | 0 => .stalled
  | tries + 1 =>
    (tryInsert collection name).bind fun
      | .ok false => insertWithin collection name tries
      | result => .done result

/-- Takes a lock. `false` says that it is held elsewhere; a blocking call on a store waits instead. -/
def acquire (b : LockBackend) (name : String) (block : Bool) : Program (Except ClientError Bool) :=
  match b with
  | inProcess => (Program.ofAction (.claim name)).bind fun free => .done (.ok free)
  | overStore collection _ =>
    if block then (Program.ofAction .patience).bind fun tries => insertWithin collection name tries
    else tryInsert collection name

def holdersQuery (collection name : String) : BoundQuery :=
  { text := "FOR l IN @@collection\n    FILTER l.name == @name\n    RETURN l"
    bindings := [("@collection", .string collection), ("name", .string name)] }

def deleteAll (collection : String) : List LockDocument → Program (Except ClientError Unit)
  | [] => .done (.ok ())
  | document :: rest =>
    match document.stamp.key with
    | none => deleteAll collection rest
    | some key =>
      (Program.requestOr (Program.request (.delete collection key none true)) .store).andThen fun _ =>
        deleteAll collection rest

/-- Gives a lock back; one that is not held stays free. -/
def release (b : LockBackend) (name : String) : Program (Except ClientError Unit) :=
  match b with
  | inProcess => (Program.ofAction (.yield name)).bind fun () => .done (.ok ())
  | overStore collection _ =>
    (Program.requestOr (Program.request (.execute (holdersQuery collection name))) .store).andThen fun batch =>
      (.ofBatch batch : RecordCursor LockDocument).toListAndDrop.andThen fun documents =>
        deleteAll collection documents

end LockBackend

structure LockGuard where
  backend : LockBackend
  name : String
  released : Bool
  deriving DecidableEq, Repr

namespace LockGuard

/-- Gives the lock back and says if that failed. The guard is used up either way. -/
def release (g : LockGuard) : Program (Except ClientError Unit) :=
  g.backend.release g.name

/-- Lets go of the guard: a lock that is still held is given back, whatever comes of it. -/
def drop (g : LockGuard) : Program Unit :=
  if g.released then .done () else g.release.bind fun _ => .done ()

end LockGuard

structure NamedLock where
  backend : LockBackend
  name : String
  deriving DecidableEq, Repr

namespace NamedLock

def held (l : NamedLock) : LockGuard := ⟨l.backend, l.name, false⟩

def acquire (l : NamedLock) : Program (Except ClientError LockGuard) :=
  (l.backend.acquire l.name true).andThen fun free =>
    .done (if free then .ok l.held else .error (.lockUnavailable l.name))

def tryAcquire (l : NamedLock) : Program (Except ClientError (Option LockGuard)) :=
  (l.backend.acquire l.name false).mapOk fun free => if free then some l.held else none

end NamedLock

end RecordStore
