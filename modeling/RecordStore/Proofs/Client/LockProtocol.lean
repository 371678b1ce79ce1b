import RecordStore.Proofs.Client.Protocol
import RecordStore.Proofs.Store.Locks

/-!
# The protocol of locks

How the programs of a lock backend over a store use the collection of locks. A client inserts a lock once the collection
has been prepared; when it gives the lock back, it asks for the locks of that name, expects to find its own one only,
and deletes it. Whether that expectation is met is not seen here but in the world.
-/

namespace RecordStore

/-- How far a client has come with a lock. -/
inductive LockPhase where
  | outside
  /-- The collection of locks has been prepared. -/
  | prepared
  /-- The client has no lock and may take one of a name. -/
  | away (name : String)
  /-- The lock of the client is stored under a key. -/
  | holding (name key : String)
  /-- Giving the lock back, the client has found it. -/
  | found (name key : String)
  /-- Giving the lock back has failed, and it is still stored. -/
  | left (name key : String)
  /-- The lock has been given back. -/
  | gone (name key : String)
  deriving DecidableEq

namespace LockPhase

def key? : LockPhase → Option String
  | holding _ key | found _ key | left _ key | gone _ key => some key
  | _ => none

def name? : LockPhase → Option String
  | away name | holding name _ | found name _ | left name _ | gone name _ => some name
  | _ => none

def stored? : LockPhase → Option (String × String)
  | holding name key | found name key | left name key => some (name, key)
  | _ => none

theorem key?_of_stored? {x : LockPhase} {name key : String} (stored : x.stored? = some (name, key)) :
    x.key? = some key := by
  cases x <;> simp_all [stored?, key?]

theorem name?_of_stored? {x : LockPhase} {name key : String} (stored : x.stored? = some (name, key)) :
    x.name? = some name := by
  cases x <;> simp_all [stored?, name?]

end LockPhase

namespace LockBackend

def protocol (collection : String) : Protocol LockPhase where
  allows
    | .away _, .now => True
    | .away _, .patience => True
    | .found _ _, .patience => True
    | .outside, .store (.hasCollection name) => name = collection
    | .outside, .store (.createCollection name options) => name = collection ∧ options = {}
    | .outside, .store (.ensureIndex name index) => name = collection ∧ index = nameIndex
    | .away name, .store (.insert other document) =>
      other = collection ∧ ∃ expires, document = lockDocument name expires
    | .holding name _, .store (.execute q) => q = holdersQuery collection name
    | .found _ key, .store (.delete name other rev ignoreMissing) =>
      name = collection ∧ other = key ∧ rev = none ∧ ignoreMissing = true
    | _, _ => False
  waits
    | .away _ => True
    | _ => False
  expects
    | .holding name key, .store (.execute _), answer => ∀ batch, answer = .ok batch →
      ∃ document, IsLock collection name (key, document) ∧ batch = ⟨none, [.object document], false, none, none⟩
    | _, _, _ => True
  after
    | .outside, .store (.ensureIndex _ _), .ok () => .prepared
    | .away name, .store (.insert _ _), .ok header => .holding name header.key
    | .holding name key, .store (.execute _), .ok _ => .found name key
    | .holding name key, .store (.execute _), .error _ => .left name key
    | .found name key, .store (.delete _ _ _ _), .ok _ => .gone name key
    | .found name key, .store (.delete _ _ _ _), .error _ => .left name key
    | x, _, _ => x

variable {collection : String}

/-- A client that has a lock keeps its key, whatever it is answered. -/
theorem isSome_key?_after (collection : String) {x : LockPhase} (keyed : x.key?.isSome) (action : Action)
    (answer : action.Answer) : ((protocol collection).after x action answer).key?.isSome := by
  cases x with
  | outside | prepared | away => cases keyed
  | left | gone => rfl
  | holding | found =>
    simp only [protocol]
    split <;> first | rfl | contradiction

/-! ### Preparing -/

/-- A client that has been told that the collection is prepared may use it; otherwise it stays outside. -/
def Prepared (x : LockPhase) (result : Except ClientError Unit) : Prop :=
  match result with
  | .ok () => x = .prepared
  | .error _ => x = .outside

theorem ensureIndex_follows :
    (Program.requestOr (Program.request (.ensureIndex collection nameIndex)) .store).Follows (protocol collection)
      Prepared .outside := by
  refine ⟨⟨rfl, rfl⟩, fun answer _ => ?_⟩
  cases answer <;> rfl

theorem prepare_follows : (prepare collection).Follows (protocol collection) Prepared .outside := by
  have indexed := @ensureIndex_follows collection
  refine ⟨rfl, fun answer _ => ?_⟩
  cases answer with
  | error e => rfl
  | ok found =>
    cases found with
    | true => exact indexed
    | false =>
      refine ⟨⟨rfl, rfl⟩, fun answer _ => ?_⟩
      cases answer with
      | ok => exact indexed
      | error e =>
        show (if _ then _ else _ : Program _).Follows _ _ _
        split
        · exact indexed
        · rfl

theorem create_follows : (create collection).Follows (protocol collection)
    (fun x result => match result with
      | .ok b => x = .prepared ∧ b = .overStore collection defaultPollDelay
      | .error _ => x = .outside) .outside :=
  .bind prepare_follows fun x result rests => by
    rcases result with e | ⟨⟩
    · exact rests
    · exact ⟨rests, rfl⟩

/-! ### Taking -/

/-- A client that has been told that it has the lock has stored it; otherwise it has none. -/
def Taken (name : String) (x : LockPhase) (result : Except ClientError Bool) : Prop :=
  match result with
  | .ok true => ∃ key, x = .holding name key
  | _ => x = .away name

theorem tryInsert_follows (name : String) :
    (tryInsert collection name).Follows (protocol collection) (Taken name) (.away name) := by
  refine ⟨trivial, fun now _ => ⟨⟨rfl, _, rfl⟩, fun answer _ => ?_⟩⟩
  cases answer with
  | ok header => exact ⟨header.key, rfl⟩
  | error e =>
    show (if _ then _ else _ : Program _).Follows _ _ _
    split <;> rfl

theorem insertWithin_follows (name : String) (tries : Nat) :
    (insertWithin collection name tries).Follows (protocol collection) (Taken name) (.away name) := by
  induction tries with
  | zero => trivial
  | succ tries ih =>
    refine .bind (tryInsert_follows name) ?_
    rintro x (e | taken) rests
    · exact rests
    · cases taken with
      | true => exact rests
      | false =>
        obtain rfl : x = .away name := rests
        exact ih

theorem acquire_follows (pollDelay : Nat) (name : String) (block : Bool) :
    ((overStore collection pollDelay).acquire name block).Follows (protocol collection) (Taken name) (.away name) := by
  cases block with
  | true => exact ⟨trivial, fun tries _ => insertWithin_follows name tries⟩
  | false => exact tryInsert_follows name

/-! ### Giving back -/

theorem toListAndDrop_single {item : Value} {l : LockDocument} (read : LockDocument.decode item = some l) :
    (RecordCursor.ofBatch ⟨none, [item], false, none, none⟩ : RecordCursor LockDocument).toListAndDrop =
      .act .patience fun _ => .done (.ok [l]) := by
  have value : (Record.ofValue item : Except ClientError LockDocument) = .ok l := by
    simp [Record.ofValue, Record.decode, read]
  have collected : ∀ tries, RecordCursor.collectWithin tries
      (RecordCursor.ofBatch ⟨none, [item], false, none, none⟩ : RecordCursor LockDocument) =
      .done (.ok [l], ⟨none, [], false, none, none, false⟩) := by
    intro tries
    cases tries <;> simp [RecordCursor.collectWithin, RecordCursor.ofBatch, RecordCursor.readAll, value]
  refine congrArg (Program.act .patience) (funext fun tries => ?_)
  show (((RecordCursor.collectWithin tries _).bind _).bind _) = _
  rw [collected]
  rfl

/-- Once the only lock of the name has been found, it is deleted. -/
theorem found_deleted {name key : String} {document : Document} (lock : IsLock collection name (key, document)) :
    (RecordCursor.toListAndDrop (.ofBatch ⟨none, [.object document], false, none, none⟩)).andThen
        (deleteAll collection) =
      .act .patience fun _ =>
        (Program.requestOr (Program.request (.delete collection key none true)) .store).andThen
          fun _ => .done (.ok ()) := by
  obtain ⟨l, read, keyed⟩ := lock.decode
  rw [toListAndDrop_single read]
  show (Program.act .patience fun _ => deleteAll collection [l]) = _
  simp only [deleteAll, keyed]

/-- A lock is gone if giving it back has not failed, and is still stored if it has. -/
def GivenBack (name key : String) (x : LockPhase) (result : Except ClientError Unit) : Prop :=
  match result with
  | .ok () => x = .gone name key
  | .error _ => x = .left name key

theorem release_follows (pollDelay : Nat) (name key : String) :
    ((overStore collection pollDelay).release name).Follows (protocol collection) (GivenBack name key)
      (.holding name key) := by
  refine ⟨rfl, fun answer expected => ?_⟩
  cases answer with
  | error e => rfl
  | ok batch =>
    obtain ⟨document, lock, rfl⟩ := expected batch rfl
    show ((RecordCursor.toListAndDrop _).andThen (deleteAll collection)).Follows _ _ _
    rw [found_deleted lock]
    refine ⟨trivial, fun tries _ => ⟨⟨rfl, rfl, rfl, rfl⟩, fun answer _ => ?_⟩⟩
    cases answer <;> rfl

/-- A lock is given back in three actions at most: the query, the question how often to fetch, and the deletion. -/
theorem release_ends (pollDelay : Nat) (name key : String) :
    ((overStore collection pollDelay).release name).EndsWithin (protocol collection) (fun _ => True) 3
      (.holding name key) := by
  intro answer expected
  cases answer with
  | error e => trivial
  | ok batch =>
    obtain ⟨document, lock, rfl⟩ := expected batch rfl
    show ((RecordCursor.toListAndDrop _).andThen (deleteAll collection)).EndsWithin _ _ 2 _
    rw [found_deleted lock]
    intro tries _ answer _
    cases answer <;> trivial

end LockBackend
end RecordStore
