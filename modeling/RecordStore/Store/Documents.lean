import RecordStore.Store.Basic

/-!
# Documents

Inserting, replacing, deleting and reading the documents of a collection. A write that is refused leaves the
state as it was, except that an insert may have used up numbers for keys. A written document carries its key,
its identifier and a revision that no write before had.
-/

namespace RecordStore
namespace Store

def revisionDigits (n : Nat) : String :=
  let digits := Nat.toDigits 16 n
  String.ofList (List.replicate (8 - digits.length) '0' ++ digits)

def revision (n : Nat) : String :=
  "_r" ++ revisionDigits n

/-- The first number after another whose text is not among some keys. Each key can rule out one number only, so
as many steps as there are keys are enough. -/
def nextFree (taken : List String) : Nat → Nat → Nat
  | 0, n => n + 1
  | steps + 1, n =>
    if taken.contains (toString (n + 1)) then nextFree taken steps (n + 1) else n + 1

def nextKey (s : Store) (c : Collection) : Nat :=
  nextFree c.keys c.documents.length s.keyCounter

/-- The first endpoint that an edge document lacks. -/
def badEndpoint? (document : Document) : Option String :=
  [Attribute.source, Attribute.target].find? fun field => (endpoint? document field).isNone

def missingEndpoint? (c : Collection) (document : Document) : Option String :=
  if c.options.kind = .edge then badEndpoint? document else none

inductive KeyChoice where
  | assigned
  | given (key : String)
  | refused (r : Refusal)

def isKey (key : String) : Bool :=
  key ≠ "" && !key.toList.contains '/'

/-- Where the key of a new document comes from: null and nothing leave it to the store. -/
def keyChoice (collection : String) (c : Collection) (document : Document) : KeyChoice :=
  match document.get? Attribute.key with
  | none | some .null => .assigned
  | some value =>
    if !c.options.userKeys then .refused (.keyNotAllowed collection)
    else
      match value with
      | .string key => if isKey key then .given key else .refused (.illegalKey value)
      | _ => .refused (.illegalKey value)

/-- The document with the system attributes of a write. -/
def stamp (collection key : String) (rev : Nat) (document : Document) : Document :=
  ((document.setText Attribute.key key).setText Attribute.id (idOf collection key)).setText
    Attribute.rev (revision rev)

def setCollection (s : Store) (name : String) (c : Collection) : Store :=
  { s with collections := s.collections.set name c }

def insertAt (s : Store) (collection : String) (c : Collection) (key : String) (document : Document) :
    Outcome Header :=
  if c.hasKey key then (.error (.keyTaken collection key), s)
  else
    match c.clash? document key with
    | some index => (.error (.notUnique collection index.fields), s)
    | none =>
      let rev := s.revCounter + 1
      let document := stamp collection key rev document
      (.ok (Header.ofDocument document),
        { s.setCollection collection (c.push key document) with revCounter := rev })

/-- Adds a document. The store assigns the key if the document brings none. -/
def insert (s : Store) (collection : String) (document : Document) : Outcome Header :=
  match s.collections.get? collection with
  | none => (.error (.collectionMissing collection), s)
  | some c =>
    match missingEndpoint? c document with
    | some field => (.error (.badEndpoint field), s)
    | none =>
      match keyChoice collection c document with
      | .refused r => (.error r, s)
      | .given key => s.insertAt collection c key document
      | .assigned =>
        let n := s.nextKey c
        { s with keyCounter := n }.insertAt collection c (toString n) document

/-- The revision that a document presents; an empty one does not count. -/
def presentedRev? (document : Document) : Option String :=
  (document.text? Attribute.rev).filter fun rev => rev ≠ ""

/-- Whether a presented revision differs from that of a stored document. -/
def isStale (presented : Option String) (stored : Document) : Bool :=
  presented.isSome && stored.text? Attribute.rev != presented

def replace (s : Store) (collection : String) (document : Document) : Outcome Header :=
  match (document.text? Attribute.key).filter fun key => key ≠ "" with
  | none => (.error .keyRequired, s)
  | some key =>
    match s.collections.get? collection with
    | none => (.error (.collectionMissing collection), s)
    | some c =>
      match missingEndpoint? c document with
      | some field => (.error (.badEndpoint field), s)
      | none =>
        match c.find? key with
        | none => (.error (.documentMissing collection key), s)
        | some stored =>
          if isStale (presentedRev? document) stored then (.error (.staleRevision collection key), s)
          else
            match c.clash? document key with
            | some index => (.error (.notUnique collection index.fields), s)
            | none =>
              let rev := s.revCounter + 1
              let document := stamp collection key rev document
              (.ok (Header.ofDocument document),
                { s.setCollection collection (c.put key document) with revCounter := rev })

/-- Deletes a document; the answer says whether there was one. -/
def delete (s : Store) (collection key : String) (rev : Option String) (ignoreMissing : Bool) :
    Outcome Bool :=
  match s.collections.get? collection with
  | none => (.error (.collectionMissing collection), s)
  | some c =>
    match c.find? key with
    | none => (if ignoreMissing then .ok false else .error (.documentMissing collection key), s)
    | some stored =>
      if isStale (rev.filter fun rev => rev ≠ "") stored then (.error (.staleRevision collection key), s)
      else (.ok true, s.setCollection collection (c.remove key))

def collection (s : Store) (name : String) : Except Refusal Collection :=
  match s.collections.get? name with
  | some c => .ok c
  | none => .error (.collectionMissing name)

def find (s : Store) (collection key : String) : Except Refusal (Option Document) :=
  (s.collection collection).map (·.find? key)

def keys (s : Store) (collection : String) : Except Refusal (List String) :=
  (s.collection collection).map (·.keys)

def count (s : Store) (collection : String) : Except Refusal Nat :=
  (s.collection collection).map (·.documents.length)

end Store
end RecordStore
