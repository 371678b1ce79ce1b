import RecordStore.Client.Lock
import RecordStore.Record.Document

/-!
# Databases

A database binds a store to a way of naming things, of generating keys and of keeping locks. This module holds
what all ways of saving a record have in common.
-/

namespace RecordStore

/-- How a database names things, generates keys and keeps locks. -/
structure Config where
  names : Names := {}
  /-- Keys for new vertices by their number; without it the store assigns keys. -/
  keyGenerator : Option (Nat → String) := none
  lockBackend : Option LockBackend := none
  /-- What the names of locks begin with. -/
  lockNamePrefix : String := "docgraph_"

/-- A database, with the vertices that its program shares with edges. -/
structure Database where
  config : Config := {}
  shared : Nat → Option Vertex := fun _ => none

/-- Where a record is saved: in its collection alone, or through a graph. -/
inductive SaveTarget where
  | collection
  | graph (name : String)
  deriving DecidableEq, Repr

namespace SaveTarget

def operation : SaveTarget → Operation
  | collection => .save
  | graph _ => .graphSave

def write (t : SaveTarget) (kind : RecordKind) (isNew : Bool) (name : String) (document : Document) :
    Program (Except StoreError Header) :=
  match t, kind, isNew with
  | collection, _, true => Program.request (.insert name document)
  | collection, _, false => Program.request (.replace name document)
  | graph g, .vertex, true => Program.request (.insertVertex g name document)
  | graph g, .vertex, false => Program.request (.replaceVertex g name document)
  | graph g, .edge, true => Program.request (.insertEdge g name document)
  | graph g, .edge, false => Program.request (.replaceEdge g name document)

end SaveTarget

namespace Database

variable {ρ : Type} [Record ρ]

def directory (db : Database) : Directory := ⟨db.config.names, db.shared⟩

def note (types : List RecordType) : Program Unit :=
  if types.isEmpty then .done () else Program.ofAction (.note (types.map .collection))

def identifier (db : Database) (r : ρ) : Program (Option String) :=
  let vertex := Record.vertex r
  (note (if vertex.key.isSome then [vertex.type] else [])).bind fun () =>
    .done (vertex.identifier db.config.names)

def resolve (db : Database) (e : Endpoint) : Program (Option String) :=
  (note (e.asked db.directory)).bind fun () => .done (e.resolve db.directory)

/-- Gives a new vertex without a key a generated one, if keys are generated. -/
def assignKey (db : Database) (r : ρ) : Program ρ :=
  match db.config.keyGenerator with
  | some key =>
    if Record.kind ρ = .vertex && (Record.key r).isNone then
      (Program.ofAction .keyNumber).bind fun n => .done (Record.withKey r (key n))
    else .done r
  | none => .done r

/-- The document of a record after the hook has run. The record keeps what the hook changed. -/
def hookAndEncode (db : Database) (name : String) (isNew : Bool) (context : SaveContext) (r : ρ) :
    Program (Except ClientError Document × ρ) :=
  (Program.ofAction .now).bind fun now =>
    match Record.beforeSave isNew context now r with
    | (.error e, r) => .done (.error e, r)
    | (.ok (), r) =>
      (note (Record.asked r db.directory)).bind fun () => .done (Record.document r db.directory name, r)

/-- Saves a record under a collection's name: one that was never written is inserted, another one replaces the
document at its revision. Afterwards the record carries the key and the revision of the write. -/
def persist (db : Database) (target : SaveTarget) (name : String) (context : SaveContext) (r : ρ) :
    Program (Except ClientError Unit × ρ) :=
  let isNew := !Record.isPersisted r
  (if isNew then db.assignKey r else .done r).bind fun r =>
    (db.hookAndEncode name isNew context r).bind fun
      | (.error e, r) => .done (.error e, r)
      | (.ok document, r) =>
        (target.write (Record.kind ρ) isNew name document).bind fun
          | .error e => .done (.error (e.translate target.operation (Record.typeName ρ)), r)
          | .ok header => .done (.ok (), Record.restamp r (.ofHeader header))

end Database

end RecordStore
