import RecordStore.Client.Error
import RecordStore.Record.Attributes
import RecordStore.Record.Endpoint
import RecordStore.Store.Basic

/-!
# Records

A record is a value of a type of its own that can be written to a document and read back. It carries a stamp:
the key and the revision that the store gave it. The revision is empty until the record has been written.
-/

namespace RecordStore

/-- Key and revision of a record. -/
structure Stamp where
  key : Option String := none
  /-- The revision of the last write; empty before the first one. -/
  rev : String := ""
  deriving DecidableEq, Repr

namespace Stamp

def withKey (key : String) : Stamp := ⟨some key, ""⟩

/-- The stamp that a write left. -/
def ofHeader (h : Header) : Stamp := ⟨some h.key, h.rev⟩

def attributes (s : Stamp) : List (String × Value) :=
  attributeIfAny Attribute.key (s.key.map .string) ++ [(Attribute.rev, .string s.rev)]

def ofDocument? (document : Document) : Option Stamp := do
  let key ← document.optionalText? Attribute.key
  let rev ← document.textOrEmpty? Attribute.rev
  return ⟨key, rev⟩

end Stamp

abbrev SaveContext := Table Value

/-- A type of records. -/
class Record (ρ : Type) where
  type : RecordType
  stamp : ρ → Stamp
  restamp : ρ → Stamp → ρ
  /-- The ends of an edge. -/
  ends? : ρ → Option Ends
  /-- The value of a record, without the ends of an edge; some records refuse to have one. -/
  encode : ρ → Option Value
  /-- Reads a stored document. -/
  decode : Value → Option ρ
  /-- The hook that runs before a save. It is told whether the record is new, what the program hands over and
  the time in milliseconds. What it changes stays changed if it refuses the save. -/
  beforeSave : Bool → SaveContext → Nat → ρ → Except ClientError Unit × ρ

namespace Record

variable {ρ : Type} [Record ρ]

def noHook {ρ : Type} (_ : Bool) (_ : SaveContext) (_ : Nat) (r : ρ) : Except ClientError Unit × ρ :=
  (.ok (), r)

def typeName (ρ : Type) [Record ρ] : String := (type ρ).name

def kind (ρ : Type) [Record ρ] : RecordKind := (type ρ).kind

def key (r : ρ) : Option String := (stamp r).key

def rev (r : ρ) : String := (stamp r).rev

/-- The revision that a store can check, which a new record does not have. -/
def rev? (r : ρ) : Option String :=
  if rev r = "" then none else some (rev r)

def isPersisted (r : ρ) : Bool := rev r ≠ ""

/-- What an edge needs to know of a record. -/
def vertex (r : ρ) : Vertex := ⟨type ρ, key r⟩

def withKey (r : ρ) (key : String) : ρ := restamp r { stamp r with key := some key }

/-- Reads a stored document. -/
def ofValue (value : Value) : Except ClientError ρ :=
  match decode value with
  | some r => .ok r
  | none => .error .serialization

end Record

end RecordStore
