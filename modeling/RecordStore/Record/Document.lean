import RecordStore.Record.Basic

/-!
# Documents of records

The document under which a record is stored is the record's value with the system attributes set from the
stamp: key and identifier together or neither, the revision only after a first write, and the ends of an edge
as the identifiers that they stand for now.
-/

namespace RecordStore

namespace Stamp

/-- Sets key and identifier in a document, or removes both if there is no key. -/
def identify (s : Stamp) (collection : String) (document : Document) : Document :=
  match s.key with
  | some key =>
    (document.setText Attribute.key key).setText Attribute.id (Store.idOf collection key)
  | none => (document.erase Attribute.key).erase Attribute.id

/-- Sets the revision in a document, or removes it if nothing has been written yet. -/
def mark (s : Stamp) (document : Document) : Document :=
  if s.rev = "" then document.erase Attribute.rev else document.setText Attribute.rev s.rev

end Stamp

namespace Ends

def attach (ends : Ends) (d : Directory) (typeName : String) (document : Document) :
    Except ClientError Document :=
  match ends.source.resolve d with
  | none => .error (.modelNotFound (.endpointWithoutKey Attribute.source typeName))
  | some source =>
    match ends.target.resolve d with
    | none => .error (.modelNotFound (.endpointWithoutKey Attribute.target typeName))
    | some target => .ok ((document.setText Attribute.source source).setText Attribute.target target)

def asked (ends : Ends) (d : Directory) : List RecordType :=
  ends.source.asked d ++ if (ends.source.resolve d).isSome then ends.target.asked d else []

end Ends

namespace Record

variable {ρ : Type} [Record ρ]

/-- The attributes of a record, if it can be written as an object. -/
def fields (r : ρ) : Except ClientError Document :=
  match encode r with
  | none => .error .serialization
  | some (.object fields) => .ok fields
  | some value => .error (.invalidRecord (.notAnObject (typeName ρ) value.kind))

def document (r : ρ) (d : Directory) (collection : String) : Except ClientError Document :=
  match fields r with
  | .error e => .error e
  | .ok fields =>
    let document := (stamp r).mark ((stamp r).identify collection fields)
    match ends? r with
    | none => .ok document
    | some ends => ends.attach d (typeName ρ) document

def asked (r : ρ) (d : Directory) : List RecordType :=
  match fields r, ends? r with
  | .ok _, some ends => ends.asked d
  | _, _ => []

end Record

end RecordStore
