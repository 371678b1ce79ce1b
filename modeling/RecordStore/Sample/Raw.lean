import RecordStore.Record.Basic

/-!
# Raw records

A raw record holds any value, and its hook and its conversion can be made to fail: a value with the attribute
`$fail` refuses to be written, and a context with the text `reject` refuses the save. A context with `mark` leaves
its mark in the value.
-/

namespace RecordStore
namespace Sample

structure Raw where
  stamp : Stamp := {}
  value : Value := .null
  deriving Repr

namespace Raw

/-- The value, unless it refuses to be written. -/
def encode (r : Raw) : Option Value :=
  match r.value with
  | .object fields => if Table.has fields "$fail" then none else some r.value
  | _ => some r.value

/-- Takes any value over whole. What of its stamp is no text counts as missing. -/
def ofValue (value : Value) : Raw :=
  let document := value.asObject?.getD []
  ⟨⟨document.text? Attribute.key, (document.text? Attribute.rev).getD ""⟩, value⟩

def mark (isNew : Bool) (sign : Value) (r : Raw) : Raw :=
  match r.value with
  | .object fields => { r with value := .object ((Table.set fields "mark" sign).set "new" (.bool isNew)) }
  | _ => r

def beforeSave (isNew : Bool) (context : SaveContext) (_ : Nat) (r : Raw) : Except ClientError Unit × Raw :=
  match Document.text? context "reject" with
  | some message => (.error (.invalidRecord (.rejected message)), r)
  | none =>
    match context.get? "mark" with
    | some sign => (.ok (), r.mark isNew sign)
    | none => (.ok (), r)

instance : Record Raw where
  type := ⟨"Raw", none, .vertex⟩
  stamp r := r.stamp
  restamp r s := { r with stamp := s }
  ends? _ := none
  encode := encode
  decode value := some (ofValue value)
  beforeSave := beforeSave

end Raw

end Sample
end RecordStore
