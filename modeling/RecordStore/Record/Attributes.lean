import RecordStore.Value.Basic

/-!
# Attributes of records

How records read their attributes from documents. An attribute that a record needs must be there and have the
right kind; one with a default may be missing; an optional one may also be null. Attributes that a record does
not know are ignored.
-/

namespace RecordStore
namespace Document

/-- A text that may be missing and is then empty. -/
def textOrEmpty? (document : Document) (field : String) : Option String :=
  match document.get? field with
  | none => some ""
  | some value => value.asString?

def optionalText? (document : Document) (field : String) : Option (Option String) :=
  match document.get? field with
  | none | some .null => some none
  | some value => value.asString?.map some

def optionalNat? (document : Document) (field : String) : Option (Option Nat) :=
  match document.get? field with
  | none | some .null => some none
  | some value => value.asNat?.map some

end Document

/-- An attribute that is written only if there is a value. -/
def attributeIfAny (field : String) (value : Option Value) : List (String × Value) :=
  value.toList.map fun v => (field, v)

end RecordStore
