import RecordStore.Record.Basic

/-!
# Sample vertices

Types of vertices to try a database with: identities with a payload of any shape, identities with optional
parts that keep the times of their saves, and people.
-/

namespace RecordStore
namespace Sample

structure Identity where
  stamp : Stamp := {}
  name : String := ""
  data : Value := .null
  deriving Repr

namespace Identity

/-- The attributes of an identity; a payload of null is left out. -/
def attributes (i : Identity) : Document :=
  Table.ofList (i.stamp.attributes ++ [("name", .string i.name)] ++
    attributeIfAny "data" (if i.data.isNull then none else some i.data))

def ofDocument? (document : Document) : Option Identity := do
  let stamp ← Stamp.ofDocument? document
  let name ← document.textOrEmpty? "name"
  return ⟨stamp, name, (document.get? "data").getD .null⟩

instance : Record Identity where
  type := ⟨"Identity", none, .vertex⟩
  stamp i := i.stamp
  restamp i s := { i with stamp := s }
  ends? _ := none
  encode i := some (.object i.attributes)
  decode value := value.asObject?.bind ofDocument?
  beforeSave := Record.noHook

end Identity

structure Nested where
  text : String := ""
  deriving DecidableEq, Repr

namespace Nested

def value (n : Nested) : Value := .object [("text", .string n.text)]

/-- Reads a nested text: an object, or an array of its only attribute. The attribute may be missing. -/
def ofValue? : Value → Option Nested
  | .object fields => (Document.textOrEmpty? fields "text").map Nested.mk
  | .array [] => some {}
  | .array [text] => text.asString?.map Nested.mk
  | _ => none

def optional? : Option Value → Option (Option Nested)
  | none | some .null => some none
  | some value => (ofValue? value).map some

end Nested

structure SaveTimes where
  created : Option Nat := none
  updated : Option Nat := none
  deriving DecidableEq, Repr

namespace SaveTimes

/-- Notes a save: the first one fixes the time of creation. -/
def touch (t : SaveTimes) (now : Nat) : SaveTimes :=
  ⟨some (t.created.getD now), some now⟩

def attributes (t : SaveTimes) : List (String × Value) :=
  attributeIfAny "time_created" (t.created.map Value.ofNat) ++
    attributeIfAny "time_updated" (t.updated.map Value.ofNat)

def ofDocument? (document : Document) : Option SaveTimes := do
  let created ← document.optionalNat? "time_created"
  let updated ← document.optionalNat? "time_updated"
  return ⟨created, updated⟩

end SaveTimes

/-- A named document with optional parts. A save notes its time, and takes `extra` from the context's text
`override_extra` if there is one. -/
structure ExtendedIdentity where
  stamp : Stamp := {}
  name : String := ""
  extra : Option String := none
  sub : Option Nested := none
  times : SaveTimes := {}
  deriving DecidableEq, Repr

namespace ExtendedIdentity

def orNull (value : Option Value) : Value := value.getD .null

def attributes (i : ExtendedIdentity) : Document :=
  Table.ofList (i.stamp.attributes ++
    [("name", .string i.name), ("extra", orNull (i.extra.map .string)),
      ("sub", orNull (i.sub.map Nested.value))] ++ i.times.attributes)

def ofDocument? (document : Document) : Option ExtendedIdentity := do
  let stamp ← Stamp.ofDocument? document
  let name ← document.textOrEmpty? "name"
  let extra ← document.optionalText? "extra"
  let sub ← Nested.optional? (document.get? "sub")
  let times ← SaveTimes.ofDocument? document
  return ⟨stamp, name, extra, sub, times⟩

def touch (context : SaveContext) (now : Nat) (i : ExtendedIdentity) : ExtendedIdentity :=
  { i with
    times := i.times.touch now
    extra := (Document.text? context "override_extra").or i.extra }

instance : Record ExtendedIdentity where
  type := ⟨"ExtendedIdentity", some "ext_identities", .vertex⟩
  stamp i := i.stamp
  restamp i s := { i with stamp := s }
  ends? _ := none
  encode i := some (.object i.attributes)
  decode value := value.asObject?.bind ofDocument?
  beforeSave _ context now i := (.ok (), i.touch context now)

end ExtendedIdentity

structure Person where
  stamp : Stamp := {}
  name : String := ""
  deriving DecidableEq, Repr

namespace Person

def attributes (p : Person) : Document :=
  Table.ofList (p.stamp.attributes ++ [("name", .string p.name)])

def ofDocument? (document : Document) : Option Person := do
  let stamp ← Stamp.ofDocument? document
  let name ← document.text? "name"
  return ⟨stamp, name⟩

instance : Record Person where
  type := ⟨"Person", none, .vertex⟩
  stamp p := p.stamp
  restamp p s := { p with stamp := s }
  ends? _ := none
  encode p := some (.object p.attributes)
  decode value := value.asObject?.bind ofDocument?
  beforeSave := Record.noHook

end Person

end Sample
end RecordStore
