import RecordStore.Record.Basic

/-!
# Sample edges

Edges that carry one text. Their types differ in name and in the attribute that holds the text.
-/

namespace RecordStore
namespace Sample

structure TextEdge (name field : String) where
  stamp : Stamp := {}
  ends : Ends
  text : String
  deriving DecidableEq, Repr

namespace TextEdge

variable {name field : String}

/-- The attributes of an edge. Its ends are not among them: they are identifiers only when it is stored. -/
def attributes (e : TextEdge name field) : Document :=
  Table.ofList (e.stamp.attributes ++ [(field, .string e.text)])

/-- Reads an edge, whose ends are identifiers then. -/
def ofDocument? (document : Document) : Option (TextEdge name field) := do
  let stamp ← Stamp.ofDocument? document
  let source ← document.text? Attribute.source
  let target ← document.text? Attribute.target
  let text ← document.text? field
  return ⟨stamp, ⟨.id source, .id target⟩, text⟩

instance : Record (TextEdge name field) where
  type := ⟨name, none, .edge⟩
  stamp e := e.stamp
  restamp e s := { e with stamp := s }
  ends? e := some e.ends
  encode e := some (.object e.attributes)
  decode value := value.asObject?.bind ofDocument?
  beforeSave := Record.noHook

end TextEdge

abbrev Link := TextEdge "Link" "type"

abbrev Relation := TextEdge "Relation" "kind"

abbrev SecondaryRelation := TextEdge "SecondaryRelation" "kind"

end Sample
end RecordStore
