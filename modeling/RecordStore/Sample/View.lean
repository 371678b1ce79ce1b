import RecordStore.Client.Database
import RecordStore.Sample.Graphs

/-!
# Views of sample records

A sample record is shown as its attributes, an edge also with the identifiers of its ends as far as these are
known, and a raw record with its value apart from its stamp. Views can be read back; the ends of an edge are then
given separately.
-/

namespace RecordStore
namespace Sample
namespace Kind

def plainView (k : Kind) (r : k.Rec) : Document :=
  match k, r with
  | raw, (r : Raw) =>
    Table.ofList (r.stamp.attributes ++
      [(Attribute.key, ((r.stamp.key.map .string).getD .null)), ("value", r.value)])
  | k, r => ((Record.encode (r : k.Rec)).bind Value.asObject?).getD []

def identifierValue : Option String → Value
  | some id => .string id
  | none => .null

def view (k : Kind) (db : Database) (r : k.Rec) : Program Document :=
  let fields := k.plainView r
  match Record.ends? r with
  | none => .done fields
  | some ends =>
    (db.resolve ends.source).bind fun source =>
      (db.resolve ends.target).bind fun target =>
        .done ((fields.set Attribute.source (identifierValue source)).set Attribute.target
          (identifierValue target))

def views (k : Kind) (db : Database) : List k.Rec → Program (List Document)
  | [] => .done []
  | r :: rest => (k.view db r).bind fun shown => (views k db rest).bind fun others => .done (shown :: others)

/-- Reads a record that is no edge, or the rest of an edge with ends that stand for others. -/
def ofPlainView? (k : Kind) (json : Value) : Option k.Rec :=
  match k with
  | raw =>
    let fields := json.asObject?.getD []
    some (⟨⟨fields.text? Attribute.key, (fields.text? Attribute.rev).getD ""⟩,
      (fields.get? "value").getD .null⟩ : Raw)
  | k =>
    match json, k.type.kind with
    | .object fields, .edge =>
      let anywhere := Value.string "a/b"
      (Record.decode (.object ((Table.set fields Attribute.source anywhere).set Attribute.target anywhere)) :
        Option k.Rec)
    | json, _ => (Record.decode json : Option k.Rec)

def ofView? (k : Kind) (json : Value) (ends : Option Ends) : Option k.Rec :=
  (k.ofPlainView? json).map fun r =>
    match ends with
    | some ends => k.withEnds r ends
    | none => r

/-- A new record of a sample type: vertices have a name, identities also a payload, and edges ends and a text. -/
def make (k : Kind) (name : String) (data : Value) (ends : Ends) (text : String) : k.Rec :=
  match k with
  | identity => ({ name := name, data := data } : Identity)
  | extendedIdentity => ({ name := name } : ExtendedIdentity)
  | person => ({ name := name } : Person)
  | link => ({ ends := ends, text := text } : Link)
  | relation => ({ ends := ends, text := text } : Relation)
  | secondaryRelation => ({ ends := ends, text := text } : SecondaryRelation)
  | raw => ({} : Raw)

end Kind
end Sample
end RecordStore
