import RecordStore.Sample.Edges
import RecordStore.Sample.Raw
import RecordStore.Sample.Vertices

/-!
# Sample types and graphs

The sample types by name, and graphs over them: one for each kind of relation between people, a mixed one with a
name of its own, and one without edges.
-/

namespace RecordStore
namespace Sample

inductive Kind where
  | identity
  | extendedIdentity
  | person
  | link
  | relation
  | secondaryRelation
  | raw
  deriving DecidableEq, Repr

namespace Kind

def all : List Kind :=
  [identity, extendedIdentity, person, link, relation, secondaryRelation, raw]

abbrev Rec : Kind → Type
  | identity => Identity
  | extendedIdentity => ExtendedIdentity
  | person => Person
  | link => Link
  | relation => Relation
  | secondaryRelation => SecondaryRelation
  | raw => Raw

instance (k : Kind) : Record k.Rec :=
  match k with
  | identity => inferInstanceAs (Record Identity)
  | extendedIdentity => inferInstanceAs (Record ExtendedIdentity)
  | person => inferInstanceAs (Record Person)
  | link => inferInstanceAs (Record Link)
  | relation => inferInstanceAs (Record Relation)
  | secondaryRelation => inferInstanceAs (Record SecondaryRelation)
  | raw => inferInstanceAs (Record Raw)

def type (k : Kind) : RecordType := Record.type k.Rec

def name (k : Kind) : String := k.type.name

def ofName? (name : String) : Option Kind :=
  all.find? fun k => k.name = name

/-- A record with other ends, if it is an edge. -/
def withEnds : (k : Kind) → k.Rec → Ends → k.Rec
  | link, e, ends => { e with ends := ends }
  | relation, e, ends => { e with ends := ends }
  | secondaryRelation, e, ends => { e with ends := ends }
  | identity, i, _ => i
  | extendedIdentity, i, _ => i
  | person, p, _ => p
  | raw, r, _ => r

end Kind

def relationGraph : GraphType :=
  ⟨"RelationGraph", none, [⟨Kind.relation.type, [Kind.person.type], [Kind.person.type]⟩], []⟩

def secondaryRelationGraph : GraphType :=
  ⟨"SecondaryRelationGraph", none,
    [⟨Kind.secondaryRelation.type, [Kind.person.type], [Kind.person.type]⟩], []⟩

def mixedGraph : GraphType :=
  ⟨"MixedGraph", some "mixed",
    [⟨Kind.link.type, [Kind.identity.type, Kind.person.type], [Kind.person.type]⟩,
      ⟨Kind.relation.type, [Kind.person.type], [Kind.raw.type]⟩],
    [Kind.extendedIdentity.type]⟩

def emptyGraph : GraphType :=
  ⟨"EmptyHTTPGraph", none, [], []⟩

def graphs : List GraphType :=
  [relationGraph, secondaryRelationGraph, mixedGraph, emptyGraph]

def graph? (name : String) : Option GraphType :=
  graphs.find? fun g => g.name = name

end Sample
end RecordStore
