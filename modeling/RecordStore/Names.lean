import RecordStore.Text.Plural

/-!
# Names

Record types and graph types say what they are called; the names of their collections and graphs in a store
follow from that, from naming rules and from a prefix that all names of one database share.
-/

namespace RecordStore

inductive RecordKind where
  | vertex
  | edge
  deriving DecidableEq, Repr

structure RecordType where
  name : String
  /-- The name of the collection, where it does not follow from the name of the type. -/
  collection : Option String := none
  kind : RecordKind := .vertex
  deriving DecidableEq, Repr

structure EdgeSpec where
  edge : RecordType
  sources : List RecordType
  targets : List RecordType
  deriving DecidableEq, Repr

structure GraphType where
  name : String
  /-- The name of the graph, where it does not follow from the name of the type. -/
  graph : Option String := none
  edges : List EdgeSpec := []
  orphans : List RecordType := []
  deriving DecidableEq, Repr

inductive Subject where
  | collection (type : RecordType)
  | graph (type : GraphType)
  deriving DecidableEq, Repr

/-- The rules by which names are made. -/
structure Names where
  namePrefix : String := ""
  collectionRule : String → String := Text.pluralSnakeCase
  graphRule : String → String := Text.snakeCase

namespace Names

def collection (n : Names) (type : RecordType) : String :=
  n.namePrefix ++ type.collection.getD (n.collectionRule type.name)

def graph (n : Names) (type : GraphType) : String :=
  n.namePrefix ++ type.graph.getD (n.graphRule type.name)

end Names

namespace GraphType

/-- The record types whose collections a graph definition names, in the order in which it names them. -/
def recordTypes (g : GraphType) : List RecordType :=
  g.edges.flatMap (fun e => e.edge :: e.sources ++ e.targets) ++ g.orphans

end GraphType

end RecordStore
