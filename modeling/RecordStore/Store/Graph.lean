/-!
# Graph definitions

A graph names edge collections, the vertex collections that each may connect, and vertex collections besides
these. All names are resolved.
-/

namespace RecordStore

/-- An edge collection and the vertex collections that its edges may leave and enter. -/
structure EdgeDefinition where
  edges : String
  sources : List String
  targets : List String
  deriving DecidableEq, Repr

namespace EdgeDefinition

def touches (d : EdgeDefinition) (collection : String) : Bool :=
  d.sources.contains collection || d.targets.contains collection

end EdgeDefinition

structure GraphDefinition where
  name : String
  edgeDefinitions : List EdgeDefinition
  orphans : List String
  deriving DecidableEq, Repr

namespace GraphDefinition

def hasVertices (g : GraphDefinition) (collection : String) : Bool :=
  g.orphans.contains collection || g.edgeDefinitions.any (·.touches collection)

/-- The first edge definition of an edge collection. -/
def edgeDefinition? (g : GraphDefinition) (collection : String) : Option EdgeDefinition :=
  g.edgeDefinitions.find? fun d => d.edges = collection

def distinct (names : List String) : List String :=
  names.foldl (fun seen name => if seen.contains name then seen else seen ++ [name]) []

/-- Every collection of the graph once: the edge collections, then the vertex collections. -/
def collections (g : GraphDefinition) : List String :=
  distinct (g.edgeDefinitions.map (·.edges) ++
    g.edgeDefinitions.flatMap (fun d => d.sources ++ d.targets) ++ g.orphans)

end GraphDefinition

end RecordStore
