import RecordStore.Store.Documents

/-!
# Collections, indexes and graphs

Creating and dropping what documents live in. A graph brings the collections that it names into being if they
are not there, and on request takes along those that no other graph names.
-/

namespace RecordStore
namespace Store

def createCollection (s : Store) (name : String) (options : CollectionOptions) : Outcome Unit :=
  if s.collections.has name then (.error (.collectionExists name), s)
  else (.ok (), s.setCollection name { options := options })

/-- Drops a collection; the answer says whether there was one. -/
def deleteCollection (s : Store) (name : String) (ignoreMissing : Bool) : Outcome Bool :=
  if s.collections.has name then (.ok true, { s with collections := s.collections.erase name })
  else (if ignoreMissing then .ok false else .error (.collectionMissing name), s)

def truncateCollection (s : Store) (name : String) : Outcome Unit :=
  match s.collections.get? name with
  | none => (.error (.collectionMissing name), s)
  | some c => (.ok (), s.setCollection name { c with documents := [] })

def hasRepetition : List (List Value) → Bool
  | [] => false
  | values :: rest => rest.any (Value.sameItems values) || hasRepetition rest

/-- Creates an index unless there is one like it. A unique one needs values that are all different. -/
def ensureIndex (s : Store) (collection : String) (index : IndexSpec) : Outcome Unit :=
  match s.collections.get? collection with
  | none => (.error (.collectionMissing collection), s)
  | some c =>
    if c.indexes.any (·.alike index) then (.ok (), s)
    else if index.unique && hasRepetition (c.contents.filterMap index.values?) then
      (.error (.repeatedValues index.fields), s)
    else (.ok (), s.setCollection collection { c with indexes := c.indexes ++ [index] })

def ensureCollection (s : Store) (name : String) (options : CollectionOptions) : Store :=
  if s.collections.has name then s else s.setCollection name { options := options }

/-- Creates a graph, its edge collections first and then its other collections. -/
def createGraph (s : Store) (g : GraphDefinition) : Outcome Unit :=
  if s.graphs.has g.name then (.error (.graphExists g.name), s)
  else
    let s := g.edgeDefinitions.foldl (fun s d => s.ensureCollection d.edges .edge) s
    let s := g.collections.foldl (fun s name => s.ensureCollection name {}) s
    (.ok (), { s with graphs := s.graphs.set g.name g })

def isGraphCollection (graphs : Table GraphDefinition) (name : String) : Bool :=
  graphs.values.any fun g => g.collections.contains name

/-- Drops a graph; on request the collections that no other graph names go with it. -/
def deleteGraph (s : Store) (name : String) (ignoreMissing dropCollections : Bool) : Outcome Bool :=
  match s.graphs.get? name with
  | none => (if ignoreMissing then .ok false else .error (.graphMissing name), s)
  | some g =>
    let graphs := s.graphs.erase name
    let dropped := if dropCollections then g.collections.filter (!isGraphCollection graphs ·) else []
    (.ok true, { s with graphs := graphs, collections := dropped.foldl Table.erase s.collections })

def graph (s : Store) (name : String) : Except Refusal GraphDefinition :=
  match s.graphs.get? name with
  | some g => .ok g
  | none => .error (.graphMissing name)

def checkVertexCollection (s : Store) (graph collection : String) : Except Refusal Unit := do
  let g ← s.graph graph
  if g.hasVertices collection then return ()
  else throw (.notAVertexCollection collection graph)

def edgeDefinition (s : Store) (graph collection : String) : Except Refusal EdgeDefinition := do
  let g ← s.graph graph
  match g.edgeDefinition? collection with
  | some d => return d
  | none => throw (.notAnEdgeCollection collection graph)

/-- Checks one endpoint of an edge: it is well formed, its collection is allowed and the vertex exists. -/
def checkEndpoint (s : Store) (document : Document) (field : String) (allowed : List String) :
    Except Refusal Unit :=
  match endpoint? document field with
  | none => .error (.badEndpoint field)
  | some (collection, key) =>
    if !allowed.contains collection then .error (.endpointNotAllowed collection)
    else if (s.collections.get? collection).any (·.hasKey key) then .ok ()
    else .error (.documentMissing collection key)

def checkEndpoints (s : Store) (graph collection : String) (document : Document) :
    Except Refusal Unit := do
  let d ← s.edgeDefinition graph collection
  s.checkEndpoint document Attribute.source d.sources
  s.checkEndpoint document Attribute.target d.targets

/-- Goes on with an operation after a check that changes nothing. -/
def after {α : Type} (s : Store) (check : Except Refusal Unit) (next : Store → Outcome α) : Outcome α :=
  match check with
  | .error r => (.error r, s)
  | .ok () => next s

def insertVertex (s : Store) (graph collection : String) (document : Document) : Outcome Header :=
  s.after (s.checkVertexCollection graph collection) (·.insert collection document)

def insertEdge (s : Store) (graph collection : String) (document : Document) : Outcome Header :=
  s.after (s.checkEndpoints graph collection document) (·.insert collection document)

def replaceVertex (s : Store) (graph collection : String) (document : Document) : Outcome Header :=
  s.after (s.checkVertexCollection graph collection) (·.replace collection document)

def replaceEdge (s : Store) (graph collection : String) (document : Document) : Outcome Header :=
  s.after (s.checkEndpoints graph collection document) (·.replace collection document)

def deleteEdge (s : Store) (graph collection key : String) (rev : Option String) (ignoreMissing : Bool) :
    Outcome Bool :=
  s.after ((s.edgeDefinition graph collection).map fun _ => ())
    (·.delete collection key rev ignoreMissing)

/-- The edge collections that may connect vertices of a collection, in all graphs. -/
def edgeCollectionsOf (s : Store) (collection : String) : List String :=
  ((s.graphs.values.flatMap (·.edgeDefinitions)).filter (·.touches collection)).map (·.edges)

def isIncident (vertex : String) (edge : Document) : Bool :=
  edge.text? Attribute.source = some vertex || edge.text? Attribute.target = some vertex

/-- Removes the edges at a vertex from a collection. -/
def Collection.withoutEdgesAt (c : Collection) (vertex : String) : Collection :=
  { c with documents := c.documents.filter fun entry => !isIncident vertex entry.2 }

def removeIncidentEdges (s : Store) (collection vertex : String) : Store :=
  { s with
    collections := (s.edgeCollectionsOf collection).foldl
      (fun collections name => collections.modify name (Collection.withoutEdgesAt · vertex)) s.collections }

/-- Deletes a vertex through a graph, and with it the edges at the vertex in all graphs. -/
def deleteVertex (s : Store) (graph collection key : String) (rev : Option String) (ignoreMissing : Bool) :
    Outcome Bool :=
  s.after (s.checkVertexCollection graph collection) fun s =>
    match s.delete collection key rev ignoreMissing with
    | (.ok true, s) => (.ok true, s.removeIncidentEdges collection (idOf collection key))
    | outcome => outcome

end Store
end RecordStore
