import RecordStore.Client.Collection

/-!
# Record graphs

A graph type in a database: its definition with names resolved, its creation and removal, and the saving and
deleting of vertices and edges through it, where the store checks the ends of edges and removes the edges of a
deleted vertex.
-/

namespace RecordStore

structure RecordGraph where
  db : Database
  type : GraphType
  name : String

def Database.graph (db : Database) (type : GraphType) : Program RecordGraph :=
  (Program.ofAction (.note [.graph type])).bind fun () => .done ⟨db, type, db.config.names.graph type⟩

namespace EdgeSpec

def resolve (e : EdgeSpec) (names : Names) : EdgeDefinition :=
  ⟨names.collection e.edge, e.sources.map names.collection, e.targets.map names.collection⟩

end EdgeSpec

namespace GraphType

def resolve (g : GraphType) (names : Names) : GraphDefinition :=
  ⟨names.graph g, g.edges.map (·.resolve names), g.orphans.map names.collection⟩

end GraphType

namespace RecordGraph

variable {ρ : Type} [Record ρ]

def definition (g : RecordGraph) : Program GraphDefinition :=
  (Database.note g.type.recordTypes).bind fun () => .done (g.type.resolve g.db.config.names)

def exists? (g : RecordGraph) : Program (Except ClientError Bool) :=
  Program.requestOr (Program.request (.hasGraph g.name)) .store

def ensure (g : RecordGraph) : Program (Except ClientError Unit) :=
  g.exists?.andThen fun found =>
    if found then .done (.ok ())
    else
      g.definition.bind fun definition =>
        (Program.request (.createGraph definition)).bind fun
          | .ok () => .done (.ok ())
          | .error e => .done (if e.hasCode ErrorCode.graphDuplicate then .ok () else .error (.store e))

/-- Drops the graph, and its collections that no other graph uses if these are to go too; `false` says that a
missing graph was ignored. -/
def drop (g : RecordGraph) (ignoreMissing dropCollections : Bool) : Program (Except ClientError Bool) :=
  Program.requestOr (Program.request (.deleteGraph g.name ignoreMissing dropCollections))
    (·.translate .dropGraph g.name)

def save (g : RecordGraph) (context : SaveContext) (r : ρ) : Program (Except ClientError Unit × ρ) :=
  (g.db.collection ρ).bind fun collection => g.db.persist (.graph g.name) collection.name context r

/-- Deletes a record as a vertex or as an edge; `false` says that a missing one was ignored. -/
def deleteAs (g : RecordGraph) (kind : RecordKind) (r : ρ) (ignoreMissing : Bool) :
    Program (Except ClientError Bool) :=
  (g.db.collection ρ).bind fun collection =>
    match RecordCollection.keyFor "delete" r with
    | .error e => .done (if ignoreMissing then .ok false else .error e)
    | .ok key =>
      let meaning := fun (e : StoreError) => e.translate .delete (Record.typeName ρ ++ " '" ++ key ++ "'")
      match kind with
      | .vertex =>
        Program.requestOr
          (Program.request (.deleteVertex g.name collection.name key (Record.rev? r) ignoreMissing)) meaning
      | .edge =>
        Program.requestOr
          (Program.request (.deleteEdge g.name collection.name key (Record.rev? r) ignoreMissing)) meaning

/-- Deletes a record through the graph; with a vertex go its edges. -/
def delete (g : RecordGraph) (r : ρ) (ignoreMissing : Bool) : Program (Except ClientError Bool) :=
  g.deleteAs (Record.kind ρ) r ignoreMissing

end RecordGraph

end RecordStore
