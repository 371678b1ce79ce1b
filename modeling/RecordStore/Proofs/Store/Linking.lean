import RecordStore.Proofs.Store.Change
import RecordStore.Proofs.Text.Split

/-!
# Edges stay linked

A run that writes documents only through graphs, and drops nothing, keeps both ends of every edge at stored vertices.
`GraphStep` says what one request of such a run can do to the stored documents; the invariant is `Linked`, carried
together with `Owned`: whatever is stored belongs to a graph. `graph_edges_linked` is the main result.
-/

namespace RecordStore

/-- Whether a request writes documents through a graph if at all, and drops no collection and no graph. -/
def Request.keepsToGraphs : Request → Bool
  | insert _ _ | insertMany _ _ | replace _ _ | delete _ _ _ _ => false
  | deleteCollection _ _ | truncateCollection _ | deleteGraph _ _ _ => false
  | _ => true

namespace Store

def Holds (s : Store) (name key : String) (document : Document) : Prop :=
  ∃ c, s.collections.get? name = some c ∧ (key, document) ∈ c.documents

def Defines (s : Store) (d : EdgeDefinition) : Prop :=
  ∃ g ∈ s.graphs.values, d ∈ g.edgeDefinitions

def HasVertices (s : Store) (name : String) : Prop :=
  ∃ g ∈ s.graphs.values, g.hasVertices name = true

/-- No collection is used both for edges and for vertices. -/
def Separate (s : Store) : Prop :=
  ∀ d, s.Defines d → ¬s.HasVertices d.edges

/-- One end of an edge: it names a stored document of a collection that some edge definition allows on that side. -/
def LinkedEnd (s : Store) (edges : String) (document : Document) (field : String)
    (side : EdgeDefinition → List String) : Prop :=
  ∃ name key, document.text? field = some (idOf name key) ∧ (∃ vertex, s.Holds name key vertex) ∧
    ∃ d, s.Defines d ∧ d.edges = edges ∧ name ∈ side d

/-- Both ends of an edge. -/
structure LinkedEdge (s : Store) (edges : String) (document : Document) : Prop where
  source : s.LinkedEnd edges document Attribute.source EdgeDefinition.sources
  target : s.LinkedEnd edges document Attribute.target EdgeDefinition.targets

/-- Every edge of every graph connects stored vertices. -/
def Linked (s : Store) : Prop :=
  ∀ d, s.Defines d → ∀ key document, s.Holds d.edges key document → s.LinkedEdge d.edges document

/-- Whatever is stored is a vertex or an edge of some graph. -/
def Owned (s : Store) : Prop :=
  ∀ name key document, s.Holds name key document → s.HasVertices name ∨ ∃ d, s.Defines d ∧ d.edges = name

/-! ### Definitions of graphs -/

theorem HasVertices.of_defines {s : Store} {d : EdgeDefinition} (defined : s.Defines d) {name : String}
    (side : name ∈ d.sources ∨ name ∈ d.targets) : s.HasVertices name := by
  obtain ⟨g, existing, listed⟩ := defined
  refine ⟨g, existing, ?_⟩
  unfold GraphDefinition.hasVertices
  rw [Bool.or_eq_true, List.any_eq_true]
  exact .inr ⟨d, listed, by simpa [EdgeDefinition.touches] using side⟩

theorem mem_edgeCollectionsOf {s : Store} {name edges : String} :
    edges ∈ s.edgeCollectionsOf name ↔
      ∃ d, s.Defines d ∧ (name ∈ d.sources ∨ name ∈ d.targets) ∧ d.edges = edges := by
  simp [edgeCollectionsOf, Defines, EdgeDefinition.touches, and_assoc]

/-! ### Ends of edges -/

theorem idOf_of_splitId? {id name key : String} (split : splitId? id = some (name, key)) : id = idOf name key := by
  unfold splitId? at split
  split at split
  · rename_i before after cut
    split at split
    · cases split
    · obtain ⟨rfl, rfl⟩ := Prod.mk.inj (Option.some.inj split)
      refine String.toList_injective ?_
      rw [Text.splitFirst?_eq_some cut]
      simp [idOf]
  · cases split

theorem text?_of_endpoint? {document : Document} {field name key : String}
    (named : endpoint? document field = some (name, key)) : document.text? field = some (idOf name key) := by
  obtain ⟨id, found, split⟩ := Option.bind_eq_some_iff.mp named
  rw [found, idOf_of_splitId? split]

theorem LinkedEnd.stamp {s : Store} {edges field : String} {document : Document} {side : EdgeDefinition → List String}
    (linked : s.LinkedEnd edges document field side) (name key : String) (rev : Nat) (notKey : field ≠ Attribute.key)
    (notId : field ≠ Attribute.id) (notRev : field ≠ Attribute.rev) :
    s.LinkedEnd edges (Store.stamp name key rev document) field side := by
  unfold LinkedEnd Document.text? at *
  rwa [get?_stamp_of_ne name key rev document notKey notId notRev]

theorem LinkedEdge.stamp {s : Store} {edges : String} {document : Document} (linked : s.LinkedEdge edges document)
    (name key : String) (rev : Nat) : s.LinkedEdge edges (Store.stamp name key rev document) where
  source := linked.source.stamp name key rev (by decide) (by decide) (by decide)
  target := linked.target.stamp name key rev (by decide) (by decide) (by decide)

/-! ### Stored documents -/

theorem holds_congr {s t : Store} (same : t.collections = s.collections) (name key : String) (document : Document) :
    t.Holds name key document ↔ s.Holds name key document := by
  unfold Holds
  rw [same]

theorem holds_set {s t : Store} (name : String) {c : Collection}
    (collections : t.collections = s.collections.set name c) (other key : String) (document : Document) :
    t.Holds other key document ↔
      if name = other then (key, document) ∈ c.documents else s.Holds other key document := by
  unfold Holds
  rw [collections, Table.get?_set]
  split <;> simp

theorem holds_ensureCollection (s : Store) (name : String) (options : CollectionOptions) (other key : String)
    (document : Document) :
    (s.ensureCollection name options).Holds other key document ↔ s.Holds other key document := by
  unfold ensureCollection
  split
  · rfl
  · rename_i absent
    rw [holds_set _ rfl]
    split
    · rename_i same
      subst same
      have none : s.collections.get? name = none := Table.has_eq_false.mp (by simpa using absent)
      simp [Holds, none]
    · rfl

theorem graphs_ensureCollection (s : Store) (name : String) (options : CollectionOptions) :
    (s.ensureCollection name options).graphs = s.graphs := by
  unfold ensureCollection
  split <;> rfl

theorem holds_ensureCollections {α : Type} (name : α → String) (options : CollectionOptions) (items : List α)
    (s : Store) (other key : String) (document : Document) :
    (items.foldl (fun s a => s.ensureCollection (name a) options) s).Holds other key document ↔
      s.Holds other key document := by
  induction items generalizing s with
  | nil => rfl
  | cons a rest ih => exact (ih _).trans (s.holds_ensureCollection (name a) options other key document)

theorem graphs_ensureCollections {α : Type} (name : α → String) (options : CollectionOptions) (items : List α)
    (s : Store) : (items.foldl (fun s a => s.ensureCollection (name a) options) s).graphs = s.graphs := by
  induction items generalizing s with
  | nil => rfl
  | cons a rest ih => exact (ih _).trans (s.graphs_ensureCollection (name a) options)

theorem holds_withoutEdgesAt (s : Store) (vertex name other key : String) (document : Document) :
    { s with collections := s.collections.modify name (Collection.withoutEdgesAt · vertex) }.Holds
        other key document ↔
      s.Holds other key document ∧ (name = other → isIncident vertex document = false) := by
  unfold Holds
  rw [Table.get?_modify]
  split
  · rename_i same
    subst same
    cases s.collections.get? name <;> simp [Collection.withoutEdgesAt]
  · rename_i different
    simp [different]

/-- What is left after the edges at a vertex are gone: all but the incident edges of the collections gone through. -/
theorem holds_withoutEdges (names : List String) (s : Store) (vertex other key : String) (document : Document) :
    { s with
      collections := names.foldl (fun collections name => collections.modify name (Collection.withoutEdgesAt · vertex))
        s.collections }.Holds other key document ↔
      s.Holds other key document ∧ (other ∈ names → isIncident vertex document = false) := by
  induction names generalizing s with
  | nil => simp
  | cons name rest ih =>
    refine (ih { s with collections := s.collections.modify name (Collection.withoutEdgesAt · vertex) }).trans ?_
    rw [holds_withoutEdgesAt]
    constructor
    · rintro ⟨⟨stored, here⟩, later⟩
      exact ⟨stored, fun member => (List.mem_cons.mp member).elim (here ·.symm) later⟩
    · rintro ⟨stored, gone⟩
      exact ⟨⟨stored, fun same => gone (same ▸ List.mem_cons_self)⟩, fun member => gone (List.mem_cons_of_mem _ member)⟩

theorem holds_of_present {s : Store} {name : String} {c : Collection} (present : s.collections.get? name = some c)
    (key : String) (document : Document) : s.Holds name key document ↔ (key, document) ∈ c.documents := by
  simp [Holds, present]

/-! ### What one request does -/

/-- What a write through a graph does to the stored documents, whether it succeeds or not. -/
structure Wrote (s t : Store) (name : String) (document : Document) : Prop where
  graphs : t.graphs = s.graphs
  elsewhere : ∀ other key stored, other ≠ name → (t.Holds other key stored ↔ s.Holds other key stored)
  kept : ∀ key stored, s.Holds name key stored → ∃ now, t.Holds name key now
  fresh : ∀ key stored, t.Holds name key stored →
    s.Holds name key stored ∨ ∃ k rev, stored = stamp name k rev document

theorem Wrote.unchanged {s t : Store} (collections : t.collections = s.collections) (graphs : t.graphs = s.graphs)
    (name : String) (document : Document) : Wrote s t name document where
  graphs := graphs
  elsewhere other key stored _ := holds_congr collections other key stored
  kept key stored before := ⟨stored, (holds_congr collections name key stored).mpr before⟩
  fresh key stored now := .inl ((holds_congr collections name key stored).mp now)

theorem insert_wrote (s : Store) (name : String) (document : Document) :
    Wrote s (s.insert name document).2 name document := by
  rcases s.insert_cases name document with ⟨r, n, -, refused⟩ | ⟨c, key, n, checked, done⟩
  · rw [refused]
    exact Wrote.unchanged (s := s) (t := { s with keyCounter := n }) rfl rfl name document
  · rw [done]
    have now := holds_set (s := s) (t := s.inserted name c key n document) name rfl
    have before := holds_of_present checked.present
    refine ⟨rfl, fun other k stored different => ?_, fun k stored here => ⟨stored, ?_⟩, fun k stored here => ?_⟩
    · rw [now, if_neg different.symm]
    · rw [now, if_pos rfl]
      exact List.mem_append_left _ ((before k stored).mp here)
    · rw [now, if_pos rfl] at here
      rcases List.mem_append.mp here with old | new
      · exact .inl ((before k stored).mpr old)
      · obtain ⟨rfl, rfl⟩ := Prod.mk.inj (List.mem_singleton.mp new)
        exact .inr ⟨k, s.revCounter + 1, rfl⟩

theorem replace_wrote (s : Store) (name : String) (document : Document) :
    Wrote s (s.replace name document).2 name document := by
  rcases s.replace_cases name document with ⟨r, refused⟩ | ⟨c, key, old, checked, done⟩
  · rw [refused]
    exact .unchanged rfl rfl name document
  · rw [done]
    have now := holds_set (s := s) (t := s.replaced name c key document) name rfl
    have before := holds_of_present checked.present
    refine ⟨rfl, fun other k stored different => ?_, fun k stored here => ?_, fun k stored here => ?_⟩
    · rw [now, if_neg different.symm]
    · have listed : k ∈ (c.put key (stamp name key (s.revCounter + 1) document)).keys := by
        rw [Collection.keys_put]
        exact List.mem_map.mpr ⟨_, (before k stored).mp here, rfl⟩
      obtain ⟨⟨_, new⟩, member, rfl⟩ := List.mem_map.mp listed
      exact ⟨new, (now name _ new).mpr (by rwa [if_pos rfl])⟩
    · rw [now, if_pos rfl] at here
      rcases Collection.mem_of_mem_put here with new | stays
      · obtain ⟨rfl, rfl⟩ := Prod.mk.inj new
        exact .inr ⟨k, s.revCounter + 1, rfl⟩
      · exact .inl ((before k stored).mpr stays)

theorem linkedEnd_of_checkEndpoint {s : Store} {document : Document} {field : String} {d : EdgeDefinition}
    (defined : s.Defines d) {side : EdgeDefinition → List String}
    (passed : s.checkEndpoint document field (side d) = .ok ()) : s.LinkedEnd d.edges document field side := by
  obtain ⟨name, key, c, named, allowed, present, used⟩ := checkEndpoint_ok passed
  obtain ⟨vertex, stored⟩ := Collection.hasKey_iff.mp used
  exact ⟨name, key, text?_of_endpoint? named, ⟨vertex, c, present, stored⟩, d, defined, rfl, allowed⟩

/-- What a request of a run that keeps to graphs can do to the stored documents and the graphs. -/
inductive GraphStep (s t : Store) : Prop where
  | aside (graphs : t.graphs = s.graphs)
      (documents : ∀ name key document, t.Holds name key document ↔ s.Holds name key document)
  | graph {g : GraphDefinition} (new : s.graphs.get? g.name = none) (graphs : t.graphs = s.graphs.set g.name g)
      (documents : ∀ name key document, t.Holds name key document ↔ s.Holds name key document)
  | vertex {name : String} (vertices : s.HasVertices name) (graphs : t.graphs = s.graphs)
      (elsewhere : ∀ other key document, other ≠ name → (t.Holds other key document ↔ s.Holds other key document))
      (kept : ∀ key document, s.Holds name key document → ∃ now, t.Holds name key now)
  | edge {d : EdgeDefinition} (defined : s.Defines d) (graphs : t.graphs = s.graphs)
      (elsewhere : ∀ other key document, other ≠ d.edges → (t.Holds other key document ↔ s.Holds other key document))
      (checked : ∀ key document, t.Holds d.edges key document →
        s.Holds d.edges key document ∨ s.LinkedEdge d.edges document)
  | vertexGone (name key : String) (graphs : t.graphs = s.graphs)
      (fewer : ∀ other k document, t.Holds other k document → s.Holds other k document)
      (kept : ∀ other k document, (∀ d, s.Defines d → d.edges ≠ other) → ¬(other = name ∧ k = key) →
        s.Holds other k document → t.Holds other k document)
      (cascade : ∀ d, s.Defines d → name ∈ d.sources ∨ name ∈ d.targets → ∀ k document,
        t.Holds d.edges k document → isIncident (idOf name key) document = false)

namespace GraphStep

theorem unchanged {s t : Store} (collections : t.collections = s.collections) (graphs : t.graphs = s.graphs) :
    GraphStep s t :=
  .aside graphs (holds_congr collections)

/-! ### The steps of the requests -/

theorem createCollection (s : Store) (name : String) (options : CollectionOptions) :
    GraphStep s (s.createCollection name options).2 := by
  unfold Store.createCollection
  split
  · exact unchanged rfl rfl
  · rename_i absent
    have ensured := s.holds_ensureCollection name options
    rw [ensureCollection, if_neg absent] at ensured
    exact .aside rfl ensured

theorem ensureIndex (s : Store) (name : String) (i : IndexSpec) : GraphStep s (s.ensureIndex name i).2 := by
  unfold Store.ensureIndex
  split
  · exact unchanged rfl rfl
  · rename_i c present
    split
    · exact unchanged rfl rfl
    · split
      · exact unchanged rfl rfl
      · refine .aside rfl fun other key document => ?_
        rw [holds_set _ rfl]
        split
        · rename_i same
          subst same
          exact (holds_of_present present key document).symm
        · rfl

theorem createGraph (s : Store) (g : GraphDefinition) : GraphStep s (s.createGraph g).2 := by
  unfold Store.createGraph
  split
  · exact unchanged rfl rfl
  · rename_i absent
    refine .graph (g := g) (Table.has_eq_false.mp (by simpa using absent)) ?_ fun name key document => ?_
    · have edges := graphs_ensureCollections EdgeDefinition.edges .edge g.edgeDefinitions s
      have vertices := graphs_ensureCollections id {} g.collections
        (g.edgeDefinitions.foldl (fun s d => s.ensureCollection d.edges .edge) s)
      exact congrArg (·.set g.name g) (vertices.trans edges)
    · refine (holds_congr rfl name key document).trans ?_
      exact (holds_ensureCollections id _ _ _ name key document).trans
        (holds_ensureCollections EdgeDefinition.edges _ _ _ name key document)

theorem execute (s : Store) (q : BoundQuery) : GraphStep s (s.execute q).2 := by
  unfold Store.execute
  split
  · exact unchanged rfl rfl
  · dsimp only
    split <;> exact unchanged rfl rfl

theorem nextBatch (s : Store) (id : String) : GraphStep s (s.nextBatch id).2 := by
  unfold Store.nextBatch
  split
  · exact unchanged rfl rfl
  · dsimp only
    split <;> exact unchanged rfl rfl

theorem closeCursor (s : Store) (id : String) : GraphStep s (s.closeCursor id).2 := by
  unfold Store.closeCursor
  split <;> exact unchanged rfl rfl

theorem vertexWrite {s : Store} (graph name : String) (document : Document) {next : Store → Outcome Header}
    (wrote : Wrote s (next s).2 name document) :
    GraphStep s (s.after (s.checkVertexCollection graph name) next).2 := by
  rcases s.after_cases (s.checkVertexCollection graph name) next with ⟨r, -, refused⟩ | ⟨check, passed⟩
  · rw [refused]
    exact unchanged rfl rfl
  · obtain ⟨g, found, vertices⟩ := checkVertexCollection_ok check
    rw [passed]
    exact .vertex ⟨g, Table.mem_values_of_get? found, vertices⟩ wrote.graphs wrote.elsewhere wrote.kept

theorem edgeWrite {s : Store} (graph name : String) (document : Document) {next : Store → Outcome Header}
    (wrote : Wrote s (next s).2 name document) :
    GraphStep s (s.after (s.checkEndpoints graph name document) next).2 := by
  rcases s.after_cases (s.checkEndpoints graph name document) next with ⟨r, -, refused⟩ | ⟨check, passed⟩
  · rw [refused]
    exact unchanged rfl rfl
  · obtain ⟨d, found, source, target⟩ := checkEndpoints_ok check
    obtain ⟨g, named, listed, rfl⟩ := edgeDefinition_ok found
    have defined : s.Defines d := ⟨g, Table.mem_values_of_get? named, listed⟩
    rw [passed]
    refine .edge defined wrote.graphs wrote.elsewhere fun key stored here => ?_
    refine (wrote.fresh key stored here).imp id ?_
    rintro ⟨k, rev, rfl⟩
    have linked : s.LinkedEdge d.edges document :=
      ⟨linkedEnd_of_checkEndpoint defined source, linkedEnd_of_checkEndpoint defined target⟩
    exact linked.stamp d.edges k rev

theorem deleteEdge (s : Store) (graph name key : String) (rev : Option String) (ignoreMissing : Bool) :
    GraphStep s (s.deleteEdge graph name key rev ignoreMissing).2 := by
  rcases s.deleteEdge_cases graph name key rev ignoreMissing with
    ⟨r, refused⟩ | nothing | ⟨d, c, stored, found, checked, done⟩
  · rw [refused]
    exact unchanged rfl rfl
  · rw [nothing]
    exact unchanged rfl rfl
  · obtain ⟨g, named, listed, rfl⟩ := edgeDefinition_ok found
    have now := holds_set (s := s) (t := s.setCollection d.edges (c.remove key)) d.edges rfl
    rw [done]
    refine .edge ⟨g, Table.mem_values_of_get? named, listed⟩ rfl (fun other k document different => ?_)
      fun k document here => .inl ?_
    · rw [now, if_neg different.symm]
    · rw [now, if_pos rfl] at here
      exact (holds_of_present checked.present k document).mpr ((c.remove_sublist key).subset here)

/-- A deleted vertex takes along the edges at it from every collection that may hold some. -/
theorem deleteVertex (s : Store) (graph name key : String) (rev : Option String) (ignoreMissing : Bool) :
    GraphStep s (s.deleteVertex graph name key rev ignoreMissing).2 := by
  rcases s.deleteVertex_cases graph name key rev ignoreMissing with
    ⟨r, refused⟩ | nothing | ⟨c, stored, -, checked, done⟩
  · rw [refused]
    exact unchanged rfl rfl
  · rw [nothing]
    exact unchanged rfl rfl
  · rw [done]
    have removed := holds_set (s := s) (t := s.setCollection name (c.remove key)) name rfl
    have left := holds_withoutEdges (edgeCollectionsOf (s.setCollection name (c.remove key)) name)
      (s.setCollection name (c.remove key)) (idOf name key)
    refine .vertexGone name key rfl (fun other k document here => ?_)
      (fun other k document noEdges different here => (left other k document).mpr ⟨?_, ?_⟩) ?_
    · have before := ((left other k document).mp here).1
      rw [removed] at before
      split at before
      · rename_i same
        subst same
        exact (holds_of_present checked.present k document).mpr ((c.remove_sublist key).subset before)
      · exact before
    · rw [removed]
      split
      · rename_i same
        subst same
        exact Collection.mem_remove_of_ne ((holds_of_present checked.present k document).mp here)
          fun same => different ⟨rfl, same⟩
      · exact here
    · intro listed
      obtain ⟨d, defined, -, same⟩ := mem_edgeCollectionsOf.mp listed
      exact absurd same (noEdges d defined)
    · intro d defined side k document here
      exact ((left d.edges k document).mp here).2 (mem_edgeCollectionsOf.mpr ⟨d, defined, side, rfl⟩)

end GraphStep

theorem answer_graphStep (s : Store) {r : Request} (graphwise : r.keepsToGraphs = true) :
    GraphStep s (s.answer r).2 := by
  cases r with
  | hasCollection | count | get | keys | hasGraph => exact .unchanged rfl rfl
  | getMany collection keys =>
    rw [getMany_unchanged]
    exact .unchanged rfl rfl
  | createCollection name options => exact .createCollection s name options
  | ensureIndex collection i => exact .ensureIndex s collection i
  | createGraph g => exact .createGraph s g
  | execute q => exact .execute s q
  | nextBatch id => exact .nextBatch s id
  | closeCursor id => exact .closeCursor s id
  | insertVertex graph collection document =>
    exact .vertexWrite graph collection document (s.insert_wrote collection document)
  | insertEdge graph collection document =>
    exact .edgeWrite graph collection document (s.insert_wrote collection document)
  | replaceVertex graph collection document =>
    exact .vertexWrite graph collection document (s.replace_wrote collection document)
  | replaceEdge graph collection document =>
    exact .edgeWrite graph collection document (s.replace_wrote collection document)
  | deleteVertex graph collection key rev ignoreMissing => exact .deleteVertex s graph collection key rev ignoreMissing
  | deleteEdge graph collection key rev ignoreMissing => exact .deleteEdge s graph collection key rev ignoreMissing
  | insert | insertMany | replace | delete | deleteCollection | truncateCollection | deleteGraph => cases graphwise

/-! ### What a step keeps -/

namespace GraphStep

variable {s t : Store}

theorem graphs_kept (step : GraphStep s t) {g : GraphDefinition} (existing : g ∈ s.graphs.values) :
    g ∈ t.graphs.values := by
  cases step with
  | aside graphs | vertex _ graphs | edge _ graphs | vertexGone _ _ graphs => rwa [graphs]
  | graph new graphs =>
    rw [graphs]
    exact (Table.mem_values_set new _ g).mpr (.inr existing)

theorem defines (step : GraphStep s t) {d : EdgeDefinition} (defined : s.Defines d) : t.Defines d := by
  obtain ⟨g, existing, listed⟩ := defined
  exact ⟨g, step.graphs_kept existing, listed⟩

theorem hasVertices (step : GraphStep s t) {name : String} (vertices : s.HasVertices name) : t.HasVertices name := by
  obtain ⟨g, existing, held⟩ := vertices
  exact ⟨g, step.graphs_kept existing, held⟩

theorem separate (step : GraphStep s t) (after : t.Separate) : s.Separate :=
  fun d defined vertices => after d (step.defines defined) (step.hasVertices vertices)

theorem owned (step : GraphStep s t) (owned : s.Owned) : t.Owned := by
  intro name key document here
  suffices before : s.HasVertices name ∨ ∃ d, s.Defines d ∧ d.edges = name by
    refine before.imp step.hasVertices ?_
    rintro ⟨d, defined, same⟩
    exact ⟨d, step.defines defined, same⟩
  cases step with
  | aside _ documents | graph _ _ documents => exact owned name key document ((documents _ _ _).mp here)
  | @vertex changed vertices _ elsewhere _ =>
    by_cases same : name = changed
    · exact .inl (same ▸ vertices)
    · exact owned name key document ((elsewhere name key document same).mp here)
  | @edge d defined _ elsewhere _ =>
    by_cases same : name = d.edges
    · exact .inr ⟨d, defined, same.symm⟩
    · exact owned name key document ((elsewhere name key document same).mp here)
  | vertexGone _ _ _ fewer => exact owned name key document (fewer name key document here)

end GraphStep

/-- An edge names a vertex at one of its ends, on a side where an edge definition allows it. -/
def EndsAt (s : Store) (edges : String) (document : Document) (name key : String) : Prop :=
  ∃ d, s.Defines d ∧ d.edges = edges ∧ (name ∈ d.sources ∨ name ∈ d.targets) ∧
    isIncident (idOf name key) document = true

/-- An edge stays linked as long as graphs stay and something stays stored where it ends. -/
theorem LinkedEdge.mono {s t : Store} {edges : String} {document : Document} (linked : s.LinkedEdge edges document)
    (defines : ∀ d, s.Defines d → t.Defines d)
    (kept : ∀ name key vertex, s.EndsAt edges document name key → s.Holds name key vertex →
      ∃ now, t.Holds name key now) : t.LinkedEdge edges document := by
  obtain ⟨⟨source, k, fromText, ⟨u, hereU⟩, d, defined, named, allowed⟩,
    ⟨target, l, toText, ⟨v, hereV⟩, e, listed, called, permitted⟩⟩ := linked
  have endsSource : s.EndsAt edges document source k :=
    ⟨d, defined, named, .inl allowed, by simp [isIncident, fromText]⟩
  have endsTarget : s.EndsAt edges document target l :=
    ⟨e, listed, called, .inr permitted, by simp [isIncident, toText]⟩
  exact ⟨⟨source, k, fromText, kept source k u endsSource hereU, d, defines d defined, named, allowed⟩,
    ⟨target, l, toText, kept target l v endsTarget hereV, e, defines e listed, called, permitted⟩⟩

/-- What was stored before is linked if it is an edge now: a collection with documents belonged to some graph, so a new
graph that takes it for edges finds edges in it. -/
theorem linked_before {s t : Store} (step : GraphStep s t) (separate : t.Separate) (owned : s.Owned)
    (linked : s.Linked) {d : EdgeDefinition} (defined : t.Defines d) {key : String} {document : Document}
    (stored : s.Holds d.edges key document) : s.LinkedEdge d.edges document := by
  rcases owned d.edges key document stored with vertices | ⟨e, listed, same⟩
  · exact absurd (step.hasVertices vertices) (separate d defined)
  · rw [← same] at stored ⊢
    exact linked e listed key document stored

theorem GraphStep.linked {s t : Store} (step : GraphStep s t) (separate : t.Separate) (owned : s.Owned)
    (linked : s.Linked) : t.Linked := by
  have old := @linked_before s t step separate owned linked
  have defines : ∀ d, s.Defines d → t.Defines d := fun _ => step.defines
  intro d defined key document here
  cases step with
  | aside _ documents | graph _ _ documents =>
    refine (old defined ((documents _ _ _).mp here)).mono defines fun name k vertex _ stored => ?_
    exact ⟨vertex, (documents name k vertex).mpr stored⟩
  | @vertex changed vertices graphs elsewhere kept =>
    have apart : d.edges ≠ changed := by
      rintro rfl
      exact separate d defined (hasVertices (.vertex vertices graphs elsewhere kept) vertices)
    refine (old defined ((elsewhere _ key document apart).mp here)).mono defines fun name k vertex _ stored => ?_
    by_cases same : name = changed
    · subst same
      exact kept k vertex stored
    · exact ⟨vertex, (elsewhere name k vertex same).mpr stored⟩
  | @edge e listed graphs elsewhere checked =>
    have before : s.LinkedEdge d.edges document := by
      by_cases same : d.edges = e.edges
      · rw [same] at here ⊢
        exact (checked key document here).elim (fun stored => same ▸ old defined (same ▸ stored)) id
      · exact old defined ((elsewhere _ key document same).mp here)
    refine before.mono defines fun name k vertex ends stored => ?_
    -- vertices live elsewhere, so no write to an edge collection reaches them
    obtain ⟨f, allowing, -, side, -⟩ := ends
    have apart : name ≠ e.edges := by
      rintro rfl
      exact separate e (defines e listed) (.of_defines (defines f allowing) side)
    exact ⟨vertex, (elsewhere name k vertex apart).mpr stored⟩
  | vertexGone gone goneKey graphs fewer kept cascade =>
    refine (old defined (fewer _ key document here)).mono defines fun name k vertex ends stored => ?_
    obtain ⟨f, allowing, called, side, incident⟩ := ends
    refine ⟨vertex, kept name k vertex (fun e listed same => ?_) ?_ stored⟩
    · exact separate e (defines e listed) (same ▸ .of_defines (defines f allowing) side)
    · -- an edge at the vertex that went would have gone with it
      rintro ⟨rfl, rfl⟩
      rw [← called] at here
      rw [cascade f allowing side key document here] at incident
      cases incident

theorem separate_of_afterAll {s : Store} (requests : List Request)
    (graphwise : ∀ r ∈ requests, r.keepsToGraphs = true) (after : (s.afterAll requests).Separate) : s.Separate := by
  induction requests generalizing s with
  | nil => exact after
  | cons r rest ih =>
    obtain ⟨first, later⟩ := List.forall_mem_cons.mp graphwise
    exact (s.answer_graphStep first).separate (ih later after)

theorem afterAll_linked {s : Store} (owned : s.Owned) (linked : s.Linked) (requests : List Request)
    (graphwise : ∀ r ∈ requests, r.keepsToGraphs = true) (separate : (s.afterAll requests).Separate) :
    (s.afterAll requests).Linked := by
  induction requests generalizing s with
  | nil => exact linked
  | cons r rest ih =>
    obtain ⟨first, later⟩ := List.forall_mem_cons.mp graphwise
    have step := s.answer_graphStep first
    have between : (s.answer r).2.Separate := separate_of_afterAll rest later separate
    exact ih (step.owned owned) (step.linked between owned linked) later separate

/-- Both ends of every edge are stored vertices of collections that an edge definition allows there, in every state of a
run that writes through graphs and drops nothing, as long as the graphs use no collection both for edges and for
vertices. -/
theorem graph_edges_linked (batchSize : Nat) (requests : List Request)
    (graphwise : ∀ r ∈ requests, r.keepsToGraphs = true)
    (separate : ((empty batchSize).afterAll requests).Separate) :
    ((empty batchSize).afterAll requests).Linked := by
  refine afterAll_linked ?_ ?_ requests graphwise separate
  · rintro name key document ⟨c, present, -⟩
    cases present
  · rintro d ⟨g, existing, -⟩
    cases existing

/-- Two graphs over the same vertices; a vertex deleted through one of them takes along edges of both. -/
theorem shared_vertices_linked :
    let one : GraphDefinition := ⟨"one", [⟨"e", ["v"], ["w"]⟩], []⟩
    let two : GraphDefinition := ⟨"two", [⟨"f", ["w"], ["v"]⟩], []⟩
    let keyed (key : String) : Document := [("_key", .string key)]
    let edge (source target : String) : Document := [("_from", .string source), ("_to", .string target)]
    let run : List Request := [.createGraph one, .createGraph two, .insertVertex "one" "v" (keyed "x"),
      .insertVertex "one" "v" (keyed "y"), .insertVertex "two" "w" (keyed "z"),
      .insertEdge "one" "e" (edge "v/x" "w/z"), .insertEdge "one" "e" (edge "v/y" "w/z"),
      .insertEdge "two" "f" (edge "w/z" "v/x"), .deleteVertex "two" "v" "x" none false]
    (∀ r ∈ run, r.keepsToGraphs = true) ∧ ((empty 1).afterAll run).Separate ∧
      (((empty 1).afterAll run).collections.get? "e").any (fun c => c.documents.length = 1) = true ∧
      (((empty 1).afterAll run).collections.get? "f").any (fun c => c.documents.length = 0) = true ∧
      ((empty 1).afterAll run).Linked := by
  intro one two keyed edge run
  have graphwise : ∀ r ∈ run, r.keepsToGraphs = true := by simp [run, Request.keepsToGraphs]
  have apart : ∀ g ∈ ((empty 1).afterAll run).graphs.values, ∀ d ∈ g.edgeDefinitions,
      ∀ h ∈ ((empty 1).afterAll run).graphs.values, h.hasVertices d.edges = false := by decide +kernel
  have separate : ((empty 1).afterAll run).Separate := by
    rintro d ⟨g, existing, listed⟩ ⟨h, other, held⟩
    rw [apart g existing d listed h other] at held
    cases held
  exact ⟨graphwise, separate, by decide +kernel, by decide +kernel, graph_edges_linked 1 run graphwise separate⟩

end Store
end RecordStore
