import RecordStore.Proofs.Store.Documents
import RecordStore.Store.Catalogue

/-!
# What graphs check

The checks of the operations that go through a graph, each with what it has established when it passes.
-/

namespace RecordStore
namespace Store

theorem after_cases {α : Type} (s : Store) (check : Except Refusal Unit) (next : Store → Outcome α) :
    (∃ r, check = .error r ∧ s.after check next = (.error r, s)) ∨
      check = .ok () ∧ s.after check next = next s := by
  cases check with
  | error r => exact .inl ⟨r, rfl, rfl⟩
  | ok u => exact .inr ⟨rfl, rfl⟩

theorem graph_ok {s : Store} {name : String} {g : GraphDefinition} :
    s.graph name = .ok g ↔ s.graphs.get? name = some g := by
  unfold graph
  cases s.graphs.get? name <;> simp

theorem checkVertexCollection_ok {s : Store} {graph collection : String}
    (passed : s.checkVertexCollection graph collection = .ok ()) :
    ∃ g, s.graphs.get? graph = some g ∧ g.hasVertices collection = true := by
  unfold checkVertexCollection at passed
  cases found : s.graph graph with
  | error r => simp [found, bind, Except.bind] at passed
  | ok g =>
    refine ⟨g, graph_ok.mp found, ?_⟩
    by_cases vertices : g.hasVertices collection
    · exact vertices
    · simp [found, bind, Except.bind, vertices] at passed

theorem edgeDefinition_ok {s : Store} {graph collection : String} {d : EdgeDefinition}
    (found : s.edgeDefinition graph collection = .ok d) :
    ∃ g, s.graphs.get? graph = some g ∧ d ∈ g.edgeDefinitions ∧ d.edges = collection := by
  unfold edgeDefinition at found
  cases named : s.graph graph with
  | error r => simp [named, bind, Except.bind] at found
  | ok g =>
    refine ⟨g, graph_ok.mp named, ?_⟩
    cases listed : g.edgeDefinition? collection with
    | none => simp [named, bind, Except.bind, listed] at found
    | some e =>
      simp only [named, bind, Except.bind, listed, pure, Except.pure, Except.ok.injEq] at found
      subst found
      unfold GraphDefinition.edgeDefinition? at listed
      exact ⟨List.mem_of_find?_eq_some listed, by simpa using List.find?_some listed⟩

/-- An endpoint that passed its check is the identifier of a document of an allowed collection. -/
theorem checkEndpoint_ok {s : Store} {document : Document} {field : String} {allowed : List String}
    (passed : s.checkEndpoint document field allowed = .ok ()) :
    ∃ name key c, endpoint? document field = some (name, key) ∧ name ∈ allowed ∧
      s.collections.get? name = some c ∧ c.hasKey key = true := by
  unfold checkEndpoint at passed
  split at passed
  · cases passed
  · rename_i name key split
    split at passed
    · cases passed
    · rename_i permitted
      split at passed
      · rename_i stored
        obtain ⟨c, present, used⟩ := (Option.any_eq_true _ _).mp stored
        exact ⟨name, key, c, split, by simpa using permitted, present, used⟩
      · cases passed

theorem checkEndpoints_ok {s : Store} {graph collection : String} {document : Document}
    (passed : s.checkEndpoints graph collection document = .ok ()) :
    ∃ d, s.edgeDefinition graph collection = .ok d ∧
      s.checkEndpoint document Attribute.source d.sources = .ok () ∧
      s.checkEndpoint document Attribute.target d.targets = .ok () := by
  unfold checkEndpoints at passed
  cases found : s.edgeDefinition graph collection with
  | error r => simp [found, bind, Except.bind] at passed
  | ok d =>
    cases source : s.checkEndpoint document Attribute.source d.sources with
    | error r => simp [found, bind, Except.bind, source] at passed
    | ok u => exact ⟨d, rfl, source, by simpa [found, bind, Except.bind, source] using passed⟩

/-- A deletion of a vertex is refused or finds nothing, and changes nothing, or it removes the vertex and then the
edges at it. -/
theorem deleteVertex_cases (s : Store) (graph name key : String) (rev : Option String) (ignoreMissing : Bool) :
    (∃ r, s.deleteVertex graph name key rev ignoreMissing = (.error r, s)) ∨
      s.deleteVertex graph name key rev ignoreMissing = (.ok false, s) ∨
      ∃ c stored, s.checkVertexCollection graph name = .ok () ∧ s.DeleteChecked name c key rev stored ∧
        s.deleteVertex graph name key rev ignoreMissing =
          (.ok true, (s.setCollection name (c.remove key)).removeIncidentEdges name (idOf name key)) := by
  unfold deleteVertex after
  cases check : s.checkVertexCollection graph name with
  | error r => exact .inl ⟨r, rfl⟩
  | ok u =>
    dsimp only
    rcases s.delete_cases name key rev ignoreMissing with ⟨r, refused⟩ | nothing | ⟨c, stored, checked, done⟩
    · exact .inl ⟨r, by rw [refused]⟩
    · exact .inr (.inl (by rw [nothing]))
    · exact .inr (.inr ⟨c, stored, rfl, checked, by rw [done]⟩)

/-- A deletion of an edge is refused or finds nothing, and changes nothing, or it removes the edge. -/
theorem deleteEdge_cases (s : Store) (graph name key : String) (rev : Option String) (ignoreMissing : Bool) :
    (∃ r, s.deleteEdge graph name key rev ignoreMissing = (.error r, s)) ∨
      s.deleteEdge graph name key rev ignoreMissing = (.ok false, s) ∨
      ∃ d c stored, s.edgeDefinition graph name = .ok d ∧ s.DeleteChecked name c key rev stored ∧
        s.deleteEdge graph name key rev ignoreMissing = (.ok true, s.setCollection name (c.remove key)) := by
  unfold deleteEdge after
  cases found : s.edgeDefinition graph name with
  | error r => exact .inl ⟨r, rfl⟩
  | ok d =>
    dsimp only [Except.map]
    rcases s.delete_cases name key rev ignoreMissing with refused | nothing | ⟨c, stored, checked, done⟩
    · exact .inl refused
    · exact .inr (.inl nothing)
    · exact .inr (.inr ⟨d, c, stored, rfl, checked, done⟩)

end Store
end RecordStore
