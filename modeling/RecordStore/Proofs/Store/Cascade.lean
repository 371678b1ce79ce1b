import RecordStore.Proofs.Store.History
import RecordStore.Proofs.Store.Linking

/-!
# What a deleted vertex takes along

A deleted vertex goes with exactly the edges at it: those documents of the edge collections that may connect it, in
whatever graph, that name it at an end (`deleteVertex_exact`). A collection that several definitions list is gone
through several times, which removes nothing more.
-/

namespace RecordStore

def Collection.keep (c : Collection) (test : String × Document → Bool) : Collection :=
  { c with documents := c.documents.filter test }

namespace Store

/-- The edges of a collection may connect vertices of another: an edge definition of an existing graph allows it. -/
def MayConnect (s : Store) (edges vertices : String) : Prop :=
  ∃ g ∈ s.graphs.values, ∃ d ∈ g.edgeDefinitions, d.edges = edges ∧ (vertices ∈ d.sources ∨ vertices ∈ d.targets)

instance (s : Store) (edges vertices : String) : Decidable (s.MayConnect edges vertices) :=
  inferInstanceAs (Decidable (∃ g ∈ s.graphs.values, ∃ d ∈ g.edgeDefinitions, _))

/-- A stored document goes when a vertex is deleted: it is the vertex, or an edge that starts or ends there. -/
def GoesWith (s : Store) (name key other : String) (entry : String × Document) : Prop :=
  other = name ∧ entry.1 = key ∨ s.MayConnect other name ∧
    (entry.2.text? Attribute.source = some (idOf name key) ∨ entry.2.text? Attribute.target = some (idOf name key))

instance (s : Store) (name key other : String) (entry : String × Document) :
    Decidable (s.GoesWith name key other entry) :=
  inferInstanceAs (Decidable (_ ∨ _))

/-- What a deletion of a vertex through a graph asks for. -/
def VertexFound (s : Store) (graph name key : String) (rev : Option String) : Prop :=
  ∃ g c stored, s.graphs.get? graph = some g ∧ g.hasVertices name = true ∧ s.DeleteChecked name c key rev stored

/-! ### Edges at a vertex -/

theorem mayConnect_iff {s : Store} {edges vertices : String} :
    s.MayConnect edges vertices ↔ edges ∈ s.edgeCollectionsOf vertices := by
  rw [mem_edgeCollectionsOf]
  constructor
  · rintro ⟨g, existing, d, listed, named, side⟩
    exact ⟨d, ⟨g, existing, listed⟩, side, named⟩
  · rintro ⟨d, ⟨g, existing, listed⟩, side, named⟩
    exact ⟨g, existing, d, listed, named, side⟩

theorem withoutEdgesAt_self (c : Collection) (vertex : String) :
    Collection.withoutEdgesAt (Collection.withoutEdgesAt c vertex) vertex = Collection.withoutEdgesAt c vertex := by
  simp [Collection.withoutEdgesAt]

/-- Going through collections of edges, some of them more than once, thins each of them once. -/
theorem get?_foldl_withoutEdgesAt (names : List String) (collections : Table Collection) (vertex other : String) :
    (names.foldl (fun table name => table.modify name (Collection.withoutEdgesAt · vertex)) collections).get? other =
      (collections.get? other).map fun c =>
        if other ∈ names then Collection.withoutEdgesAt c vertex else c := by
  induction names generalizing collections with
  | nil => simp
  | cons name rest ih =>
    rw [List.foldl_cons, ih, Table.get?_modify]
    by_cases here : name = other
    · subst here
      rw [if_pos rfl, Option.map_map]
      refine Option.map_congr fun c _ => ?_
      simp [withoutEdgesAt_self]
    · rw [if_neg here]
      refine Option.map_congr fun c _ => ?_
      simp [List.mem_cons, Ne.symm here]

theorem collection_removeIncidentEdges (s : Store) (name vertex other : String) :
    (s.removeIncidentEdges name vertex).collections.get? other =
      (s.collections.get? other).map fun c =>
        if s.MayConnect other name then Collection.withoutEdgesAt c vertex else c := by
  simp only [mayConnect_iff]
  exact get?_foldl_withoutEdgesAt _ s.collections vertex other

/-! ### The vertex -/

/-- Where keys are distinct, removing the first document with a key removes all of them. -/
theorem remove_eq_keep {c : Collection} (distinct : c.keys.Nodup) (key : String) :
    c.remove key = c.keep fun entry => entry.1 ≠ key := by
  unfold Collection.remove Collection.keep
  congr 1
  unfold Collection.keys at distinct
  generalize c.documents = documents at distinct ⊢
  induction documents with
  | nil => rfl
  | cons entry rest ih =>
    obtain ⟨fresh, later⟩ := List.nodup_cons.mp distinct
    by_cases same : entry.1 = key
    · have others : rest.filter (fun entry => entry.1 ≠ key) = rest := by
        refine List.filter_eq_self.mpr fun other listed => decide_eq_true fun equal => ?_
        exact fresh (List.mem_map.mpr ⟨other, listed, equal.trans same.symm⟩)
      rw [List.eraseP_cons_of_pos (by simpa using same), List.filter_cons_of_neg (by simpa using same), others]
    · rw [List.eraseP_cons_of_neg (by simpa using same), List.filter_cons_of_pos (by simpa using same), ih later]

theorem collection_set_remove {s : Store} {name key : String} {c : Collection}
    (present : s.collections.get? name = some c) (distinct : c.keys.Nodup) (other : String) :
    (s.setCollection name (c.remove key)).collections.get? other =
      (s.collections.get? other).map (·.keep fun entry => ¬(other = name ∧ entry.1 = key)) := by
  refine (Table.get?_set s.collections name other (c.remove key)).trans ?_
  by_cases here : name = other
  · subst here
    rw [if_pos rfl, present, remove_eq_keep distinct]
    simp
  · rw [if_neg here]
    simp [Collection.keep, Ne.symm here]

/-- After the vertex and the edges at it are gone, each collection is left with what does not go with the vertex. -/
theorem collection_deleted {s : Store} {name key : String} {c : Collection}
    (present : s.collections.get? name = some c) (distinct : c.keys.Nodup) (other : String) :
    ((s.setCollection name (c.remove key)).removeIncidentEdges name (idOf name key)).collections.get? other =
      (s.collections.get? other).map (·.keep fun entry => ¬s.GoesWith name key other entry) := by
  have graphs : (s.setCollection name (c.remove key)).MayConnect other name ↔ s.MayConnect other name := Iff.rfl
  rw [collection_removeIncidentEdges, collection_set_remove present distinct, Option.map_map]
  refine Option.map_congr fun d _ => ?_
  by_cases connected : s.MayConnect other name
  · simp only [Function.comp_apply, if_pos (graphs.mpr connected), Collection.withoutEdgesAt, Collection.keep,
      List.filter_filter]
    congr 1
    refine List.filter_congr fun entry _ => ?_
    simp [GoesWith, connected, isIncident, not_or, and_comm]
  · simp only [Function.comp_apply, if_neg (mt graphs.mp connected), Collection.keep, GoesWith, connected, false_and,
      or_false]

/-! ### The request -/

theorem deleteVertex_found {s : Store} {graph name key : String} {rev : Option String} (ignoreMissing : Bool)
    {g : GraphDefinition} (existing : s.graphs.get? graph = some g) (vertices : g.hasVertices name = true)
    {c : Collection} {stored : Document} (checked : s.DeleteChecked name c key rev stored) :
    s.deleteVertex graph name key rev ignoreMissing =
      (.ok true, (s.setCollection name (c.remove key)).removeIncidentEdges name (idOf name key)) := by
  have passed : s.checkVertexCollection graph name = .ok () := by
    simp only [checkVertexCollection, Store.graph, existing, bind, Except.bind, vertices, if_true, pure, Except.pure]
  simp only [deleteVertex, after, passed, delete, checked.present, checked.found, checked.current]
  rfl

/-- In every state of a run, a deletion of a vertex through a graph that has it removes the vertex and the edges at it,
and nothing else; any other deletion of a vertex changes nothing. -/
theorem deleteVertex_exact (batchSize : Nat) (requests : List Request) (graph name key : String) (rev : Option String)
    (ignoreMissing : Bool) :
    let s := (empty batchSize).afterAll requests
    let outcome := s.deleteVertex graph name key rev ignoreMissing
    (s.VertexFound graph name key rev ∧ outcome.1 = .ok true ∧
        outcome.2 = { s with collections := outcome.2.collections } ∧
        ∀ other, outcome.2.collections.get? other =
          (s.collections.get? other).map (·.keep fun entry => ¬s.GoesWith name key other entry)) ∨
      ¬s.VertexFound graph name key rev ∧ outcome.1 ≠ .ok true ∧ outcome.2 = s := by
  intro s outcome
  by_cases found : s.VertexFound graph name key rev
  · left
    obtain ⟨g, c, stored, existing, vertices, checked⟩ := found
    have done : outcome = _ := deleteVertex_found ignoreMissing existing vertices checked
    have distinct := ((traced_afterAll batchSize requests).traced name c checked.present).keyed
    rw [done]
    exact ⟨⟨g, c, stored, existing, vertices, checked⟩, rfl, rfl, collection_deleted checked.present distinct⟩
  · right
    rcases s.deleteVertex_cases graph name key rev ignoreMissing with
      ⟨r, refused⟩ | nothing | ⟨c, stored, passed, checked, -⟩
    · have refused : outcome = _ := refused
      rw [refused]
      exact ⟨found, by simp, rfl⟩
    · have nothing : outcome = _ := nothing
      rw [nothing]
      exact ⟨found, by simp, rfl⟩
    · obtain ⟨g, existing, vertices⟩ := checkVertexCollection_ok passed
      exact absurd ⟨g, c, stored, existing, vertices, checked⟩ found

/-- Two graphs share vertices and a collection of edges, which hold a loop and an edge that was written directly. -/
example :
    let run : List Request := [.createGraph ⟨"one", [⟨"e", ["v"], ["w"]⟩], []⟩,
      .createGraph ⟨"two", [⟨"f", ["w"], ["v"]⟩, ⟨"e", ["v"], ["v"]⟩], []⟩,
      .insertVertex "one" "v" [("_key", .string "x")], .insertVertex "two" "v" [("_key", .string "xx")],
      .insert "e" [("_from", .string "v/x"), ("_to", .string "v/x")],
      .insert "e" [("_from", .string "w/x"), ("_to", .string "v/xx")],
      .insert "f" [("_from", .string "w/9"), ("_to", .string "v/x")]]
    let left := (((empty 1).afterAll run).deleteVertex "one" "v" "x" none false).2
    ["v", "e", "f"].map (fun name => (left.collections.get? name).map (·.keys)) =
      [some ["xx"], some ["2"], some []] := by
  decide +kernel

end Store
end RecordStore
