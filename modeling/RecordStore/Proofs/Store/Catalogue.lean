import RecordStore.Proofs.Store.Atomicity
import RecordStore.Proofs.Store.Linking
import RecordStore.Proofs.Table

/-!
# The catalogue of graphs

A graph can rely on its collections: as long as nobody deletes a collection by itself, every collection that a graph
lists exists (`Stocked`), since dropping a graph takes along only what no graph that stays lists (`GraphDropped`). Both
are stated with `Lists`, in whatever role a graph names a collection; that the store goes through a list without
repetitions does not show (`mem_collections`).
-/

namespace RecordStore

namespace GraphDefinition

/-- A graph lists a collection: as edges, on either side of edges, or besides them. -/
def Lists (g : GraphDefinition) (name : String) : Prop :=
  (∃ d ∈ g.edgeDefinitions, d.edges = name ∨ name ∈ d.sources ∨ name ∈ d.targets) ∨ name ∈ g.orphans

instance (g : GraphDefinition) (name : String) : Decidable (g.Lists name) :=
  inferInstanceAs (Decidable (_ ∨ _))

theorem mem_distinct (names : List String) (name : String) : name ∈ distinct names ↔ name ∈ names := by
  suffices general : ∀ seen : List String,
      name ∈ names.foldl (fun seen name => if seen.contains name then seen else seen ++ [name]) seen ↔
        name ∈ seen ∨ name ∈ names from (general []).trans (or_iff_right List.not_mem_nil)
  induction names with
  | nil => exact fun seen => (or_iff_left List.not_mem_nil).symm
  | cons first rest ih =>
    intro seen
    rw [List.foldl_cons, ih, List.mem_cons, ← or_assoc]
    refine or_congr_left ?_
    split
    · rename_i repeated
      refine (or_iff_left_of_imp ?_).symm
      rintro rfl
      exact List.contains_iff_mem.mp repeated
    · rw [List.mem_append, List.mem_singleton]

/-- The collections that the store goes through are those that the graph lists. -/
theorem mem_collections (g : GraphDefinition) (name : String) : name ∈ g.collections ↔ g.Lists name := by
  unfold collections Lists
  rw [mem_distinct, List.mem_append, List.mem_append]
  refine or_congr_left ?_
  simp only [List.mem_map, List.mem_flatMap, List.mem_append]
  constructor
  · rintro (⟨d, listed, named⟩ | ⟨d, listed, side⟩)
    · exact ⟨d, listed, .inl named⟩
    · exact ⟨d, listed, .inr side⟩
  · rintro ⟨d, listed, named | side⟩
    · exact .inl ⟨d, listed, named⟩
    · exact .inr ⟨d, listed, side⟩

end GraphDefinition

def Request.deletesCollection : Request → Bool
  | deleteCollection _ _ => true
  | _ => false

namespace Store

def Lists (s : Store) (name : String) : Prop :=
  ∃ g ∈ s.graphs.values, g.Lists name

instance (s : Store) (name : String) : Decidable (s.Lists name) :=
  inferInstanceAs (Decidable (∃ _ ∈ _, _))

/-- Every collection that a graph lists exists. -/
def Stocked (s : Store) : Prop :=
  ∀ name, s.Lists name → s.collections.has name = true

/-- What dropping a graph comes to: the graph is gone, on request together with the collections that no other graph
lists, and everything else is as before. -/
structure GraphDropped (s t : Store) (name : String) (g : GraphDefinition) (dropCollections : Bool) : Prop where
  graph : t.graphs.get? name = none
  others : ∀ other, other ≠ name → t.graphs.get? other = s.graphs.get? other
  dropped : dropCollections = true → ∀ collection, g.Lists collection → ¬t.Lists collection →
    t.collections.get? collection = none
  kept : ∀ collection, ¬g.Lists collection ∨ t.Lists collection →
    t.collections.get? collection = s.collections.get? collection
  besides : t = { s with graphs := t.graphs, collections := t.collections }
  /-- If no collections are asked for, only the entry of the graph goes. -/
  plain : dropCollections = false → t = { s with graphs := t.graphs }

/-! ### Dropping a graph -/

theorem isGraphCollection_iff (graphs : Table GraphDefinition) (name : String) :
    isGraphCollection graphs name = true ↔ ∃ g ∈ graphs.values, g.Lists name := by
  simp only [isGraphCollection, List.any_eq_true, List.contains_iff_mem, GraphDefinition.mem_collections]

theorem get?_eraseAll (names : List String) (t : Table Collection) (name : String) :
    (names.foldl Table.erase t).get? name = if name ∈ names then none else t.get? name := by
  induction names generalizing t with
  | nil => rfl
  | cons first rest ih =>
    rw [List.foldl_cons, ih]
    by_cases later : name ∈ rest
    · rw [if_pos later, if_pos (List.mem_cons_of_mem _ later)]
    · rw [if_neg later]
      by_cases same : first = name
      · rw [same, Table.get?_erase_self, if_pos List.mem_cons_self]
      · rw [Table.get?_erase_of_ne t same, if_neg (by simp [Ne.symm same, later])]

theorem deleteGraph_present {s : Store} {name : String} {g : GraphDefinition} (present : s.graphs.get? name = some g)
    (ignoreMissing dropCollections : Bool) :
    (s.deleteGraph name ignoreMissing dropCollections).1 = .ok true ∧
      GraphDropped s (s.deleteGraph name ignoreMissing dropCollections).2 name g dropCollections := by
  unfold deleteGraph
  rw [present]
  refine ⟨rfl, Table.get?_erase_self _ _, fun other different => Table.get?_erase_of_ne _ different.symm,
    fun drop collection listed unlisted => ?_, fun collection stays => ?_, rfl, fun keep => ?_⟩
  · dsimp only
    rw [get?_eraseAll, drop, if_pos rfl, if_pos]
    refine List.mem_filter.mpr ⟨(g.mem_collections collection).mpr listed, ?_⟩
    rw [Bool.not_eq_true']
    exact Bool.eq_false_iff.mpr fun shared => unlisted ((isGraphCollection_iff _ _).mp shared)
  · dsimp only
    rw [get?_eraseAll, if_neg]
    intro goes
    split at goes
    · obtain ⟨listed, unshared⟩ := List.mem_filter.mp goes
      rcases stays with unlisted | shared
      · exact unlisted ((g.mem_collections collection).mp listed)
      · rw [(isGraphCollection_iff _ _).mpr shared] at unshared
        cases unshared
    · cases goes
  · rw [keep]
    rfl

theorem deleteGraph_absent {s : Store} {name : String} (absent : s.graphs.get? name = none)
    (ignoreMissing dropCollections : Bool) :
    (s.deleteGraph name ignoreMissing dropCollections).2 = s ∧
      (s.deleteGraph name ignoreMissing dropCollections).1 ≠ .ok true := by
  unfold deleteGraph
  rw [absent]
  cases ignoreMissing <;> exact ⟨rfl, by simp⟩

/-! ### Steps of the catalogue -/

def KeepsCollections (s t : Store) : Prop :=
  ∀ name, s.collections.has name = true → t.collections.has name = true

/-- The graphs are as they were, and no collection is gone. -/
structure CatalogueKept (s t : Store) : Prop where
  graphs : t.graphs = s.graphs
  collections : KeepsCollections s t

/-- What a request does to the catalogue, unless it deletes a collection by itself. -/
inductive CatalogueStep (s t : Store) : Prop where
  | aside (kept : CatalogueKept s t)
  | created {g : GraphDefinition} (new : s.graphs.get? g.name = none) (graphs : t.graphs = s.graphs.set g.name g)
      (listed : ∀ name, g.Lists name → t.collections.has name = true) (kept : KeepsCollections s t)
  | dropped {name : String} {g : GraphDefinition} {dropCollections : Bool} (graphs : t.graphs = s.graphs.erase name)
      (done : GraphDropped s t name g dropCollections)

theorem keeps_set {s t : Store} {name : String} {c : Collection}
    (collections : t.collections = s.collections.set name c) : KeepsCollections s t := by
  intro other present
  rw [collections, Table.has_set, present, Bool.or_true]

theorem has_ensureCollection (s : Store) (name : String) (options : CollectionOptions) (other : String) :
    (s.ensureCollection name options).collections.has other = (name == other || s.collections.has other) := by
  unfold ensureCollection
  split
  · rename_i present
    by_cases same : name = other
    · rw [← same, present, Bool.or_true]
    · rw [beq_false_of_ne same, Bool.false_or]
  · exact Table.has_set s.collections name other _

theorem has_ensureCollections {α : Type} (name : α → String) (options : CollectionOptions) (items : List α) (s : Store)
    (other : String) :
    (items.foldl (fun s a => s.ensureCollection (name a) options) s).collections.has other =
      (items.any (name · == other) || s.collections.has other) := by
  induction items generalizing s with
  | nil => rfl
  | cons a rest ih =>
    rw [List.foldl_cons, ih, has_ensureCollection, List.any_cons, Bool.or_left_comm, Bool.or_assoc]

theorem has_withoutEdges (names : List String) (collections : Table Collection) (vertex other : String) :
    (names.foldl (fun collections name => collections.modify name (Collection.withoutEdgesAt · vertex))
      collections).has other = collections.has other := by
  induction names generalizing collections with
  | nil => rfl
  | cons name rest ih => rw [List.foldl_cons, ih, Table.has_modify]

namespace CatalogueKept

theorem unchanged {s t : Store} (graphs : t.graphs = s.graphs) (collections : t.collections = s.collections) :
    CatalogueKept s t :=
  ⟨graphs, fun _ present => collections ▸ present⟩

theorem trans {s t u : Store} (first : CatalogueKept s t) (second : CatalogueKept t u) : CatalogueKept s u :=
  ⟨second.graphs.trans first.graphs, fun name present => second.collections name (first.collections name present)⟩

theorem set {s t : Store} (graphs : t.graphs = s.graphs) {name : String} {c : Collection}
    (collections : t.collections = s.collections.set name c) : CatalogueKept s t :=
  ⟨graphs, keeps_set collections⟩

theorem insert (s : Store) (name : String) (document : Document) :
    CatalogueKept s (s.insert name document).2 := by
  rcases s.insert_cases name document with ⟨r, n, -, refused⟩ | ⟨c, key, n, -, done⟩
  · rw [refused]
    exact .unchanged rfl rfl
  · rw [done]
    exact .set rfl rfl

theorem insertMany (s : Store) (name : String) (documents : List Document) :
    CatalogueKept s (s.answer (.insertMany name documents)).2 := by
  induction documents generalizing s with
  | nil => exact .unchanged rfl rfl
  | cons document rest ih => exact (insert s name document).trans (ih (s.answer (.insert name document)).2)

theorem replace (s : Store) (name : String) (document : Document) :
    CatalogueKept s (s.replace name document).2 := by
  rcases s.replace_cases name document with ⟨r, refused⟩ | ⟨c, key, stored, -, done⟩
  · rw [refused]
    exact .unchanged rfl rfl
  · rw [done]
    exact .set rfl rfl

theorem delete (s : Store) (name key : String) (rev : Option String) (ignoreMissing : Bool) :
    CatalogueKept s (s.delete name key rev ignoreMissing).2 := by
  rcases s.delete_cases name key rev ignoreMissing with ⟨r, refused⟩ | nothing | ⟨c, stored, -, done⟩
  · rw [refused]
    exact .unchanged rfl rfl
  · rw [nothing]
    exact .unchanged rfl rfl
  · rw [done]
    exact .set rfl rfl

theorem after {α : Type} {s : Store} {next : Store → Outcome α} (check : Except Refusal Unit)
    (step : CatalogueKept s (next s).2) : CatalogueKept s (s.after check next).2 := by
  rcases s.after_cases check next with ⟨r, -, refused⟩ | ⟨-, passed⟩
  · rw [refused]
    exact .unchanged rfl rfl
  · rw [passed]
    exact step

theorem deleteVertex (s : Store) (graph name key : String) (rev : Option String) (ignoreMissing : Bool) :
    CatalogueKept s (s.deleteVertex graph name key rev ignoreMissing).2 := by
  rcases s.deleteVertex_cases graph name key rev ignoreMissing with
    ⟨r, refused⟩ | nothing | ⟨c, stored, -, -, done⟩
  · rw [refused]
    exact .unchanged rfl rfl
  · rw [nothing]
    exact .unchanged rfl rfl
  · rw [done]
    refine ⟨rfl, fun other present => ?_⟩
    exact (has_withoutEdges _ _ _ other).trans (keeps_set (t := s.setCollection name (c.remove key)) rfl other present)

theorem createCollection (s : Store) (name : String) (options : CollectionOptions) :
    CatalogueKept s (s.createCollection name options).2 := by
  unfold Store.createCollection
  split
  · exact .unchanged rfl rfl
  · exact .set rfl rfl

theorem truncateCollection (s : Store) (name : String) : CatalogueKept s (s.truncateCollection name).2 := by
  unfold Store.truncateCollection
  split
  · exact .unchanged rfl rfl
  · exact .set rfl rfl

theorem ensureIndex (s : Store) (name : String) (i : IndexSpec) : CatalogueKept s (s.ensureIndex name i).2 := by
  unfold Store.ensureIndex
  split
  · exact .unchanged rfl rfl
  · split
    · exact .unchanged rfl rfl
    · split
      · exact .unchanged rfl rfl
      · exact .set rfl rfl

theorem of_cursors {α : Type} {s : Store} {outcome : Outcome α}
    (cases : (∃ r, outcome = (.error r, s)) ∨ ∃ a t, outcome = (.ok a, t) ∧ OnlyCursors s t) :
    CatalogueKept s outcome.2 := by
  rcases cases with ⟨r, rfl⟩ | ⟨a, t, rfl, only⟩
  · exact .unchanged rfl rfl
  · exact .unchanged only.graphs only.collections

end CatalogueKept

namespace CatalogueStep

theorem createGraph (s : Store) (g : GraphDefinition) : CatalogueStep s (s.createGraph g).2 := by
  unfold Store.createGraph
  split
  · exact .aside (.unchanged rfl rfl)
  · rename_i absent
    have edges := has_ensureCollections EdgeDefinition.edges .edge g.edgeDefinitions s
    have vertices := has_ensureCollections id {} g.collections
      (g.edgeDefinitions.foldl (fun s d => s.ensureCollection d.edges .edge) s)
    refine .created (g := g) (Table.has_eq_false.mp (by simpa using absent)) ?_ (fun name listed => ?_)
      fun name present => ?_
    · have first := graphs_ensureCollections EdgeDefinition.edges .edge g.edgeDefinitions s
      have second := graphs_ensureCollections id {} g.collections
        (g.edgeDefinitions.foldl (fun s d => s.ensureCollection d.edges .edge) s)
      exact congrArg (·.set g.name g) (second.trans first)
    · refine (vertices name).trans ?_
      have named : g.collections.any (id · == name) = true :=
        List.any_eq_true.mpr ⟨name, (g.mem_collections name).mpr listed, beq_self_eq_true name⟩
      rw [named, Bool.true_or]
    · refine (vertices name).trans ?_
      rw [edges, present, Bool.or_true, Bool.or_true]

theorem deleteGraph (s : Store) (name : String) (ignoreMissing dropCollections : Bool) :
    CatalogueStep s (s.deleteGraph name ignoreMissing dropCollections).2 := by
  cases present : s.graphs.get? name with
  | none =>
    rw [(deleteGraph_absent present ignoreMissing dropCollections).1]
    exact .aside (.unchanged rfl rfl)
  | some g =>
    refine .dropped ?_ (deleteGraph_present present ignoreMissing dropCollections).2
    unfold Store.deleteGraph
    rw [present]

/-- No collection goes that a graph of the state after still lists. -/
theorem stocked {s t : Store} (step : CatalogueStep s t) (stocked : s.Stocked) : t.Stocked := by
  rintro name ⟨h, existing, listed⟩
  cases step with
  | aside kept => exact kept.collections name (stocked name ⟨h, kept.graphs ▸ existing, listed⟩)
  | created new graphs provided kept =>
    rw [graphs, Table.mem_values_set new] at existing
    rcases existing with rfl | before
    · exact provided name listed
    · exact kept name (stocked name ⟨h, before, listed⟩)
  | dropped graphs done =>
    have before : h ∈ s.graphs.values := by
      rw [graphs] at existing
      exact (List.filter_sublist.map Prod.snd).subset existing
    unfold Table.has
    rw [done.kept name (.inr ⟨h, existing, listed⟩)]
    exact stocked name ⟨h, before, listed⟩

end CatalogueStep

theorem answer_catalogueStep (s : Store) {r : Request} (plain : r.deletesCollection = false) :
    CatalogueStep s (s.answer r).2 := by
  cases r with
  | hasCollection | count | get | keys | hasGraph => exact .aside (.unchanged rfl rfl)
  | getMany name keys =>
    rw [getMany_unchanged]
    exact .aside (.unchanged rfl rfl)
  | createCollection name options => exact .aside (.createCollection s name options)
  | truncateCollection name => exact .aside (.truncateCollection s name)
  | ensureIndex name i => exact .aside (.ensureIndex s name i)
  | insert name document => exact .aside (.insert s name document)
  | insertMany name documents => exact .aside (.insertMany s name documents)
  | replace name document => exact .aside (.replace s name document)
  | delete name key rev ignoreMissing => exact .aside (.delete s name key rev ignoreMissing)
  | insertVertex graph name document => exact .aside (.after _ (.insert s name document))
  | insertEdge graph name document => exact .aside (.after _ (.insert s name document))
  | replaceVertex graph name document => exact .aside (.after _ (.replace s name document))
  | replaceEdge graph name document => exact .aside (.after _ (.replace s name document))
  | deleteVertex graph name key rev ignoreMissing => exact .aside (.deleteVertex s graph name key rev ignoreMissing)
  | deleteEdge graph name key rev ignoreMissing => exact .aside (.after _ (.delete s name key rev ignoreMissing))
  | execute q => exact .aside (.of_cursors (s.execute_cases q))
  | nextBatch id => exact .aside (.of_cursors (s.nextBatch_cases id))
  | closeCursor id => exact .aside (.of_cursors (s.closeCursor_cases id))
  | createGraph g => exact .createGraph s g
  | deleteGraph name ignoreMissing dropCollections => exact .deleteGraph s name ignoreMissing dropCollections
  | deleteCollection name ignoreMissing => cases plain

theorem stocked_afterAll {s : Store} (stocked : s.Stocked) (requests : List Request)
    (plain : ∀ r ∈ requests, r.deletesCollection = false) : (s.afterAll requests).Stocked := by
  induction requests generalizing s with
  | nil => exact stocked
  | cons r rest ih =>
    obtain ⟨first, later⟩ := List.forall_mem_cons.mp plain
    exact ih ((s.answer_catalogueStep first).stocked stocked) later

/-- In every run from an empty store in which no collection is deleted by itself, whatever collection a graph lists
exists. And in every state, a graph is deleted if there is one, and takes along just those of its collections that no
other graph lists, if that is asked for. -/
theorem catalogue_intact :
    (∀ (batchSize : Nat) (requests : List Request), (∀ r ∈ requests, r.deletesCollection = false) →
      ((empty batchSize).afterAll requests).Stocked) ∧
    ∀ (s : Store) (name : String) (ignoreMissing dropCollections : Bool),
      ((s.answer (.deleteGraph name ignoreMissing dropCollections)).1 = .ok true ↔ s.graphs.has name = true) ∧
      ∀ g, s.graphs.get? name = some g →
        GraphDropped s (s.answer (.deleteGraph name ignoreMissing dropCollections)).2 name g dropCollections := by
  refine ⟨fun batchSize requests plain => ?_, fun s name ignoreMissing dropCollections => ⟨⟨fun deleted => ?_,
    fun existing => ?_⟩, fun g present => ?_⟩⟩
  · refine stocked_afterAll ?_ requests plain
    rintro name ⟨g, existing, -⟩
    cases existing
  · cases present : s.graphs.get? name with
    | none =>
      refine absurd ?_ (deleteGraph_absent present ignoreMissing dropCollections).2
      exact congrArg Prod.fst (eq_of_reply deleted)
    | some g => rw [Table.has, present, Option.isSome_some]
  · obtain ⟨g, present⟩ := Option.isSome_iff_exists.mp existing
    have done := (deleteGraph_present present ignoreMissing dropCollections).1
    show (reply (s.deleteGraph name ignoreMissing dropCollections)).1 = .ok true
    rw [reply, done]
    rfl
  · exact (deleteGraph_present present ignoreMissing dropCollections).2

/-- Two graphs share collections in different roles: what is edges for the one stands besides the edges of the other.
Only the collection that the second graph does not list goes with the first. -/
theorem overlapping_graph_dropped :
    let one : GraphDefinition := ⟨"one", [⟨"e", ["v"], ["w"]⟩], ["o"]⟩
    let two : GraphDefinition := ⟨"two", [⟨"o", ["w"], ["x"]⟩], ["e"]⟩
    let run : List Request := [.createCollection "w" .edge, .createGraph one, .createGraph two,
      .insertVertex "one" "v" [], .insertVertex "two" "x" []]
    let s := (empty 1).afterAll run
    let t := (s.answer (.deleteGraph "one" false true)).2
    (∀ r ∈ run, r.deletesCollection = false) ∧ s.Stocked ∧ s.graphs.get? "one" = some one ∧
      GraphDropped s t "one" one true ∧ s.collections.keys = ["e", "o", "v", "w", "x"] ∧
      t.collections.keys = ["e", "o", "w", "x"] ∧ t.graphs.keys = ["two"] := by
  intro one two run s t
  have plain : ∀ r ∈ run, r.deletesCollection = false := by simp [run, Request.deletesCollection]
  have present : s.graphs.get? "one" = some one := by decide +kernel
  obtain ⟨stocked, dropped⟩ := catalogue_intact
  exact ⟨plain, stocked 1 run plain, present, (dropped s "one" false true).2 one present, by decide +kernel,
    by decide +kernel, by decide +kernel⟩

end Store
end RecordStore
