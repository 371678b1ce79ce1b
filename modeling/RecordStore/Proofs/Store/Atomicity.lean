import RecordStore.Proofs.Store.Change

/-!
# Refused requests

A request that is refused leaves the store as it was, but for numbers of keys that an insert has used up. Besides,
no request moves the counter of keys back, and only the requests of cursors touch the cursors (`Orderly`). What each
operation on documents can come to is known from its cases, so that only the operations on the catalogue are opened
here.
-/

namespace RecordStore

namespace Request

/-- Whether a deletion answers that there was nothing to delete. -/
def foundNothing : (r : Request) → r.Answer → Bool
  | deleteCollection _ _, answer | delete _ _ _ _, answer | deleteGraph _ _ _, answer =>
    answer.toOption == some false
  | deleteVertex _ _ _ _ _, answer | deleteEdge _ _ _ _ _, answer => answer.toOption == some false
  | _, _ => false

def usesCursors : Request → Bool
  | execute _ | nextBatch _ | closeCursor _ => true
  | _ => false

end Request

namespace Store

/-- The same store, with the counter of keys moved forward at most. -/
def SameButKeys (s t : Store) : Prop :=
  ∃ n, s.keyCounter ≤ n ∧ t = { s with keyCounter := n }

theorem SameButKeys.refl (s : Store) : SameButKeys s s :=
  ⟨s.keyCounter, Nat.le_refl _, rfl⟩

/-! ### Outcomes of single operations -/

/-- The cursors, how many there were, and how they are cut into batches. -/
structure SameCursors (s t : Store) : Prop where
  cursors : t.cursors = s.cursors
  opened : t.cursorCounter = s.cursorCounter
  batchSize : t.batchSize = s.batchSize

theorem SameCursors.trans {s t u : Store} (first : SameCursors s t) (second : SameCursors t u) : SameCursors s u :=
  ⟨second.cursors.trans first.cursors, second.opened.trans first.opened, second.batchSize.trans first.batchSize⟩

/-- An outcome that leaves the store as it was if it is a refusal, and does not move the counter of keys back. -/
structure Careful {α : Type} (s : Store) (outcome : Outcome α) : Prop where
  refused : ∀ r, outcome.1 = .error r → SameButKeys s outcome.2
  keys : s.keyCounter ≤ outcome.2.keyCounter

/-- An outcome that besides leaves the cursors alone. -/
structure Orderly {α : Type} (s : Store) (outcome : Outcome α) : Prop extends Careful s outcome where
  cursors : SameCursors s outcome.2

theorem orderly_same {α : Type} (s : Store) (answer : Except Refusal α) : Orderly s (answer, s) :=
  ⟨⟨fun _ _ => .refl s, Nat.le_refl _⟩, ⟨rfl, rfl, rfl⟩⟩

theorem orderly_ok {α : Type} {s t : Store} (a : α) (keys : s.keyCounter ≤ t.keyCounter)
    (cursors : SameCursors s t) : Orderly s (.ok a, t) := by
  refine ⟨⟨fun r refused => ?_, keys⟩, cursors⟩
  cases refused

theorem orderly_catalogue {α : Type} {s : Store} (a : α) (collections : Table Collection)
    (graphs : Table GraphDefinition) :
    Orderly s (.ok a, { s with collections := collections, graphs := graphs }) :=
  orderly_ok a (Nat.le_refl _) ⟨rfl, rfl, rfl⟩

theorem InsertChecked.keyCounter_le {s : Store} {name key : String} {c : Collection} {n : Nat} {document : Document}
    (checked : s.InsertChecked name c key n document) : s.keyCounter ≤ n := by
  rcases checked.choice with ⟨-, rfl, -⟩ | ⟨-, rfl⟩
  · exact Nat.le_of_lt (lt_nextFree _ _ _)
  · exact Nat.le_refl _

theorem insert_orderly (s : Store) (name : String) (document : Document) : Orderly s (s.insert name document) := by
  rcases s.insert_cases name document with ⟨r, n, later, refused⟩ | ⟨c, key, n, checked, done⟩
  · rw [refused]
    exact ⟨⟨fun _ _ => ⟨n, later, rfl⟩, later⟩, ⟨rfl, rfl, rfl⟩⟩
  · rw [done]
    exact orderly_ok _ checked.keyCounter_le ⟨rfl, rfl, rfl⟩

theorem replace_orderly (s : Store) (name : String) (document : Document) : Orderly s (s.replace name document) := by
  rcases s.replace_cases name document with ⟨r, refused⟩ | ⟨c, key, stored, -, done⟩
  · rw [refused]
    exact orderly_same s _
  · rw [done]
    exact orderly_ok _ (Nat.le_refl _) ⟨rfl, rfl, rfl⟩

theorem delete_orderly (s : Store) (name key : String) (rev : Option String) (ignoreMissing : Bool) :
    Orderly s (s.delete name key rev ignoreMissing) := by
  rcases s.delete_cases name key rev ignoreMissing with ⟨r, refused⟩ | nothing | ⟨c, stored, -, done⟩
  · rw [refused]
    exact orderly_same s _
  · rw [nothing]
    exact orderly_same s _
  · rw [done]
    exact orderly_catalogue true _ _

theorem after_orderly {α : Type} {s : Store} {next : Store → Outcome α} (check : Except Refusal Unit)
    (orderly : Orderly s (next s)) : Orderly s (s.after check next) := by
  rcases s.after_cases check next with ⟨r, -, refused⟩ | ⟨-, passed⟩
  · rw [refused]
    exact orderly_same s _
  · rw [passed]
    exact orderly

theorem deleteVertex_orderly (s : Store) (graph name key : String) (rev : Option String) (ignoreMissing : Bool) :
    Orderly s (s.deleteVertex graph name key rev ignoreMissing) := by
  rcases s.deleteVertex_cases graph name key rev ignoreMissing with
    ⟨r, refused⟩ | nothing | ⟨c, stored, -, -, done⟩
  · rw [refused]
    exact orderly_same s _
  · rw [nothing]
    exact orderly_same s _
  · rw [done]
    exact orderly_catalogue true _ _

theorem createCollection_orderly (s : Store) (name : String) (options : CollectionOptions) :
    Orderly s (s.createCollection name options) := by
  unfold createCollection
  split
  · exact orderly_same s _
  · exact orderly_catalogue () _ _

theorem deleteCollection_orderly (s : Store) (name : String) (ignoreMissing : Bool) :
    Orderly s (s.deleteCollection name ignoreMissing) := by
  unfold deleteCollection
  split
  · exact orderly_catalogue true _ _
  · exact orderly_same s _

theorem truncateCollection_orderly (s : Store) (name : String) : Orderly s (s.truncateCollection name) := by
  unfold truncateCollection
  split
  · exact orderly_same s _
  · exact orderly_catalogue () _ _

theorem ensureIndex_orderly (s : Store) (name : String) (i : IndexSpec) : Orderly s (s.ensureIndex name i) := by
  unfold ensureIndex
  split
  · exact orderly_same s _
  · split
    · exact orderly_same s _
    · split
      · exact orderly_same s _
      · exact orderly_catalogue () _ _

theorem ensureCollection_catalogue (s : Store) (name : String) (options : CollectionOptions) :
    ∃ collections, s.ensureCollection name options = { s with collections := collections } := by
  unfold ensureCollection
  split
  · exact ⟨s.collections, rfl⟩
  · exact ⟨_, rfl⟩

theorem ensureCollections_catalogue {α : Type} (name : α → String) (options : CollectionOptions) (items : List α)
    (s : Store) : ∃ collections,
      items.foldl (fun s a => s.ensureCollection (name a) options) s = { s with collections := collections } := by
  induction items generalizing s with
  | nil => exact ⟨s.collections, rfl⟩
  | cons a rest ih =>
    obtain ⟨first, ensured⟩ := s.ensureCollection_catalogue (name a) options
    obtain ⟨collections, others⟩ := ih (s.ensureCollection (name a) options)
    exact ⟨collections, by rw [List.foldl_cons, others, ensured]⟩

theorem createGraph_orderly (s : Store) (g : GraphDefinition) : Orderly s (s.createGraph g) := by
  unfold createGraph
  split
  · exact orderly_same s _
  · obtain ⟨edges, made⟩ := ensureCollections_catalogue EdgeDefinition.edges .edge g.edgeDefinitions s
    obtain ⟨vertices, others⟩ := ensureCollections_catalogue id {} g.collections { s with collections := edges }
    dsimp only [id_eq] at others ⊢
    rw [made, others]
    exact orderly_catalogue () _ _

theorem deleteGraph_orderly (s : Store) (name : String) (ignoreMissing dropCollections : Bool) :
    Orderly s (s.deleteGraph name ignoreMissing dropCollections) := by
  unfold deleteGraph
  split
  · exact orderly_same s _
  · exact orderly_catalogue true _ _

/-! ### Requests of cursors -/

/-- What has changed besides the cursors: nothing. -/
structure OnlyCursors (s t : Store) : Prop where
  collections : t.collections = s.collections
  graphs : t.graphs = s.graphs
  keys : t.keyCounter = s.keyCounter
  revs : t.revCounter = s.revCounter

theorem OnlyCursors.refl (s : Store) : OnlyCursors s s := ⟨rfl, rfl, rfl, rfl⟩

theorem OnlyCursors.trans {s t u : Store} (first : OnlyCursors s t) (second : OnlyCursors t u) : OnlyCursors s u where
  collections := second.collections.trans first.collections
  graphs := second.graphs.trans first.graphs
  keys := second.keys.trans first.keys
  revs := second.revs.trans first.revs

theorem execute_cases (s : Store) (q : BoundQuery) :
    (∃ r, s.execute q = (.error r, s)) ∨ ∃ b t, s.execute q = (.ok b, t) ∧ OnlyCursors s t := by
  unfold execute
  split
  · exact .inl ⟨_, rfl⟩
  · dsimp only
    split
    · exact .inr ⟨_, _, rfl, rfl, rfl, rfl, rfl⟩
    · exact .inr ⟨_, _, rfl, rfl, rfl, rfl, rfl⟩

theorem nextBatch_cases (s : Store) (id : String) :
    (∃ r, s.nextBatch id = (.error r, s)) ∨ ∃ b t, s.nextBatch id = (.ok b, t) ∧ OnlyCursors s t := by
  unfold nextBatch
  split
  · exact .inl ⟨_, rfl⟩
  · dsimp only
    split
    · exact .inr ⟨_, _, rfl, rfl, rfl, rfl, rfl⟩
    · exact .inr ⟨_, _, rfl, rfl, rfl, rfl, rfl⟩

theorem closeCursor_cases (s : Store) (id : String) :
    (∃ r, s.closeCursor id = (.error r, s)) ∨ ∃ a t, s.closeCursor id = (.ok a, t) ∧ OnlyCursors s t := by
  unfold closeCursor
  split
  · exact .inr ⟨(), _, rfl, rfl, rfl, rfl, rfl⟩
  · exact .inl ⟨_, rfl⟩

theorem OnlyCursors.of_cases {α : Type} {s : Store} {outcome : Outcome α}
    (cases : (∃ r, outcome = (.error r, s)) ∨ ∃ a t, outcome = (.ok a, t) ∧ OnlyCursors s t) :
    OnlyCursors s outcome.2 := by
  rcases cases with ⟨r, rfl⟩ | ⟨a, t, rfl, only⟩
  · exact .refl s
  · exact only

theorem onlyCursors_answer (s : Store) {r : Request} (uses : r.usesCursors = true) : OnlyCursors s (s.answer r).2 := by
  cases r with
  | execute q => exact .of_cases (s.execute_cases q)
  | nextBatch id => exact .of_cases (s.nextBatch_cases id)
  | closeCursor id => exact .of_cases (s.closeCursor_cases id)
  | _ => cases uses

theorem careful_of_cursors {α : Type} {s : Store} {outcome : Outcome α}
    (cases : (∃ r, outcome = (.error r, s)) ∨ ∃ a t, outcome = (.ok a, t) ∧ OnlyCursors s t) : Careful s outcome := by
  rcases cases with ⟨r, rfl⟩ | ⟨a, t, rfl, only⟩
  · exact ⟨fun _ _ => .refl s, Nat.le_refl _⟩
  · refine ⟨fun r refused => ?_, Nat.le_of_eq only.keys.symm⟩
    cases refused

/-! ### Answers -/

theorem eq_of_reply {α : Type} {outcome : Outcome α} {a : α} (answered : (reply outcome).1 = .ok a) :
    outcome = (.ok a, outcome.2) := by
  obtain ⟨result, t⟩ := outcome
  cases result with
  | error r => cases answered
  | ok b =>
    cases answered
    rfl

/-- What every request keeps to. -/
structure Behaved (s : Store) (r : Request) : Prop where
  refused : r.refused (s.answer r).1 = true → SameButKeys s (s.answer r).2
  keys : s.keyCounter ≤ (s.answer r).2.keyCounter
  cursors : r.usesCursors = false → SameCursors s (s.answer r).2

theorem Behaved.of_careful {α : Type} {s : Store} {r : Request} {outcome : Outcome α} (careful : Careful s outcome)
    (refused : r.refused (s.answer r).1 = !(reply outcome).1.isOk) (state : (s.answer r).2 = outcome.2)
    (cursors : r.usesCursors = false → SameCursors s outcome.2) : Behaved s r := by
  refine ⟨fun failed => ?_, state ▸ careful.keys, fun other => state ▸ cursors other⟩
  rw [refused] at failed
  rw [state]
  obtain ⟨result, t⟩ := outcome
  cases result with
  | error e => exact careful.refused e rfl
  | ok a => cases failed

theorem Behaved.of_orderly {α : Type} {s : Store} {r : Request} {outcome : Outcome α} (orderly : Orderly s outcome)
    (refused : r.refused (s.answer r).1 = !(reply outcome).1.isOk) (state : (s.answer r).2 = outcome.2) :
    Behaved s r :=
  .of_careful orderly.toCareful refused state fun _ => orderly.cursors

theorem Behaved.of_unchanged {s : Store} {r : Request} (state : (s.answer r).2 = s) : Behaved s r := by
  refine ⟨fun _ => ?_, ?_, fun _ => ?_⟩
  · exact state.symm ▸ .refl s
  · exact Nat.le_of_eq (congrArg keyCounter state.symm)
  · exact state.symm ▸ ⟨rfl, rfl, rfl⟩

theorem insertMany_cons (s : Store) (name : String) (document : Document) (rest : List Document) :
    s.answer (.insertMany name (document :: rest)) =
      (((s.answer (.insert name document)).1 ::
          ((s.answer (.insert name document)).2.answer (.insertMany name rest)).1),
        ((s.answer (.insert name document)).2.answer (.insertMany name rest)).2) := rfl

theorem insertMany_orderly (s : Store) (name : String) (documents : List Document) :
    s.keyCounter ≤ (s.answer (.insertMany name documents)).2.keyCounter ∧
      SameCursors s (s.answer (.insertMany name documents)).2 := by
  induction documents generalizing s with
  | nil => exact ⟨Nat.le_refl _, ⟨rfl, rfl, rfl⟩⟩
  | cons document rest ih =>
    rw [insertMany_cons]
    have first := s.insert_orderly name document
    obtain ⟨keys, cursors⟩ := ih (s.answer (.insert name document)).2
    exact ⟨Nat.le_trans first.keys keys, first.cursors.trans cursors⟩

/-- No request moves the counter of keys back, changes the store when it is refused, or touches the cursors unless it
is a request of cursors. -/
theorem answer_behaved (s : Store) (r : Request) : Behaved s r := by
  cases r with
  | hasCollection | count | get | keys | hasGraph => exact .of_unchanged rfl
  | getMany name keys => exact .of_unchanged (getMany_unchanged s name keys)
  | insertMany name documents =>
    obtain ⟨keys, cursors⟩ := s.insertMany_orderly name documents
    refine ⟨fun refused => ?_, keys, fun _ => cursors⟩
    cases refused
  | insert name document => exact .of_orderly (s.insert_orderly name document) rfl rfl
  | replace name document => exact .of_orderly (s.replace_orderly name document) rfl rfl
  | insertVertex graph name document => exact .of_orderly (after_orderly _ (s.insert_orderly name document)) rfl rfl
  | insertEdge graph name document => exact .of_orderly (after_orderly _ (s.insert_orderly name document)) rfl rfl
  | replaceVertex graph name document => exact .of_orderly (after_orderly _ (s.replace_orderly name document)) rfl rfl
  | replaceEdge graph name document => exact .of_orderly (after_orderly _ (s.replace_orderly name document)) rfl rfl
  | delete name key rev ignoreMissing => exact .of_orderly (s.delete_orderly name key rev ignoreMissing) rfl rfl
  | deleteVertex graph name key rev ignoreMissing =>
    exact .of_orderly (s.deleteVertex_orderly graph name key rev ignoreMissing) rfl rfl
  | deleteEdge graph name key rev ignoreMissing =>
    exact .of_orderly (after_orderly _ (s.delete_orderly name key rev ignoreMissing)) rfl rfl
  | createCollection name options => exact .of_orderly (s.createCollection_orderly name options) rfl rfl
  | deleteCollection name ignoreMissing => exact .of_orderly (s.deleteCollection_orderly name ignoreMissing) rfl rfl
  | truncateCollection name => exact .of_orderly (s.truncateCollection_orderly name) rfl rfl
  | ensureIndex name i => exact .of_orderly (s.ensureIndex_orderly name i) rfl rfl
  | createGraph g => exact .of_orderly (s.createGraph_orderly g) rfl rfl
  | deleteGraph name ignoreMissing dropCollections =>
    exact .of_orderly (s.deleteGraph_orderly name ignoreMissing dropCollections) rfl rfl
  | execute q =>
    refine .of_careful (careful_of_cursors (s.execute_cases q)) rfl rfl fun other => ?_
    cases other
  | nextBatch id =>
    refine .of_careful (careful_of_cursors (s.nextBatch_cases id)) rfl rfl fun other => ?_
    cases other
  | closeCursor id =>
    refine .of_careful (careful_of_cursors (s.closeCursor_cases id)) rfl rfl fun other => ?_
    cases other

theorem afterAll_keyCounter (s : Store) (requests : List Request) :
    s.keyCounter ≤ (s.afterAll requests).keyCounter := by
  induction requests generalizing s with
  | nil => exact Nat.le_refl _
  | cons r rest ih => exact Nat.le_trans (s.answer_behaved r).keys (ih (s.answer r).2)

/-! ### Deletions that find nothing -/

theorem deleteGraph_nothing {s : Store} {name : String} {ignoreMissing dropCollections : Bool}
    (nothing : (s.deleteGraph name ignoreMissing dropCollections).1 = .ok false) :
    (s.deleteGraph name ignoreMissing dropCollections).2 = s := by
  unfold deleteGraph at nothing ⊢
  split
  · rfl
  · rename_i g present
    rw [present] at nothing
    cases nothing

theorem deleteCollection_nothing {s : Store} {name : String} {ignoreMissing : Bool}
    (nothing : (s.deleteCollection name ignoreMissing).1 = .ok false) :
    (s.deleteCollection name ignoreMissing).2 = s := by
  unfold deleteCollection at nothing ⊢
  split
  · rename_i present
    rw [if_pos present] at nothing
    cases nothing
  · rfl

theorem delete_nothing {s : Store} {name key : String} {rev : Option String} {ignoreMissing : Bool}
    (nothing : (s.delete name key rev ignoreMissing).1 = .ok false) :
    (s.delete name key rev ignoreMissing).2 = s := by
  rcases s.delete_cases name key rev ignoreMissing with ⟨r, refused⟩ | found | ⟨c, stored, -, done⟩
  · rw [refused]
  · rw [found]
  · rw [done] at nothing
    cases nothing

theorem deleteVertex_nothing {s : Store} {graph name key : String} {rev : Option String} {ignoreMissing : Bool}
    (nothing : (s.deleteVertex graph name key rev ignoreMissing).1 = .ok false) :
    (s.deleteVertex graph name key rev ignoreMissing).2 = s := by
  rcases s.deleteVertex_cases graph name key rev ignoreMissing with ⟨r, refused⟩ | found | ⟨c, stored, -, -, done⟩
  · rw [refused]
  · rw [found]
  · rw [done] at nothing
    cases nothing

theorem deleteEdge_nothing {s : Store} {graph name key : String} {rev : Option String} {ignoreMissing : Bool}
    (nothing : (s.deleteEdge graph name key rev ignoreMissing).1 = .ok false) :
    (s.deleteEdge graph name key rev ignoreMissing).2 = s := by
  rcases s.deleteEdge_cases graph name key rev ignoreMissing with ⟨r, refused⟩ | found | ⟨d, c, stored, -, -, done⟩
  · rw [refused]
  · rw [found]
  · rw [done] at nothing
    cases nothing

/-- A deletion that finds nothing leaves the store exactly as it was. -/
theorem answer_nothing {s : Store} {r : Request} (nothing : r.foundNothing (s.answer r).1 = true) :
    (s.answer r).2 = s := by
  have plain : ∀ {outcome : Outcome Bool}, ((reply outcome).1.toOption == some false) = true →
      outcome.1 = .ok false := by
    intro outcome answered
    obtain ⟨result, t⟩ := outcome
    cases result with
    | error e => cases answered
    | ok found => cases found <;> first | rfl | cases answered
  cases r with
  | delete name key rev ignoreMissing => exact delete_nothing (plain nothing)
  | deleteCollection name ignoreMissing => exact deleteCollection_nothing (plain nothing)
  | deleteGraph name ignoreMissing dropCollections => exact deleteGraph_nothing (plain nothing)
  | deleteVertex graph name key rev ignoreMissing => exact deleteVertex_nothing (plain nothing)
  | deleteEdge graph name key rev ignoreMissing => exact deleteEdge_nothing (plain nothing)
  | _ => cases nothing

/-! ### Bulk inserts -/

/-- Each answer of a bulk insert is that of a single insert into what the documents before it have left. -/
theorem insertMany_each (s : Store) (name : String) (documents : List Document) (i : Nat) {document : Document}
    (listed : documents[i]? = some document) :
    let before := (s.answer (.insertMany name (documents.take i))).2
    (s.answer (.insertMany name documents)).1[i]? = some (before.answer (.insert name document)).1 ∧
      (s.answer (.insertMany name (documents.take (i + 1)))).2 = (before.answer (.insert name document)).2 := by
  induction documents generalizing s i with
  | nil => simp at listed
  | cons first rest ih =>
    cases i with
    | zero =>
      obtain rfl : first = document := by simpa using listed
      exact ⟨rfl, rfl⟩
    | succ i =>
      rw [insertMany_cons, List.take_succ_cons, List.take_succ_cons, insertMany_cons, insertMany_cons]
      exact ih (s.answer (.insert name first)).2 i (by simpa using listed)

/-- Every refused request is atomic, in every state of the store: an error leaves collections, graphs, cursors and the
counter of revisions as they were and moves the counter of keys forward at most; a deletion that finds nothing changes
nothing at all; and a document that a bulk insert refuses leaves the store, but for keys, as the documents before it
did. -/
theorem refusal_leaves_no_trace (s : Store) (r : Request) :
    (r.refused (s.answer r).1 = true →
      ∃ n, s.keyCounter ≤ n ∧ (s.answer r).2 = { s with keyCounter := n }) ∧
    (r.foundNothing (s.answer r).1 = true → (s.answer r).2 = s) ∧
    ∀ name documents, r = .insertMany name documents → ∀ i document, documents[i]? = some document →
      let before := (s.answer (.insertMany name (documents.take i))).2
      let after := (s.answer (.insertMany name (documents.take (i + 1)))).2
      ∃ answer, (s.answer (.insertMany name documents)).1[i]? = some answer ∧
        answer = (before.answer (.insert name document)).1 ∧
        after = (before.answer (.insert name document)).2 ∧
        (answer.isOk = false → ∃ n, before.keyCounter ≤ n ∧ after = { before with keyCounter := n }) := by
  refine ⟨(s.answer_behaved r).refused, answer_nothing, ?_⟩
  intro name documents _ i document listed before after
  obtain ⟨answered, state⟩ := s.insertMany_each name documents i listed
  refine ⟨_, answered, rfl, state, fun refused => ?_⟩
  have clean := (before.answer_behaved (.insert name document)).refused (by simpa [Request.refused] using refused)
  obtain ⟨n, later, left⟩ := clean
  exact ⟨n, later, state.trans left⟩

/-- Of three documents the second one clashes after it has been given a number; only the number is used up. -/
theorem clashing_document_leaves_number :
    let s := (empty 1).afterAll [.createCollection "c" {}, .ensureIndex "c" { fields := ["a"], unique := true }]
    let documents : List Document := [[("a", .ofNat 1)], [("a", .ofNat 1)], [("a", .ofNat 2)]]
    let r : Request := .insert "c" [("a", .ofNat 1)]
    let before := (s.answer (.insertMany "c" (documents.take 1))).2
    r.refused (before.answer r).1 = true ∧
      (∃ n, before.keyCounter ≤ n ∧ (before.answer r).2 = { before with keyCounter := n }) ∧
      (before.answer r).2.keyCounter = 2 := by
  intro s documents r before
  have refused : r.refused (before.answer r).1 = true := by decide +kernel
  exact ⟨refused, (refusal_leaves_no_trace before r).1 refused, by decide +kernel⟩

end Store
end RecordStore
