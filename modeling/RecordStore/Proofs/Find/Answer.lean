import RecordStore.Proofs.Find.Text
import RecordStore.Proofs.Query.Sorting
import RecordStore.Store.Cursors

/-!
# Find queries answer what was asked

All parameters of the statement of a find query are bound, so that it keeps, sorts and cuts out what the filters, sort
keys and limits say. `query_answers` is the main result: compiled, written out, read back and evaluated, a find query
gives the one answer that `Options.Answers` allows.
-/

namespace RecordStore
namespace Find

open Query (Evaluation Statement Term Test parameters mapM_eq_ok)

/-! ### What is asked -/

namespace Options

def kept (options : Options) (d : Directory) (documents : List Value) : List Value :=
  documents.filter (options.filters.keeps d)

def keys (options : Options) : List Query.Key :=
  options.sort.map SortKey.key

def cut (options : Options) (items : List Value) : List Value :=
  let rest := items.drop (options.offset.getD 0)
  match options.limit with
  | some limit => rest.take limit
  | none => rest

/-- The answer that is asked for: the documents that the filters keep, sorted stably, and the part of them between the
offset and the limit. -/
structure Answers (options : Options) (d : Directory) (documents : List Value) (e : Evaluation) : Prop where
  items : ∃ sorted, StablySorted (Query.Key.compareAll options.keys) (options.kept d documents) sorted ∧
    e.items = options.cut sorted
  fullCount : e.fullCount = (options.kept d documents).length

end Options

/-! ### Resolving -/

theorem resolveName_parameter {name text : String} {bindings : Bindings}
    (bound : bindings.get? name = some (.string text)) : (Term.parameter name).resolveName bindings = .ok text := by
  simp only [Term.resolveName, Term.resolve, bound]
  rfl

theorem resolvePath_pathNames {stem : String} {segments : List String} {bindings : Bindings}
    (bound : ∀ position segment, segments[position]? = some segment →
      bindings.get? (segmentName stem position) = some (.string segment)) :
    Term.resolvePath (parameters (pathNames stem segments.length)) bindings = .ok segments := by
  have paths : parameters (pathNames stem segments.length) =
      segments.zipIdx.map fun entry => .parameter (segmentName stem entry.2) := by
    refine List.ext_getElem (by simp [parameters, pathNames]) fun position _ _ => ?_
    simp [parameters, pathNames]
  have each : ∀ entry ∈ segments.zipIdx,
      (Term.parameter (segmentName stem entry.2)).resolveName bindings = .ok entry.1 := fun entry listed =>
    resolveName_parameter (bound entry.2 entry.1 (List.mem_zipIdx_iff_getElem?.mp listed))
  rw [Term.resolvePath, paths, List.mapM_map, Function.comp_def, mapM_eq_ok each, List.zipIdx_map_fst]

section Bound

variable {clauses : List Clause} {keys : List Placed} {collection : String} {d : Directory}

theorem resolve_condition (consistent : Consistent clauses keys) {c : Clause} (listed : c ∈ clauses) :
    c.condition.resolve (Table.ofList (entries clauses keys collection d)) =
      .ok ⟨c.segments, c.operator, c.operand.resolve d⟩ := by
  have path : Term.resolvePath c.condition.path (Table.ofList (entries clauses keys collection d)) = .ok c.segments :=
    resolvePath_pathNames fun position segment found =>
      get?_entries (p := .field c.term position) consistent ⟨c, listed, rfl, segment, found, rfl⟩
  have operand : (Table.ofList (entries clauses keys collection d)).get? c.operandName = some (c.operand.resolve d) :=
    get?_entries (p := .operand c.term c.operator) consistent ⟨c, listed, rfl, rfl, rfl⟩
  rw [Query.Condition.resolve, path]
  simp only [Clause.condition, Term.resolve, operand]
  rfl

theorem resolve_sortKey (consistent : Consistent clauses keys) {k : Placed} (listed : k ∈ keys) :
    k.sortKey.resolve (Table.ofList (entries clauses keys collection d)) = .ok ⟨k.segments, k.descending⟩ := by
  have path : Term.resolvePath k.sortKey.path (Table.ofList (entries clauses keys collection d)) = .ok k.segments :=
    resolvePath_pathNames fun position segment found =>
      get?_entries (p := .sort k.number position) consistent ⟨k, listed, rfl, segment, found, rfl⟩
  rw [Query.SortKey.resolve, path]
  rfl

theorem collection_statement (consistent : Consistent clauses keys) (offset : Nat) (limit : Option Nat) :
    (statement clauses keys offset limit).collection (Table.ofList (entries clauses keys collection d)) =
      .ok collection :=
  resolveName_parameter (get?_entries (p := .collection) consistent rfl)

/-- The documents that pass all clauses are sorted and cut. -/
theorem evaluate_statement (consistent : Consistent clauses keys) (offset : Nat) (limit : Option Nat)
    (documents : List Value) :
    (statement clauses keys offset limit).evaluate documents (Table.ofList (entries clauses keys collection d)) =
      let kept := documents.filter fun document => clauses.all (·.holds d document)
      .ok ⟨Statement.slice (limit.map (offset, ·)) (Query.Key.sort (keys.map fun k => ⟨k.segments, k.descending⟩) kept),
        kept.length⟩ := by
  generalize bound : Table.ofList (entries clauses keys collection d) = bindings
  have tests : clauses.mapM (·.condition.resolve bindings) =
      .ok (clauses.map fun c => ⟨c.segments, c.operator, c.operand.resolve d⟩) :=
    mapM_eq_ok fun c listed => bound ▸ resolve_condition consistent listed
  have sortKeys : keys.mapM (·.sortKey.resolve bindings) = .ok (keys.map fun k => ⟨k.segments, k.descending⟩) :=
    mapM_eq_ok fun k listed => bound ▸ resolve_sortKey consistent listed
  simp only [Statement.evaluate, statement, List.mapM_map, Function.comp_def, tests, sortKeys, bind, Except.bind, pure,
    Except.pure, List.all_map]
  rfl

end Bound

/-! ### Answers -/

theorem query_ok {collection : String} {options : Options} {d : Directory} {q : BoundQuery}
    (compiled : query collection options d = .ok q) :
    ∃ clauses keys, options.filters.clauses = .ok clauses ∧ SortKey.placeAll 0 options.sort = .ok keys ∧
      (options.limit = none → options.offset.getD 0 = 0) ∧
      q.text = statementText clauses keys (options.offset.getD 0) options.limit ∧
      q.bindings = Table.ofList (entries clauses keys collection d) := by
  unfold query at compiled
  split at compiled
  · cases compiled
  · rename_i clauses filtered
    split at compiled
    · cases compiled
    · rename_i limited
      split at compiled
      · cases compiled
      · rename_i keys placed
        obtain rfl := Except.ok.inj compiled
        refine ⟨clauses, keys, filtered, placed, fun unlimited => ?_, rfl, rfl⟩
        simpa [unlimited] using limited

theorem isRefusal_of_query {collection : String} {options : Options} {d : Directory} {e : ClientError}
    (refused : query collection options d = .error e) : IsRefusal e := by
  unfold query at refused
  split at refused
  · rename_i filtered
    cases refused
    exact isRefusal_of_clauses filtered
  · split at refused
    · cases refused
      exact .inl ⟨_, rfl⟩
    · split at refused
      · rename_i placed
        cases refused
        exact isRefusal_of_placeAll placed
      · cases refused

theorem slice_eq_cut {options : Options} (limited : options.limit = none → options.offset.getD 0 = 0)
    (items : List Value) :
    Statement.slice (options.limit.map (options.offset.getD 0, ·)) items = options.cut items := by
  cases limit : options.limit with
  | none => simp [Statement.slice, Options.cut, limit, limited limit]
  | some n => simp [Statement.slice, Options.cut, limit]

def Options.evaluation (options : Options) (d : Directory) (documents : List Value) : Evaluation :=
  ⟨options.cut (Query.Key.sort options.keys (options.kept d documents)), (options.kept d documents).length⟩

section Compiled

variable {calls : List FilterCall} {options : Options} {collection : String} {d : Directory} {q : BoundQuery}

/-- A find query that compiles is read back, and evaluated as what was asked. -/
theorem evaluate_compiled (built : options.filters = Filters.ofCalls calls)
    (smallOffset : ∀ n ∈ options.offset, n < UInt64.size) (smallLimit : ∀ n ∈ options.limit, n < UInt64.size)
    (compiled : query collection options d = .ok q) :
    ∃ s, Statement.ofText q.text = .ok s ∧ s.collection q.bindings = .ok collection ∧
      ∀ documents, s.evaluate documents q.bindings = .ok (options.evaluation d documents) := by
  obtain ⟨clauses, keys, filtered, placed, limited, text, bindings⟩ := query_ok compiled
  -- filters that calls built ask for each operator of a path once, so that no parameter is bound twice
  have distinct : options.filters.Distinct := built ▸ distinct_ofCalls calls
  have consistent := consistent_of_compiled distinct filtered placed
  have paths : ∀ c ∈ clauses, c.segments ≠ [] := by
    intro c listed
    obtain ⟨path, condition, -, -, nonempty, -⟩ := term_of_clause filtered listed
    exact nonempty
  obtain ⟨numbered, -, orders⟩ := SortKey.placeAll_ok placed
  have small : options.offset.getD 0 < UInt64.size := by
    cases given : options.offset with
    | none => decide
    | some n => exact smallOffset n given
  rw [text, bindings]
  refine ⟨_, ofText_statementText paths (fun k listed => (numbered k listed).2) small smallLimit,
    collection_statement consistent _ _, fun documents => ?_⟩
  have filters : (documents.filter fun document => clauses.all (·.holds d document)) = options.kept d documents :=
    List.filter_congr fun document _ => clauses_hold filtered d document
  rw [evaluate_statement consistent, filters]
  dsimp only
  rw [slice_eq_cut limited, ← orders]
  rfl

variable (options) in
/-- A store evaluates a find query over the documents of its collection. -/
theorem evaluate_find (built : options.filters = Filters.ofCalls calls)
    (smallOffset : ∀ n ∈ options.offset, n < UInt64.size) (smallLimit : ∀ n ∈ options.limit, n < UInt64.size)
    (compiled : query collection options d = .ok q) {s : Store} {c : Collection}
    (present : s.collections.get? collection = some c) :
    s.evaluate q = .ok (options.evaluation d (c.contents.map .object)) := by
  obtain ⟨statement, read, source, evaluated⟩ := evaluate_compiled built smallOffset smallLimit compiled
  simp only [Store.evaluate, read, source, present, evaluated, Except.mapError, bind, Except.bind]

/-- Filters alone keep documents as they are stored. -/
theorem evaluate_filters {filters : Filters} {count fullCount : Bool} {batchSize : Option Nat}
    (built : filters = Filters.ofCalls calls) (compiled : query collection
      { filters := filters, count := count, fullCount := fullCount, batchSize := batchSize } d = .ok q)
    {s : Store} {c : Collection} (present : s.collections.get? collection = some c) :
    let kept := (c.contents.map .object).filter (filters.keeps d)
    s.evaluate q = .ok ⟨kept, kept.length⟩ := by
  rw [evaluate_find _ built (by simp) (by simp) compiled present]
  simp [Options.evaluation, Options.kept, Options.keys, Options.cut, Query.Key.sort_nil]

end Compiled

/-- A find query that compiles is read back by the store, runs over its collection, and is answered as asked, whatever
documents are stored there. Limits are numbers of 64 bits, and stored objects keep their attributes in order. -/
theorem query_answers {calls : List FilterCall} {options : Options} (built : options.filters = Filters.ofCalls calls)
    (smallOffset : ∀ n ∈ options.offset, n < UInt64.size) (smallLimit : ∀ n ∈ options.limit, n < UInt64.size)
    {collection : String} {d : Directory} {q : BoundQuery} (compiled : query collection options d = .ok q) :
    ∃ s, Statement.ofText q.text = .ok s ∧ s.collection q.bindings = .ok collection ∧
      ∀ documents : List Value, (∀ document ∈ documents, document.Ordered) →
        ∃ e, s.evaluate documents q.bindings = .ok e ∧ ∀ other, options.Answers d documents other ↔ other = e := by
  obtain ⟨s, read, source, evaluated⟩ := evaluate_compiled built smallOffset smallLimit compiled
  refine ⟨s, read, source, fun documents ordered => ⟨_, evaluated documents, fun other => ?_⟩⟩
  have stored : ∀ document ∈ options.kept d documents, document.Ordered := fun document listed =>
    ordered document (List.mem_filter.mp listed).1
  constructor
  · rintro ⟨⟨sorted, stably, items⟩, count⟩
    rw [(Query.Key.stablySorted_iff stored).mp stably] at items
    cases other
    obtain rfl := items
    obtain rfl := count
    rfl
  · rintro rfl
    exact ⟨⟨_, (Query.Key.stablySorted_iff stored).mpr rfl, rfl⟩, rfl⟩

/-- The second largest of three letters to a person, ties by the town that they were sent from. -/
theorem letters_answered :
    let person : Operand :=
      .record (.record { type := { name := "Person", collection := some "people" }, key := some "7" })
    let letter (receiver town : String) (size : Nat) : Value :=
      .object [("_to", .string receiver), ("from", .object [("town", .string town)]),
        ("pages", .array [.ofNat 1, .ofNat size])]
    let options : Options := {
      filters := Filters.ofCalls [.eq "_to" person, .op "pages" "ANY >=" (.value (.ofNat 2)),
        .op "from..town" "!=" (.value (.string "Oslo")), .op "pages" "NONE IN" (.value (.array [.ofNat 5]))]
      sort := [⟨"pages", "desc"⟩, ⟨"from.town", "ASC"⟩]
      limit := some 1
      offset := some 1 }
    let documents := [letter "people/7" "Rome" 3, letter "people/8" "Rome" 4, letter "people/7" "Bern" 3,
      letter "people/7" "Oslo" 3, letter "people/7" "Rome" 2, letter "people/7" "Rome" 5]
    ∃ q s e, query "letters" options { names := {} } = .ok q ∧ Statement.ofText q.text = .ok s ∧
      s.collection q.bindings = .ok "letters" ∧ s.evaluate documents q.bindings = .ok e ∧
      e.items = [letter "people/7" "Rome" 3] ∧ e.fullCount = 3 := by
  intro person letter options documents
  have stored (receiver town : String) (size : Nat) : (letter receiver town size).Ordered := by
    have names : ["_to", "from", "pages"].Pairwise (· < ·) := by decide
    refine Value.ordered_object.mpr ⟨(List.pairwise_map (f := Prod.fst)).mp names, ?_⟩
    simp [Value.ofNat, Value.Ordered, Value.OrderedFields, Value.OrderedItems]
  have ordered : ∀ document ∈ documents, document.Ordered := by simp [documents, stored]
  have kept : options.kept { names := {} } documents =
      [letter "people/7" "Rome" 3, letter "people/7" "Bern" 3, letter "people/7" "Rome" 2] := by rfl
  have stably : StablySorted (Query.Key.compareAll options.keys) (options.kept { names := {} } documents)
      [letter "people/7" "Bern" 3, letter "people/7" "Rome" 3, letter "people/7" "Rome" 2] := by
    rw [kept]
    refine ⟨.swap _ _ _, by decide +kernel, fun v listed => ?_⟩
    simp only [List.mem_cons, List.not_mem_nil, or_false] at listed
    rcases listed with rfl | rfl | rfl <;> rfl
  obtain ⟨q, compiled⟩ : ∃ q, query "letters" options { names := {} } = .ok q := ⟨_, rfl⟩
  have built : options.filters = Filters.ofCalls _ := rfl
  have small : ∀ n ∈ some 1, n < UInt64.size := by simp [UInt64.size]
  obtain ⟨s, read, collection, answered⟩ := query_answers built small small compiled
  obtain ⟨e, evaluated, unique⟩ := answered documents ordered
  obtain rfl := (unique ⟨[letter "people/7" "Rome" 3], 3⟩).mp ⟨⟨_, stably, rfl⟩, by rw [kept]; rfl⟩
  exact ⟨q, s, _, compiled, read, collection, evaluated, rfl, rfl⟩

end Find
end RecordStore
