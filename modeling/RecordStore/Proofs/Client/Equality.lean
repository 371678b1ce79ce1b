import RecordStore.Proofs.Client.Protocol
import RecordStore.Proofs.Client.Streaming
import RecordStore.Proofs.Store.Uniqueness
import RecordStore.Sample.Raw

/-!
# Unique indexes and equality queries

A unique index tells values apart that are not the same, and a filter finds values that are equal in the order, which is
coarser. So of the documents that an equality query on an indexed path matches no two have the same value there
(`matches_differ`), but there can be several of them, unless the value that is asked for cannot be mistaken.
-/

namespace RecordStore

/-- An error that says that several records match is given by nobody but a search for one. -/
def ClientError.IsAmbiguous (e : ClientError) : Prop :=
  ∃ typeName, e = .multipleModelsFound typeName

def IsClear {α : Type} (result : Except ClientError α) : Prop :=
  ∀ e, result = .error e → ¬e.IsAmbiguous

theorem isClear_ok {α : Type} (a : α) : IsClear (.ok a) := nofun

theorem isClear_error {α : Type} {e : ClientError} (clear : ¬e.IsAmbiguous) :
    IsClear (.error e : Except ClientError α) := by
  rintro _ ⟨⟩
  exact clear

theorem IsClear.error {α β : Type} {e : ClientError} (clear : IsClear (.error e : Except ClientError α)) :
    IsClear (.error e : Except ClientError β) :=
  isClear_error (clear e rfl)

theorem StoreError.translate_clear (e : StoreError) (operation : Operation) (subject : String) :
    ¬(e.translate operation subject).IsAmbiguous := by
  rintro ⟨typeName, same⟩
  cases e with
  | transport message => cases same
  | server code message =>
    cases operation <;> simp only [translate] at same <;> repeat' split at same
    all_goals cases same

namespace RecordCursor

variable {ρ : Type}

theorem fetch_clear (c : RecordCursor ρ) : c.fetch.Yields fun outcome => IsClear outcome.1 := by
  unfold fetch
  split
  · exact .done (isClear_ok _)
  · refine .act fun answer => ?_
    cases answer with
    | ok batch => exact .done (isClear_ok _)
    | error e => exact .done (isClear_error (e.translate_clear _ _))

theorem close_clear (c : RecordCursor ρ) (ignoreMissing : Bool) :
    (c.close ignoreMissing).Yields fun outcome => IsClear outcome.1 := by
  unfold close
  split
  · exact .done (isClear_ok _)
  · rename_i id _
    refine .act fun answer => ?_
    cases answer with
    | ok => exact .done (isClear_ok _)
    | error e =>
      have clear := e.translate_clear .cursor id
      simp only [Program.done_bind]
      split
      · rename_i message same
        split
        · exact .done (isClear_ok _)
        · exact .done (isClear_error (same ▸ clear))
      · exact .done (isClear_error clear)

variable [Record ρ]

theorem readAll_clear (items : List Value) : IsClear (readAll items : Except ClientError (List ρ) × List Value).1 := by
  induction items with
  | nil => exact isClear_ok _
  | cons item rest ih =>
    unfold readAll
    split
    · rename_i e failed
      unfold Record.ofValue at failed
      split at failed
      · cases failed
      · cases failed
        exact isClear_error nofun
    · split
      · exact isClear_ok _
      · rename_i e others failed
        rw [failed] at ih
        exact ih

theorem collectWithin_clear (tries : Nat) (c : RecordCursor ρ) :
    (c.collectWithin tries).Yields fun outcome => IsClear outcome.1 := by
  induction tries generalizing c with
  | zero =>
    unfold collectWithin
    have read := readAll_clear (ρ := ρ) c.buffer
    split
    · rename_i e others failed
      rw [failed] at read
      exact .done read
    · dsimp only
      split
      · exact trivial
      · exact .done (isClear_ok _)
  | succ tries ih =>
    unfold collectWithin
    have read := readAll_clear (ρ := ρ) c.buffer
    split
    · rename_i e others failed
      rw [failed] at read
      exact .done read
    · dsimp only
      split
      · refine .bind (fetch_clear _) ?_
        rintro ⟨answer, d⟩ fetched
        cases answer with
        | error e => exact .done fetched.error
        | ok =>
          refine .bind (ih d) ?_
          rintro ⟨others, d⟩ collected
          cases others with
          | error e => exact .done collected
          | ok => exact .done (isClear_ok _)
      · exact .done (isClear_ok _)

theorem toList_clear (c : RecordCursor ρ) : c.toList.Yields fun outcome => IsClear outcome.1 := by
  have collects : c.collect.Yields fun outcome => IsClear outcome.1 := .act fun tries => collectWithin_clear tries c
  refine .bind collects ?_
  rintro ⟨answer, d⟩ collected
  cases answer with
  | error e => exact .done collected
  | ok records =>
    refine .bind (close_clear d true) ?_
    rintro ⟨answer, d⟩ closed
    cases answer with
    | error e => exact .done closed.error
    | ok => exact .done (isClear_ok _)

theorem toListAndDrop_run {c : RecordCursor ρ} {w w' : World} {answer : Except ClientError (List ρ)}
    (ran : c.toListAndDrop.run w = (some answer, w')) : ∃ d w₁, c.toList.run w = (some (answer, d), w₁) := by
  obtain ⟨⟨collected, d⟩, w₁, listed, rest⟩ := Program.run_bind_some ran
  obtain ⟨-, w₂, -, answered⟩ := Program.run_bind_some rest
  cases answered
  exact ⟨d, w₁, listed⟩

end RecordCursor

namespace RecordCollection

variable {ρ : Type} [Record ρ] {c : RecordCollection ρ} {w w' : World} {s : Store}

omit [Record ρ] in
theorem find_clear (c : RecordCollection ρ) (options : Find.Options) : (c.find options).Yields IsClear := by
  have noted : (Database.note (options.filters.asked c.db.directory)).Yields fun _ => True := by
    unfold Database.note
    split
    · exact .done trivial
    · exact .act fun _ => .done trivial
  refine .bind noted fun _ _ => ?_
  split
  · rename_i e refused
    refine .done (isClear_error ?_)
    rintro ⟨typeName, rfl⟩
    rcases Find.isRefusal_of_query refused with ⟨_, ⟨⟩⟩ | ⟨_, _, ⟨⟩⟩ | ⟨_, _, ⟨⟩⟩
  · refine .act fun answer => ?_
    cases answer with
    | error e => exact .done (isClear_error (e.translate_clear _ _))
    | ok => exact .done (isClear_ok _)

theorem length_of_collected {cursor : RecordCursor ρ} {rest : List Value} (streams : cursor.Streams w rest)
    {records : List ρ} (ran : cursor.toListAndDrop.run w = (some (.ok records), w')) :
    records.length = rest.length := by
  obtain ⟨answer, -, w₁, listed, read⟩ := (RecordCursor.toListAndDrop_ends streams).run (Turn.fits_alone _ _)
  rw [ran] at listed
  cases listed
  simpa using congrArg List.length (RecordCursor.readAll_eq_ok.mp read.symm)

/-- A search for one record that finds several has at least two results before it. -/
theorem findOne_ambiguous (plain : w.store = ⟨s, []⟩) {filters : Find.Filters} {sort : List Find.SortKey}
    {typeName : String}
    (ran : (c.findOne filters sort true).run w = (some (.error (.multipleModelsFound typeName)), w')) :
    ∃ q results, Find.query c.name { filters := filters, sort := sort, limit := some 2 } c.db.directory = .ok q ∧
      s.evaluate q = .ok results ∧ 2 ≤ results.items.length := by
  have ambiguous : (ClientError.multipleModelsFound typeName).IsAmbiguous := ⟨_, rfl⟩
  rw [findOne, if_pos rfl] at ran
  obtain ⟨found, w₁, searched, rest⟩ := Program.run_bind_some ran
  cases found with
  | error e =>
    cases rest
    exact absurd ambiguous ((find_clear c _).run searched _ rfl)
  | ok cursor =>
    obtain ⟨q, b, t, made, executed, rfl, left⟩ := find_run plain searched
    obtain ⟨results, evaluated, -, streams⟩ := streams_of_execute (ρ := ρ) left executed
    refine ⟨q, results, made, evaluated, ?_⟩
    obtain ⟨collected, w₂, listed, chosen⟩ := Program.run_bind_some rest
    cases collected with
    | error e =>
      cases chosen
      obtain ⟨d, w₃, first⟩ := RecordCursor.toListAndDrop_run listed
      exact absurd ambiguous ((RecordCursor.toList_clear _).run first _ rfl)
    | ok records =>
      have chosen : chooseOne true records = .error (.multipleModelsFound typeName) :=
        Option.some.inj (congrArg Prod.fst chosen)
      rw [← length_of_collected streams listed]
      cases records with
      | nil => cases chosen
      | cons r rest =>
        cases rest with
        | nil => cases chosen
        | cons => simp

/-- A search for one record ends with what the records that it finds mean, if all results are records. -/
theorem findOne_run (plain : w.store = ⟨s, []⟩) {filters : Find.Filters} {sort : List Find.SortKey}
    (raise : Bool) {q : BoundQuery} {results : Query.Evaluation} (records : List ρ)
    (made : Find.query c.name { filters := filters, sort := sort, limit := some (if raise then 2 else 1) }
      c.db.directory = .ok q) (evaluated : s.evaluate q = .ok results)
    (decoded : records.map .ok = results.items.map (Record.ofValue (ρ := ρ))) :
    ∃ w', (c.findOne filters sort raise).run w = (some (chooseOne raise records), w') := by
  obtain ⟨cursor, w₁, searched, streams⟩ := find_streams plain made evaluated
  obtain ⟨answer, -, w₂, listed, read⟩ := (RecordCursor.toListAndDrop_ends streams).run (Turn.fits_alone _ _)
  obtain rfl : answer = .ok records := read.trans (RecordCursor.readAll_eq_ok.mpr decoded)
  refine ⟨w₂, ?_⟩
  simp only [findOne, Program.andThen, Program.run_bind, searched, listed, Program.run_done]

/-! ### Matches under a unique index -/

theorem segments_eq_path {path : String} (whole : "" ∉ IndexSpec.path path) :
    Find.segments path = IndexSpec.path path := by
  unfold Find.segments IndexSpec.path at *
  refine congrArg (List.map String.ofList) (List.filter_eq_self.mpr fun piece listed => ?_)
  cases piece with
  | nil => exact absurd (List.mem_map_of_mem (f := String.ofList) listed) whole
  | cons => rfl

theorem segments_ne_nil {path : String} (whole : "" ∉ IndexSpec.path path) : Find.segments path ≠ [] := by
  rw [segments_eq_path whole, IndexSpec.path]
  exact mt List.map_eq_nil_iff.mp (Text.splitBy_ne_nil _ _)

theorem same_of_clash {i : IndexSpec} {path : String} (single : i.fields = [path]) (full : i.sparse = false)
    (a b : Document) :
    i.clash a b =
      ((Value.object a).lookup (IndexSpec.path path)).same ((Value.object b).lookup (IndexSpec.path path)) := by
  simp [IndexSpec.clash, IndexSpec.values?, single, full, Value.sameItems]

def equality (path : String) (v : Value) : Find.Filters :=
  ({} : Find.Filters).eq path (.value v)

theorem keeps_equality (path : String) (v : Value) (d : Directory) (document : Value) :
    (equality path v).keeps d document = ((document.lookup (Find.segments path)).compare v == .eq) := by
  have asked : (equality path v).keeps d document =
      (Query.Operator.read? Query.Operator.equal.symbol).any fun op =>
        op.holds (document.lookup (Find.segments path)) v := by
    simp [equality, Find.Filters.keeps, Find.Filters.eq, Find.put, Find.Condition.pairs, Find.Operand.resolve]
  rw [asked, Query.Operator.read?_symbol]
  rfl

theorem equality_compiles {path : String} (whole : "" ∉ IndexSpec.path path) (v : Value) (limit : Option Nat)
    (name : String) (d : Directory) :
    ∃ q, Find.query name { filters := equality path v, limit := limit } d = .ok q := by
  have nonempty : (Find.segments path).isEmpty = false := by
    simpa using segments_ne_nil whole
  have symbol := Find.ofSymbol?_symbol .equal
  have checked : Find.checkTerms 0 (equality path v).terms =
      [.ok ⟨0, Find.segments path, Query.Operator.equal, .value v⟩] := by
    simp [equality, Find.Filters.eq, Find.put, Find.checkTerms, Find.checkTerm, nonempty, Find.Condition.pairs,
      Find.checkPair, symbol]
  have filtered : (equality path v).clauses = .ok [⟨0, Find.segments path, Query.Operator.equal, .value v⟩] := by
    rw [Find.Filters.clauses, checked]
    rfl
  unfold Find.query
  dsimp only
  rw [filtered]
  cases limit <;> exact ⟨_, rfl⟩

theorem length_le_one {values : List Value} {path : List String} {v : Value} (clear : v.Unmistakable)
    (equal : ∀ item ∈ values, (item.lookup path).compare v = .eq)
    (differ : values.Pairwise fun a b => (a.lookup path).same (b.lookup path) = false) : values.length ≤ 1 := by
  cases values with
  | nil => exact Nat.zero_le 1
  | cons a rest =>
    cases rest with
    | nil => exact Nat.le_refl 1
    | cons b more =>
      have apart := (List.pairwise_cons.mp differ).1 b List.mem_cons_self
      have same := Value.same_of_compare_eq clear (equal a List.mem_cons_self)
        (equal b (List.mem_cons_of_mem a List.mem_cons_self))
      rw [same] at apart
      cases apart

/-- A search for one record by a filter that finds several has at least two documents that the filter keeps. -/
theorem findOne_kept {filters : Find.Filters} {calls : List Find.FilterCall}
    (built : filters = Find.Filters.ofCalls calls) (plain : w.store = ⟨s, []⟩) {l : Collection} (present : s.collections.get? c.name = some l)
    {sort : List Find.SortKey} {typeName : String}
    (ran : (c.findOne filters sort true).run w = (some (.error (.multipleModelsFound typeName)), w')) :
    2 ≤ ((l.contents.map .object).filter (filters.keeps c.db.directory)).length := by
  obtain ⟨q, results, compiled, evaluated, several⟩ := findOne_ambiguous plain ran
  have small : ∀ n ∈ some 2, n < UInt64.size := by simp [UInt64.size]
  rw [Find.evaluate_find _ built (by simp) small compiled present] at evaluated
  obtain rfl := Except.ok.inj evaluated
  refine Nat.le_trans several ?_
  simp only [Find.Options.evaluation, Find.Options.cut, Find.Options.kept, Query.Key.sort, Option.getD_none,
    List.drop_zero, List.length_take, List.length_mergeSort]
  exact Nat.min_le_right _ _

/-- Under a unique index on one path, the documents that are found equal to a value in it all have values there that are
not the same. So there is one at most if the value cannot be mistaken, and a search for one record finds several only
where the order finds equal what the index tells apart. -/
theorem matches_differ (ρ : Type) [Record ρ] {batchSize : Nat} {requests : List Request} {s : Store}
    (reached : (Store.empty batchSize).afterAll requests = s) {name : String} {l : Collection}
    (present : s.collections.get? name = some l) {i : IndexSpec} (listed : i ∈ l.indexes) (unique : i.unique = true)
    (full : i.sparse = false) {path : String} (single : i.fields = [path]) (whole : "" ∉ IndexSpec.path path)
    (above : i.StaysAbove) (v : Value) (db : Database) :
    ∃ q results, Find.query name { filters := equality path v } db.directory = .ok q ∧ s.evaluate q = .ok results ∧
      (∀ item, item ∈ results.items ↔
        item ∈ l.contents.map .object ∧ (item.lookup (Find.segments path)).compare v = .eq) ∧
      (results.items.Pairwise fun a b =>
        (a.lookup (Find.segments path)).same (b.lookup (Find.segments path)) = false) ∧
      (v.Unmistakable → results.items.length ≤ 1) ∧
      ∀ (sort : List Find.SortKey) (w w' : World) (typeName : String), w.store = ⟨s, []⟩ →
        ((⟨db, name⟩ : RecordCollection ρ).findOne (equality path v) sort true).run w =
          (some (.error (.multipleModelsFound typeName)), w') →
        2 ≤ results.items.length ∧ ¬v.Unmistakable := by
  have built : equality path v = Find.Filters.ofCalls [.eq path (.value v)] := rfl
  obtain ⟨q, compiled⟩ := equality_compiles whole v none name db.directory
  have evaluated := Find.evaluate_filters built compiled present
  have found : ∀ item, item ∈ (l.contents.map .object).filter ((equality path v).keeps db.directory) ↔
      item ∈ l.contents.map .object ∧ (item.lookup (Find.segments path)).compare v = .eq := by
    intro item
    rw [List.mem_filter, keeps_equality, beq_iff_eq]
  have differ : ((l.contents.map .object).filter ((equality path v).keeps db.directory)).Pairwise fun a b =>
      (a.lookup (Find.segments path)).same (b.lookup (Find.segments path)) = false := by
    have apart := Store.documents_apart batchSize requests (reached ▸ present) listed unique above
    refine List.Pairwise.filter _ ?_
    rw [Collection.contents, List.map_map, List.pairwise_map]
    refine apart.imp fun {a b} apart => ?_
    rwa [same_of_clash single full, ← segments_eq_path whole] at apart
  have one (clear : v.Unmistakable) := length_le_one clear (fun item here => ((found item).mp here).2) differ
  refine ⟨q, _, compiled, evaluated, found, differ, one, fun sort w w' typeName plain ran => ?_⟩
  have two := findOne_kept built plain present ran
  exact ⟨two, fun clear => absurd (one clear) (Nat.not_le.mpr two)⟩

/-- An integer, the float of the same value and a text, of which two are found equal to the integer. -/
theorem number_matches_differ :
    let index : IndexSpec := { fields := ["a.b"], unique := true }
    let document (v : Value) : Document := [("a", .object [("b", v)])]
    let run : List Request := [.createCollection "c" {}, .ensureIndex "c" index, .insertMany "c"
      [document (.ofNat 1), document (.number (.float (Binary64.ofInt 1))), document (.string "1")]]
    let s := (Store.empty 1).afterAll run
    ∃ q results, Find.query "c" { filters := equality "a.b" (.ofNat 1) } { names := {} } = .ok q ∧
      s.evaluate q = .ok results ∧ results.items.length = 2 ∧
      (results.items.Pairwise fun a b => (a.lookup ["a", "b"]).same (b.lookup ["a", "b"]) = false) := by
  intro index document run s
  have state : (s.collections.get? "c").any (fun l => decide (index ∈ l.indexes ∧
      ((l.contents.map .object).filter ((equality "a.b" (.ofNat 1)).keeps { names := {} })).length = 2)) = true := by
    decide +kernel
  obtain ⟨l, present, facts⟩ := (Option.any_eq_true _ _).mp state
  obtain ⟨listed, two⟩ := of_decide_eq_true facts
  have above : index.StaysAbove := by simp [IndexSpec.StaysAbove, index]
  obtain ⟨q, results, compiled, evaluated, -, differ, -⟩ := matches_differ Sample.Raw rfl present listed rfl rfl rfl
    (by decide +kernel : "" ∉ IndexSpec.path "a.b") above (.ofNat 1) {}
  have path : Find.segments "a.b" = ["a", "b"] := by decide +kernel
  have built : equality "a.b" (.ofNat 1) = Find.Filters.ofCalls [.eq "a.b" (.value (.ofNat 1))] := rfl
  obtain rfl := Except.ok.inj (evaluated.symm.trans (Find.evaluate_filters built compiled present))
  exact ⟨q, _, compiled, evaluated, two, path ▸ differ⟩

/-- Where several raw records have the value, a search for one of them says so. -/
theorem findOne_several {c : RecordCollection Sample.Raw} {index : IndexSpec} {path : String} {v : Value}
    (state : (s.collections.get? c.name).any (fun l => decide (index ∈ l.indexes ∧
      2 ≤ ((l.contents.map .object).filter ((equality path v).keeps c.db.directory)).length)) = true)
    (whole : "" ∉ IndexSpec.path path) :
    ∃ l q results w, s.collections.get? c.name = some l ∧ index ∈ l.indexes ∧ "" ∉ IndexSpec.path path ∧
      Find.query c.name { filters := equality path v } c.db.directory = .ok q ∧ s.evaluate q = .ok results ∧
      2 ≤ results.items.length ∧ (c.findOne (equality path v) [] true).run { store := ⟨s, []⟩ } =
        (some (.error (.multipleModelsFound "Raw")), w) := by
  obtain ⟨l, present, facts⟩ := (Option.any_eq_true _ _).mp state
  obtain ⟨listed, several⟩ := of_decide_eq_true facts
  have built : equality path v = Find.Filters.ofCalls [.eq path (.value v)] := rfl
  obtain ⟨q, compiled⟩ := equality_compiles whole v none c.name c.db.directory
  obtain ⟨q', limited⟩ := equality_compiles whole v (some 2) c.name c.db.directory
  have small : ∀ n ∈ some 2, n < UInt64.size := by simp [UInt64.size]
  have evaluated := Find.evaluate_find _ built (by simp) small limited present
  obtain ⟨a, others, kept⟩ := List.exists_cons_of_length_pos (Nat.zero_lt_of_lt several)
  obtain ⟨b, rest, rfl⟩ := List.exists_cons_of_length_pos (Nat.lt_of_succ_le (by simpa [kept] using several))
  have items : ({ filters := equality path v, limit := some 2 } : Find.Options).evaluation c.db.directory
      (l.contents.map .object) = ⟨[a, b], rest.length + 2⟩ := by
    simp [Find.Options.evaluation, Find.Options.kept, Find.Options.keys, Find.Options.cut, Query.Key.sort_nil, kept]
  rw [items] at evaluated
  obtain ⟨w, ran⟩ := findOne_run (c := c) (w := { store := ⟨s, []⟩ }) rfl true
    [Sample.Raw.ofValue a, Sample.Raw.ofValue b] limited evaluated rfl
  exact ⟨l, q, _, w, present, listed, whole, compiled, Find.evaluate_filters built compiled present, several, ran⟩

/-- A unique index takes an integer and the float of the same value, and a search for the one record with that value
finds both. -/
theorem integer_and_float_matched :
    let index : IndexSpec := { fields := ["data"], unique := true }
    let run : List Request := [.createCollection "c" {}, .ensureIndex "c" index, .insert "c" [("data", .ofNat 1)],
      .insert "c" [("data", .number (.float (Binary64.ofInt 1)))]]
    let s := (Store.empty 1).afterAll run
    let c : RecordCollection Sample.Raw := ⟨{}, "c"⟩
    ∃ l q results w, s.collections.get? "c" = some l ∧ index ∈ l.indexes ∧ "" ∉ IndexSpec.path "data" ∧
      Find.query "c" { filters := equality "data" (.ofNat 1) } c.db.directory = .ok q ∧ s.evaluate q = .ok results ∧
      2 ≤ results.items.length ∧ (c.findOne (equality "data" (.ofNat 1)) [] true).run { store := ⟨s, []⟩ } =
        (some (.error (.multipleModelsFound "Raw")), w) := by
  intro index run s c
  exact findOne_several (c := c) (by decide +kernel) (by decide +kernel)

/-- The values below the identifier are gone when documents are stored, so that an index that went on there tells
nothing apart. -/
theorem below_identifier_matched :
    let index : IndexSpec := { fields := ["_id.x"], unique := true }
    let document (n : Nat) : Document := [("_id", .object [("x", .ofNat n)])]
    let run : List Request := [.createCollection "c" {}, .ensureIndex "c" index, .insert "c" (document 1),
      .insert "c" (document 2)]
    let s := (Store.empty 1).afterAll run
    let c : RecordCollection Sample.Raw := ⟨{}, "c"⟩
    ∃ l q results w, s.collections.get? "c" = some l ∧ index ∈ l.indexes ∧ "" ∉ IndexSpec.path "_id.x" ∧
      Find.query "c" { filters := equality "_id.x" .null } c.db.directory = .ok q ∧ s.evaluate q = .ok results ∧
      2 ≤ results.items.length ∧ (c.findOne (equality "_id.x" .null) [] true).run { store := ⟨s, []⟩ } =
        (some (.error (.multipleModelsFound "Raw")), w) := by
  intro index document run s c
  exact findOne_several (c := c) (by decide +kernel) (by decide +kernel)

end RecordCollection
end RecordStore
