import RecordStore.Proofs.Client.Equality
import RecordStore.Proofs.Client.Tidy
import RecordStore.Proofs.Find.Validity
import RecordStore.Proofs.Store.Origins

/-!
# Searching for one record

A search for one record asks for one result, or for two where more than one is an error. That is enough to tell what all
documents that match would tell: which comes first in the order that is asked for, and whether there is another one
(`findOne_decides`). The limit is applied to what is sorted, and no batch is too small for the second result to come.
Besides, the search leaves the store as it has found it. It only asks for cursors (`RecordCursor.run_onlyCursors`) and
leaves none behind (`findOne_tidy`).
-/

namespace RecordStore

/-! ### What a search leaves alone -/

namespace RecordCursor

variable {x : CursorPhase} {w : World} {s t : Store} {spared : String → Bool}

theorem usesCursors_of_allowed {r : Request} (allowed : protocol.allows x (.store r)) : r.usesCursors = true := by
  rcases allows_cases allowed with waiting | ⟨-, ⟨_, noting⟩ | ⟨q, same⟩⟩ | ⟨name, -, same | same⟩
  · cases waiting
  · cases noting
  all_goals
    cases same
    rfl

theorem onlyCursors_of_allowed (plain : w.store = ⟨s, []⟩) {action : Action} (allowed : protocol.allows x action)
    (left : (w.answer action).2.store = ⟨t, []⟩) : s.OnlyCursors t := by
  cases action with
  | store r =>
    rw [World.answer_plain plain] at left
    cases left
    exact s.onlyCursors_answer (usesCursors_of_allowed allowed)
  | note | patience =>
    cases plain.symm.trans left
    exact .refl s
  | _ => cases x <;> exact allowed.elim

theorem run_onlyCursors {α : Type} {p : Program α} {rests : CursorPhase → α → Prop}
    (follows : p.Follows protocol rests x) (plain : w.store = ⟨s, []⟩) (holds : x.Holds spared s) :
    ∃ t, (p.run w).2.store = ⟨t, []⟩ ∧ s.OnlyCursors t := by
  induction p generalizing w s x with
  | done | stalled => exact ⟨s, plain, .refl s⟩
  | act action next ih =>
    obtain ⟨allowed, goesOn⟩ := follows
    obtain ⟨t, left, step, -⟩ := own_step plain holds allowed
    obtain ⟨u, final, later⟩ := ih _ (goesOn _ step.expected) left step.holds
    exact ⟨u, final, (onlyCursors_of_allowed plain allowed left).trans later⟩

end RecordCursor

namespace Store

theorem CursorsNamed.afterAll {s : Store} (named : s.CursorsNamed) (requests : List Request) :
    (s.afterAll requests).CursorsNamed := by
  induction requests generalizing s with
  | nil => exact named
  | cons r rest ih => exact ih (named.answer r)

theorem cursorsNamed_afterAll (batchSize : Nat) (requests : List Request) :
    ((empty batchSize).afterAll requests).CursorsNamed := by
  have none : (empty batchSize).CursorsNamed := fun name held => by cases held
  exact none.afterAll requests

end Store

namespace RecordCollection

variable {ρ : Type} [Record ρ] {c : RecordCollection ρ} {w : World} {s : Store} {filters : Find.Filters}
  {sort : List Find.SortKey} {raise : Bool}

theorem findOne_follows (c : RecordCollection ρ) (filters : Find.Filters) (sort : List Find.SortKey) (raise : Bool) :
    (c.findOne filters sort raise).Follows RecordCursor.protocol (fun y _ => y.isOpened = false) .finding := by
  refine .bind (c.find_follows _) ?_
  rintro y (e | cursor) here
  · obtain rfl : y = .finding := here
    rfl
  · refine .bind (RecordCursor.toListAndDrop_follows here) ?_
    rintro z (e | records) unopened <;> exact unopened

/-- However a search for one record ends, it leaves the store as it was but for counters of cursors. -/
theorem findOne_leaves (c : RecordCollection ρ) (filters : Find.Filters) (sort : List Find.SortKey) (raise : Bool)
    (plain : w.store = ⟨s, []⟩) (named : s.CursorsNamed) :
    ∃ t, ((c.findOne filters sort raise).run w).2.store = ⟨t, []⟩ ∧ s.OnlyCursors t ∧ t.cursors = s.cursors := by
  have holds : CursorPhase.finding.Holds (fun _ => true) s := trivial
  obtain ⟨t, left, only⟩ := RecordCursor.run_onlyCursors (c.findOne_follows filters sort raise) plain holds
  obtain ⟨u, tidied, -, cursors⟩ := c.findOne_tidy filters sort raise w s plain named
  cases left.symm.trans tidied
  exact ⟨t, left, only, cursors⟩

/-! ### What a search finds -/

def enough (raise : Bool) : Nat :=
  if raise then 2 else 1

/-- The first results tell what all of them would tell. -/
theorem chooseOne_take (raise : Bool) (records : List ρ) :
    chooseOne raise (records.take (enough raise)) = chooseOne raise records := by
  rcases records with _ | ⟨r, _ | ⟨second, rest⟩⟩ <;> cases raise <;> rfl

/-- What a search for one record tells of the documents that match, in the order that is asked for. -/
structure DecidesOne (raise : Bool) (documents : List Value) (result : Except ClientError ρ) : Prop where
  absent : result = .error (.modelNotFound (.noMatch (Record.typeName ρ))) ↔ documents = []
  several : result = .error (.multipleModelsFound (Record.typeName ρ)) ↔ raise = true ∧ 2 ≤ documents.length
  found : ∀ r, result = .ok r ↔
    (raise = true → documents.length = 1) ∧ documents.head?.map Record.ofValue = some (.ok r)

theorem decidesOne_chooseOne {documents : List Value} {records : List ρ}
    (decoded : records.map .ok = documents.map (Record.ofValue (ρ := ρ))) :
    DecidesOne raise documents (chooseOne raise records) := by
  have length : documents.length = records.length := by simpa using (congrArg List.length decoded).symm
  have head : documents.head?.map (Record.ofValue (ρ := ρ)) = records.head?.map .ok := by
    simpa using (congrArg List.head? decoded).symm
  have empty : documents = [] ↔ records.length = 0 := by rw [← length, List.length_eq_zero_iff]
  constructor
  · rw [empty]
    rcases records with _ | ⟨first, _ | ⟨second, rest⟩⟩ <;> cases raise <;> simp [chooseOne]
  · rw [length]
    rcases records with _ | ⟨first, _ | ⟨second, rest⟩⟩ <;> cases raise <;> simp [chooseOne]
  · rw [length, head]
    rcases records with _ | ⟨first, _ | ⟨second, rest⟩⟩ <;> cases raise <;> simp [chooseOne]

theorem valid_limit (valid : Find.Options.Valid { filters := filters, sort := sort }) (n : Nat) :
    Find.Options.Valid { filters := filters, sort := sort, limit := some n } where
  filterPaths := valid.filterPaths
  symbols := valid.symbols
  slice _ _ _ := Option.some_ne_none n
  directions := valid.directions
  sortPaths := valid.sortPaths

theorem exists_records {documents : List Value} (decodable : ∀ v ∈ documents, ∃ r : ρ, Record.ofValue v = .ok r) :
    ∃ records : List ρ, records.map .ok = documents.map (Record.ofValue (ρ := ρ)) := by
  induction documents with
  | nil => exact ⟨[], rfl⟩
  | cons v rest ih =>
    obtain ⟨r, decoded⟩ := decodable v List.mem_cons_self
    obtain ⟨records, later⟩ := ih fun v listed => decodable v (List.mem_cons_of_mem _ listed)
    exact ⟨r :: records, by rw [List.map_cons, List.map_cons, decoded, later]⟩

/-- A search for one record is decided by the documents that match, in the order that is asked for and ties as they are
stored, if they are records; and it leaves collections, graphs and open cursors as they were. Documents are maps when a
request brings them, whose attributes stand in order. -/
theorem findOne_decides {batchSize : Nat} {requests : List Request}
    (reached : (Store.empty batchSize).afterAll requests = s)
    (maps : ∀ r ∈ requests, ∀ document ∈ r.documents, (Value.object document).Ordered) (plain : w.store = ⟨s, []⟩)
    {l : Collection} (present : s.collections.get? c.name = some l) {calls : List Find.FilterCall}
    (built : filters = Find.Filters.ofCalls calls) (valid : Find.Options.Valid { filters := filters, sort := sort })
    {documents : List Value}
    (sorted : StablySorted (Query.Key.compareAll (sort.map Find.SortKey.key))
      ((l.contents.map .object).filter (filters.keeps c.db.directory)) documents)
    (decodable : ∀ v ∈ documents, ∃ r : ρ, Record.ofValue v = .ok r) (raise : Bool) :
    ∃ result w' t, (c.findOne filters sort raise).run w = (some result, w') ∧ DecidesOne raise documents result ∧
      w'.store = ⟨t, []⟩ ∧ t.collections = s.collections ∧ t.graphs = s.graphs ∧ t.cursors = s.cursors := by
  have ordered : ∀ v ∈ (l.contents.map .object).filter (filters.keeps c.db.directory), v.Ordered := by
    intro v listed
    obtain ⟨document, here, rfl⟩ := List.mem_map.mp (List.mem_filter.mp listed).1
    exact Store.stored_ordered reached maps present document here
  obtain rfl := (Query.Key.stablySorted_iff ordered).mp sorted
  obtain ⟨records, decoded⟩ := exists_records decodable
  obtain ⟨q, made⟩ := Find.query_ok_iff.mpr (valid_limit valid (enough raise))
  have small : ∀ n ∈ some (enough raise), n < UInt64.size := by
    rintro _ ⟨⟩
    cases raise <;> decide
  have evaluated := Find.evaluate_find _ built (by simp) small made present
  have few : (records.take (enough raise)).map .ok = (Find.Options.evaluation
      { filters := filters, sort := sort, limit := some (enough raise) } c.db.directory
        (l.contents.map .object)).items.map (Record.ofValue (ρ := ρ)) := by
    rw [List.map_take, decoded, ← List.map_take]
    rfl
  obtain ⟨w', ran⟩ := findOne_run plain raise _ made evaluated few
  rw [chooseOne_take] at ran
  have named : s.CursorsNamed := reached ▸ Store.cursorsNamed_afterAll batchSize requests
  obtain ⟨t, left, only, cursors⟩ := c.findOne_leaves filters sort raise plain named
  rw [ran] at left
  exact ⟨_, w', t, ran, decidesOne_chooseOne decoded, left, only.collections, only.graphs, cursors⟩

/-- Two locks expire at the same time, before a third one: the one of them that was stored first is found, and it is not
the only one that matches. -/
theorem earliest_lock_found :
    let held (key : String) (expiry : Nat) : Document :=
      [("_key", .string key), ("_rev", .string ""), ("expiresAt", .ofNat expiry), ("name", .string "n")]
    let s := (Store.empty 1).afterAll
      [.createCollection "c" {},
        .insertMany "c" [held "k" 2, held "l" 1, [("_key", .string "o"), ("name", .string "o")], held "m" 1]]
    let c : RecordCollection LockDocument := ⟨{}, "c"⟩
    let filters := Find.Filters.ofCalls [.eq "name" (.value (.string "n"))]
    let sort : List Find.SortKey := [⟨"expiresAt", "ASC"⟩]
    ∃ w₁ w₂, (c.findOne filters sort false).run { store := ⟨s, []⟩ } =
        (some (.ok ⟨⟨some "l", "_r00000002"⟩, "n", 1⟩), w₁) ∧
      (c.findOne filters sort true).run { store := ⟨s, []⟩ } =
        (some (.error (.multipleModelsFound "LockDocument")), w₂) := by
  intro held s c filters sort
  have contents : (s.collections.get? "c").map (·.contents) =
      some [Store.stamp "c" "k" 1 (held "k" 2), Store.stamp "c" "l" 2 (held "l" 1),
        Store.stamp "c" "o" 3 [("_key", .string "o"), ("name", .string "o")], Store.stamp "c" "m" 4 (held "m" 1)] := by
    rfl
  obtain ⟨here, present, contents⟩ := Option.map_eq_some_iff.mp contents
  let k := Store.stamp "c" "k" 1 (held "k" 2)
  let l := Store.stamp "c" "l" 2 (held "l" 1)
  let m := Store.stamp "c" "m" 4 (held "m" 1)
  have sorted : StablySorted (Query.Key.compareAll (sort.map Find.SortKey.key))
      ((here.contents.map .object).filter (filters.keeps c.db.directory)) [.object l, .object m, .object k] := by
    have kept : (here.contents.map .object).filter (filters.keeps c.db.directory) =
        [.object k, .object l, .object m] := by
      rw [contents]
      rfl
    rw [kept]
    refine ⟨(List.perm_append_comm : ([_, _] ++ [_]).Perm _), by decide +kernel, fun v listed => ?_⟩
    simp only [List.mem_cons, List.not_mem_nil, or_false] at listed
    rcases listed with rfl | rfl | rfl <;> rfl
  have brought (key : String) (expiry : Nat) : (Value.object (held key expiry)).Ordered := by
    have names : ["_key", "_rev", "expiresAt", "name"].Pairwise (· < ·) := by decide
    refine Value.ordered_object.mpr ⟨(List.pairwise_map (f := Prod.fst)).mp names, ?_⟩
    simp [Value.ofNat, Value.Ordered, held]
  have plainer : (Value.object [("_key", .string "o"), ("name", .string "o")]).Ordered := by
    have names : ["_key", "name"].Pairwise (· < ·) := by decide
    refine Value.ordered_object.mpr ⟨(List.pairwise_map (f := Prod.fst)).mp names, ?_⟩
    simp [Value.Ordered]
  have maps : ∀ document ∈ [held "k" 2, held "l" 1, [("_key", .string "o"), ("name", .string "o")], held "m" 1],
      (Value.object document).Ordered := by
    simp only [List.forall_mem_cons, brought, plainer, true_and]
    exact fun _ none => absurd none List.not_mem_nil
  have decodable : ∀ v ∈ [Value.object l, .object m, .object k], ∃ r : LockDocument, Record.ofValue v = .ok r := by
    simp only [List.forall_mem_cons]
    exact ⟨⟨_, rfl⟩, ⟨_, rfl⟩, ⟨_, rfl⟩, fun _ none => absurd none List.not_mem_nil⟩
  have made : ∃ q, Find.query "c" { filters := filters, sort := sort } c.db.directory = .ok q := ⟨_, rfl⟩
  have valid := Find.query_ok_iff.mp made
  have plain : ({ store := ⟨s, []⟩ } : World).store = ⟨s, []⟩ := rfl
  have decides := findOne_decides (c := c) rfl (by simpa [Request.documents] using maps) plain present rfl valid sorted
    decodable
  obtain ⟨result, w₁, -, first, decided, -⟩ := decides false
  obtain ⟨_, w₂, -, only, refused, -⟩ := decides true
  obtain rfl := (decided.found _).mpr ⟨by simp, rfl⟩
  obtain rfl := refused.several.mpr ⟨rfl, by simp⟩
  exact ⟨w₁, w₂, first, only⟩

end RecordCollection
end RecordStore
