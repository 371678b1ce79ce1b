import RecordStore.Proofs.Store.Atomicity
import RecordStore.Proofs.Store.History

/-!
# Keys that the store assigns

The store looks for a key by trying one number after another (`KeySearch`). Every number that it finds in use is the
text of a stored key, and each stored key rules out one number only, so the search ends (`nextKey_search`). The
counter stays at the number where it ended, whatever becomes of the document, so the numbers of a run ascend
(`Counts`), and no key is given twice.
-/

namespace RecordStore

/-- Whether a request brings new documents. -/
def Request.inserts : Request → Bool
  | insert _ _ | insertMany _ _ | insertVertex _ _ _ | insertEdge _ _ _ => true
  | _ => false

/-- The single insert of a document that a request comes to, with the state that it finds. -/
structure Insertion where
  before : Store
  collection : String
  document : Document

namespace Insertion

def outcome (i : Insertion) : Store.Outcome Header :=
  i.before.insert i.collection i.document

def header? (i : Insertion) : Option Header :=
  i.outcome.1.toOption

def Unkeyed (i : Insertion) : Prop :=
  i.document.get? Attribute.key = none ∨ i.document.get? Attribute.key = some .null

/-- The number that the store searches for a document that has come so far. It is used up even if the document is
refused afterwards. -/
def number? (i : Insertion) : Option Nat :=
  (i.before.collections.get? i.collection).bind fun c =>
    match Store.missingEndpoint? c i.document, Store.keyChoice i.collection c i.document with
    | none, .assigned => some (i.before.nextKey c)
    | _, _ => none

end Insertion

namespace Store

/-! ### The search -/

/-- A search for a key that starts after a number, and where it ends. Nothing but the keys in use bounds it. -/
inductive KeySearch (taken : List String) : Nat → Nat → Prop where
  | found {n : Nat} (free : toString (n + 1) ∉ taken) : KeySearch taken n (n + 1)
  | next {n m : Nat} (used : toString (n + 1) ∈ taken) (rest : KeySearch taken (n + 1) m) : KeySearch taken n m

theorem KeySearch.free {taken : List String} {n m : Nat} (search : KeySearch taken n m) : toString m ∉ taken := by
  induction search with
  | found free => exact free
  | next _ _ ih => exact ih

/-- The keys that a search can still come upon: all but the texts of the numbers that it has passed. -/
def ahead (taken : List String) (n : Nat) : List String :=
  taken.filter fun key => key ∉ (List.range (n + 1)).map toString

theorem ahead_succ (taken : List String) (n : Nat) :
    ahead taken (n + 1) = (ahead taken n).filter fun key => key ≠ toString (n + 1) := by
  unfold ahead
  rw [List.filter_filter, List.range_succ, List.map_append]
  refine List.filter_congr fun key _ => ?_
  simp [or_comm]

theorem mem_ahead {taken : List String} {n : Nat} (used : toString (n + 1) ∈ taken) :
    toString (n + 1) ∈ ahead taken n := by
  refine List.mem_filter.mpr ⟨used, decide_eq_true fun passed => ?_⟩
  obtain ⟨m, early, same⟩ := List.mem_map.mp passed
  have below := List.mem_range.mp early
  have := toString_injective same
  omega

/-- Each number that is in use leaves fewer keys to come upon. -/
theorem ahead_lt {taken : List String} {n : Nat} (used : toString (n + 1) ∈ taken) :
    (ahead taken (n + 1)).length < (ahead taken n).length := by
  rw [ahead_succ, List.length_filter_lt_length_iff_exists]
  exact ⟨_, mem_ahead used, by simp⟩

/-- A search that may take as many steps as there are keys ahead ends. -/
theorem search_nextFree (taken : List String) (steps n : Nat) (enough : (ahead taken n).length ≤ steps) :
    KeySearch taken n (nextFree taken steps n) := by
  induction steps generalizing n with
  | zero =>
    have nothing : ahead taken n = [] := List.eq_nil_of_length_eq_zero (Nat.le_zero.mp enough)
    refine .found fun used => ?_
    have here := mem_ahead used
    rw [nothing] at here
    cases here
  | succ steps ih =>
    unfold nextFree
    split
    · rename_i contained
      have used : toString (n + 1) ∈ taken := by simpa using contained
      have fewer := ahead_lt used
      exact .next used (ih (n + 1) (by omega))
    · rename_i free
      exact .found (by simpa using free)

/-- In every state the search for a key in a collection ends, at the number that the model assigns. -/
theorem nextKey_search (s : Store) (c : Collection) : KeySearch c.keys s.keyCounter (s.nextKey c) := by
  refine search_nextFree c.keys c.documents.length s.keyCounter ?_
  have fewer : (ahead c.keys s.keyCounter).length ≤ c.keys.length := List.length_filter_le _ _
  simpa [Collection.keys] using fewer

theorem lt_nextKey (s : Store) (c : Collection) : s.keyCounter < s.nextKey c :=
  lt_nextFree _ _ _

theorem nextKey_free (s : Store) (c : Collection) : c.hasKey (toString (s.nextKey c)) = false := by
  rw [Collection.hasKey_eq_false]
  intro entry stored same
  refine (s.nextKey_search c).free ?_
  rw [← same]
  exact List.mem_map_of_mem stored

/-! ### Single inserts -/

def bulkInsertions (s : Store) (name : String) : List Document → List Insertion
  | [] => []
  | document :: rest =>
    ⟨s, name, document⟩ :: bulkInsertions (s.insert name document).2 name rest

/-- The single inserts that a request comes to. One through a graph takes place if the graph allows it. -/
def insertions (s : Store) : Request → List Insertion
  | .insert name document => [⟨s, name, document⟩]
  | .insertMany name documents => s.bulkInsertions name documents
  | .insertVertex graph name document =>
    (s.checkVertexCollection graph name).toOption.toList.map fun _ => ⟨s, name, document⟩
  | .insertEdge graph name document =>
    (s.checkEndpoints graph name document).toOption.toList.map fun _ => ⟨s, name, document⟩
  | _ => []

def insertionsAll (s : Store) : List Request → List Insertion
  | [] => []
  | r :: rest => s.insertions r ++ insertionsAll (s.answer r).2 rest

end Store

namespace Insertion

open Store

variable {i : Insertion}

theorem number?_eq_some {n : Nat} (numbered : i.number? = some n) :
    ∃ c, i.before.collections.get? i.collection = some c ∧ missingEndpoint? c i.document = none ∧
      keyChoice i.collection c i.document = .assigned ∧ n = i.before.nextKey c := by
  obtain ⟨c, present, chosen⟩ := Option.bind_eq_some_iff.mp numbered
  refine ⟨c, present, ?_⟩
  split at chosen
  · rename_i ends choice
    exact ⟨ends, choice, (Option.some.inj chosen).symm⟩
  · cases chosen

theorem number?_of_assigned {c : Collection} (present : i.before.collections.get? i.collection = some c)
    (ends : missingEndpoint? c i.document = none) (choice : keyChoice i.collection c i.document = .assigned) :
    i.number? = some (i.before.nextKey c) := by
  simp [number?, present, ends, choice]

theorem lt_number {n : Nat} (numbered : i.number? = some n) : i.before.keyCounter < n := by
  obtain ⟨c, -, -, -, rfl⟩ := number?_eq_some numbered
  exact lt_nextKey _ _

theorem keyCounter_insertAt (s : Store) (name : String) (c : Collection) (key : String) (document : Document) :
    (s.insertAt name c key document).2.keyCounter = s.keyCounter := by
  rcases s.insertAt_cases name c key document with ⟨r, refused⟩ | ⟨-, -, stored⟩
  · rw [refused]
  · rw [stored]
    rfl

/-- The counter moves to the number that is assigned, whether the document is stored or refused, and stays otherwise. -/
theorem keyCounter_outcome (i : Insertion) : i.outcome.2.keyCounter = i.number?.getD i.before.keyCounter := by
  unfold outcome number? Store.insert
  cases i.before.collections.get? i.collection with
  | none => rfl
  | some c =>
    dsimp only [Option.bind_some]
    cases missingEndpoint? c i.document with
    | some field => rfl
    | none =>
      dsimp only
      cases keyChoice i.collection c i.document with
      | refused r => rfl
      | given key => exact keyCounter_insertAt _ _ _ _ _
      | assigned => exact keyCounter_insertAt _ _ _ _ _

theorem insertAt_not_keyTaken (s : Store) (name : String) {c : Collection} {key : String} (free : c.hasKey key = false)
    (document : Document) (other taken : String) :
    (s.insertAt name c key document).1 ≠ .error (.keyTaken other taken) := by
  intro refused
  rw [insertAt, if_neg (by simp [free])] at refused
  cases clash : c.clash? document key with
  | some index => simp [clash] at refused
  | none => simp [clash] at refused

theorem Unkeyed.choice (unkeyed : i.Unkeyed) (c : Collection) :
    keyChoice i.collection c i.document = .assigned := by
  unfold keyChoice
  rcases unkeyed with none | null
  · rw [none]
  · rw [null]

/-- A document that leaves its key to the store is never refused because a key is taken. -/
theorem Unkeyed.not_keyTaken (unkeyed : i.Unkeyed) (name key : String) : i.outcome.1 ≠ .error (.keyTaken name key) := by
  unfold outcome Store.insert
  cases present : i.before.collections.get? i.collection with
  | none => rintro ⟨⟩
  | some c =>
    dsimp only
    cases missingEndpoint? c i.document with
    | some field => rintro ⟨⟩
    | none =>
      rw [unkeyed.choice c]
      exact insertAt_not_keyTaken _ _ (nextKey_free _ c) _ _ _

/-- The key of a document that left it to the store is the text of the number that was assigned. -/
theorem Unkeyed.key_of_ok (unkeyed : i.Unkeyed) {h : Header} (stored : i.outcome.1 = .ok h) :
    ∃ n, i.number? = some n ∧ h.key = toString n := by
  rcases i.before.insert_cases i.collection i.document with ⟨r, n, -, refused⟩ | ⟨c, key, n, checked, done⟩
  · rw [outcome, refused] at stored
    cases stored
  · rw [outcome, done] at stored
    obtain rfl := Except.ok.inj stored
    rcases checked.choice with ⟨choice, rfl, rfl⟩ | ⟨choice, -⟩
    · exact ⟨_, number?_of_assigned checked.present checked.ends choice, rfl⟩
    · rw [unkeyed.choice c] at choice
      cases choice

end Insertion

namespace Store

/-! ### Runs -/

/-- Numbers that were assigned while the counter moved from one number to another: each is greater than those
before it. -/
structure Counts (first : Nat) (numbers : List Nat) (last : Nat) : Prop where
  ascend : numbers.Pairwise (· < ·)
  later : ∀ n ∈ numbers, first < n
  passed : ∀ n ∈ numbers, n ≤ last
  forward : first ≤ last

namespace Counts

theorem none {first last : Nat} (forward : first ≤ last) : Counts first [] last :=
  ⟨.nil, fun _ listed => absurd listed List.not_mem_nil, fun _ listed => absurd listed List.not_mem_nil, forward⟩

theorem one {first n : Nat} (later : first < n) : Counts first [n] n :=
  ⟨List.pairwise_singleton _ n, by simpa using later, by simp, Nat.le_of_lt later⟩

theorem trans {first middle last : Nat} {numbers more : List Nat} (before : Counts first numbers middle)
    (after : Counts middle more last) : Counts first (numbers ++ more) last := by
  refine ⟨?_, ?_, ?_, Nat.le_trans before.forward after.forward⟩
  · refine List.pairwise_append.mpr ⟨before.ascend, after.ascend, fun n early m late => ?_⟩
    exact Nat.lt_of_le_of_lt (before.passed n early) (after.later m late)
  · intro n listed
    rcases List.mem_append.mp listed with early | late
    · exact before.later n early
    · exact Nat.lt_of_le_of_lt before.forward (after.later n late)
  · intro n listed
    rcases List.mem_append.mp listed with early | late
    · exact Nat.le_trans (before.passed n early) after.forward
    · exact after.passed n late

end Counts

/-- The numbers that are assigned in single inserts. -/
def numbers (run : List Insertion) : List Nat :=
  run.filterMap Insertion.number?

theorem insert_counts (i : Insertion) :
    Counts i.before.keyCounter (numbers [i]) i.outcome.2.keyCounter := by
  rw [i.keyCounter_outcome]
  cases numbered : i.number? with
  | none => simpa [numbers, numbered] using Counts.none (Nat.le_refl _)
  | some n => simpa [numbers, numbered] using Counts.one (Insertion.lt_number numbered)

theorem insertMany_counts (s : Store) (name : String) (documents : List Document) :
    Counts s.keyCounter (numbers (s.bulkInsertions name documents))
      (s.answer (.insertMany name documents)).2.keyCounter := by
  induction documents generalizing s with
  | nil => exact .none (Nat.le_refl _)
  | cons document rest ih =>
    have first := insert_counts ⟨s, name, document⟩
    have counts := first.trans (ih (s.insert name document).2)
    rwa [numbers, numbers, ← List.filterMap_append] at counts

theorem after_counts {s : Store} (check : Except Refusal Unit) (name : String) (document : Document) :
    Counts s.keyCounter (numbers (check.toOption.toList.map fun _ => ⟨s, name, document⟩))
      (s.after check (·.insert name document)).2.keyCounter := by
  rcases s.after_cases check (·.insert name document) with ⟨r, rfl, refused⟩ | ⟨rfl, passed⟩
  · rw [refused]
    exact .none (Nat.le_refl _)
  · rw [passed]
    exact insert_counts ⟨s, name, document⟩

/-- The numbers that a request assigns ascend from where the counter stood to where it stands afterwards. -/
theorem answer_counts (s : Store) (r : Request) :
    Counts s.keyCounter (numbers (s.insertions r)) (s.answer r).2.keyCounter := by
  cases r with
  | insert name document => exact insert_counts ⟨s, name, document⟩
  | insertMany name documents => exact s.insertMany_counts name documents
  | insertVertex graph name document => exact after_counts _ name document
  | insertEdge graph name document => exact after_counts _ name document
  | _ => exact .none (answer_behaved s _).keys

theorem afterAll_counts (s : Store) (requests : List Request) :
    Counts s.keyCounter (numbers (s.insertionsAll requests)) (s.afterAll requests).keyCounter := by
  induction requests generalizing s with
  | nil => exact .none (Nat.le_refl _)
  | cons r rest ih =>
    have counts := (s.answer_counts r).trans (ih (s.answer r).2)
    rwa [numbers, numbers, ← List.filterMap_append] at counts

theorem Counts.pairwise {first last : Nat} {run : List Insertion} (counts : Counts first (numbers run) last) :
    run.Pairwise fun i j => ∀ n m, i.number? = some n → j.number? = some m → n < m := by
  refine (List.pairwise_filterMap.mp counts.ascend).imp fun {i j} ordered n m earlier later => ?_
  exact ordered n earlier m later

/-! ### Answers -/

theorem headers_insert (i : Insertion) :
    (reply i.outcome).1.toOption.toList = [i].filterMap Insertion.header? := by
  rw [toOption_reply, List.filterMap_cons, List.filterMap_nil]
  show i.header?.toList = _
  cases i.header? <;> rfl

theorem headers_after {s : Store} (check : Except Refusal Unit) (name : String) (document : Document) :
    (reply (s.after check (·.insert name document))).1.toOption.toList =
      (check.toOption.toList.map fun _ => Insertion.mk s name document).filterMap Insertion.header? := by
  rcases s.after_cases check (·.insert name document) with ⟨r, rfl, refused⟩ | ⟨rfl, passed⟩
  · rw [refused]
    rfl
  · rw [passed]
    exact headers_insert ⟨s, name, document⟩

theorem headers_insertMany (s : Store) (name : String) (documents : List Document) :
    (s.answer (.insertMany name documents)).1.filterMap Except.toOption =
      (s.bulkInsertions name documents).filterMap Insertion.header? := by
  induction documents generalizing s with
  | nil => rfl
  | cons document rest ih =>
    have first : (s.answer (.insert name document)).1.toOption = Insertion.header? ⟨s, name, document⟩ :=
      toOption_reply (s.insert name document)
    rw [insertMany_cons, bulkInsertions, List.filterMap_cons, List.filterMap_cons, first]
    have later := ih (s.insert name document).2
    cases Insertion.header? ⟨s, name, document⟩ with
    | none => exact later
    | some h => exact congrArg (h :: ·) later

/-- The headers that a request with new documents is answered with are those of its single inserts, in order. -/
theorem headers_insertions (s : Store) (r : Request) (inserts : r.inserts = true) :
    r.headers (s.answer r).1 = (s.insertions r).filterMap Insertion.header? := by
  cases r with
  | insert name document => exact headers_insert ⟨s, name, document⟩
  | insertMany name documents => exact s.headers_insertMany name documents
  | insertVertex graph name document => exact headers_after _ name document
  | insertEdge graph name document => exact headers_after _ name document
  | _ => cases inserts

theorem insertionsAll_append (s : Store) (before after : List Request) :
    s.insertionsAll (before ++ after) = s.insertionsAll before ++ (s.afterAll before).insertionsAll after := by
  induction before generalizing s with
  | nil => rfl
  | cons r rest ih =>
    rw [List.cons_append, insertionsAll, insertionsAll, ih (s.answer r).2, List.append_assoc]
    rfl

/-- The single inserts of a request are among those of the run. -/
theorem insertions_subset (s : Store) (before : List Request) (r : Request) (after : List Request) :
    (s.afterAll before).insertions r ⊆ s.insertionsAll (before ++ r :: after) := by
  rw [insertionsAll_append, insertionsAll]
  exact List.Subset.trans (List.subset_append_left _ _) (List.subset_append_right _ _)

/-! ### Fresh keys -/

/-- What is sure of an insert whose document leaves its key to the store: if the document comes as far as that, the
search for a number ends and its text is free in the collection; the document is not refused for its key; and it is
stored under that text. -/
structure FreshKey (i : Insertion) : Prop where
  searched : ∀ c, i.before.collections.get? i.collection = some c → missingEndpoint? c i.document = none →
    ∃ n, i.number? = some n ∧ KeySearch c.keys i.before.keyCounter n ∧ c.hasKey (toString n) = false
  accepted : ∀ name key, i.outcome.1 ≠ .error (.keyTaken name key)
  named : ∀ h, i.outcome.1 = .ok h → ∃ n, i.number? = some n ∧ h.key = toString n

theorem freshKey_of_unkeyed {i : Insertion} (unkeyed : i.Unkeyed) : FreshKey i := by
  refine ⟨fun c present ends => ?_, unkeyed.not_keyTaken, fun h => unkeyed.key_of_ok⟩
  exact ⟨_, Insertion.number?_of_assigned present ends (unkeyed.choice c), nextKey_search _ c, nextKey_free _ c⟩

/-- Inserts whose numbers differ store their documents under different keys. -/
theorem keys_differ {i j : Insertion} (ordered : ∀ n m, i.number? = some n → j.number? = some m → n < m)
    (first : i.Unkeyed) (second : j.Unkeyed) {h k : Header} (stored : i.outcome.1 = .ok h)
    (later : j.outcome.1 = .ok k) : h.key ≠ k.key := by
  obtain ⟨n, numbered, named⟩ := first.key_of_ok stored
  obtain ⟨m, counted, called⟩ := second.key_of_ok later
  have less := ordered n m numbered counted
  rw [named, called]
  intro same
  have := toString_injective same
  omega

/-- Keys that the store assigns are fresh, in every run from an empty store and whatever keys documents have brought. The
headers that requests with new documents are answered with are those of the single inserts of the run. For every document
that leaves its key to the store the search ends at a number whose text is free in the collection, so that the document
is never refused for its key; each number is greater than all that were assigned before, through refused inserts,
deletions and other collections, so that no two documents are given the same key; and in every collection that the run
leaves the next search ends as well, past all of these numbers. -/
theorem assigned_keys_fresh (batchSize : Nat) (requests : List Request) :
    let run := (empty batchSize).insertionsAll requests
    let s := (empty batchSize).afterAll requests
    (∀ before r after, requests = before ++ r :: after → r.inserts = true →
      let t := (empty batchSize).afterAll before
      r.headers (t.answer r).1 = (t.insertions r).filterMap Insertion.header? ∧ t.insertions r ⊆ run) ∧
    (∀ i ∈ run, i.Unkeyed → FreshKey i) ∧
    run.Pairwise (fun i j => ∀ n m, i.number? = some n → j.number? = some m → n < m) ∧
    run.Pairwise (fun i j => i.Unkeyed → j.Unkeyed →
      ∀ h k, i.outcome.1 = .ok h → j.outcome.1 = .ok k → h.key ≠ k.key) ∧
    ∀ name c, s.collections.get? name = some c →
      KeySearch c.keys s.keyCounter (s.nextKey c) ∧ c.hasKey (toString (s.nextKey c)) = false ∧
        ∀ n ∈ numbers run, n < s.nextKey c := by
  intro run s
  have counts : Counts 0 (numbers run) s.keyCounter := (empty batchSize).afterAll_counts requests
  refine ⟨?_, fun i _ => freshKey_of_unkeyed, counts.pairwise, ?_, fun name c _ => ?_⟩
  · rintro before r after rfl inserts t
    exact ⟨t.headers_insertions r inserts, insertions_subset _ before r after⟩
  · exact counts.pairwise.imp fun ordered first second h k => keys_differ ordered first second
  · refine ⟨s.nextKey_search c, s.nextKey_free c, fun n listed => ?_⟩
    exact Nat.lt_of_le_of_lt (counts.passed n listed) (s.lt_nextKey c)

/-- Documents have brought the keys 1, 2, 3 and 5; the store gives 4 and 6, uses 7 up for a document that it refuses,
and goes on with 8 in another collection and with 9 after the deletion of 4. -/
theorem brought_keys_passed :
    let requests : List Request := [.createCollection "c" {}, .createCollection "d" {},
      .ensureIndex "c" { fields := ["a"], unique := true, sparse := true },
      .insertMany "c" [[("_key", .string "1")], [("_key", .string "2")], [("_key", .string "3")],
        [("_key", .string "5")], [], [("a", .ofNat 1)], [("a", .ofNat 1)]],
      .insert "d" [], .delete "c" "4" none false, .insert "c" [("_key", .null)]]
    let run := (empty 1).insertionsAll requests
    let s := (empty 1).afterAll requests
    let last : Insertion := ⟨(empty 1).afterAll (requests.take 6), "c", [("_key", .null)]⟩
    numbers run = [4, 6, 7, 8, 9] ∧ FreshKey last ∧
      ∃ c, s.collections.get? "c" = some c ∧ c.keys = ["1", "2", "3", "5", "6", "9"] ∧
        KeySearch c.keys 9 (s.nextKey c) ∧ ∀ n ∈ numbers run, n < s.nextKey c := by
  intro requests run s last
  obtain ⟨-, fresh, -, -, next⟩ := assigned_keys_fresh 1 requests
  have among : last ∈ run := by
    refine List.mem_append_right _ (List.mem_append_right _ (List.mem_append_right _ ?_))
    refine List.mem_append_right _ (List.mem_append_right _ (List.mem_append_right _ ?_))
    exact List.mem_append_left _ List.mem_cons_self
  have found : s.collections.get? "c" = some ((s.collections.get? "c").get (by decide +kernel)) := (Option.some_get _).symm
  obtain ⟨searched, -, past⟩ := next "c" _ found
  have counted : s.keyCounter = 9 := by decide +kernel
  rw [counted] at searched
  exact ⟨by decide +kernel, fresh last among (.inr rfl), _, found, by decide +kernel, searched, past⟩

end Store
end RecordStore
