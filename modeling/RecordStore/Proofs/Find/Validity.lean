import RecordStore.Client.Collection
import RecordStore.Client.Turn
import RecordStore.Proofs.Find.Clauses

/-!
# Options that make no query

Options can be at fault in five ways: a path of a filter or of a sort key has no segment, a symbol is that of no
operator, an offset comes without a limit, or a word is no direction (`Options.Violates`). The checks form one list in
which places ascend (`ascending_checks`), and the error of a query is the first that they give (`refusal?_query`). So a
query is made exactly of valid options, and else the first fault is told, before the store is asked for anything
(`invalid_refused`).
-/

namespace RecordStore
namespace Find

/-! ### Faults -/

/-- Where options can be at fault. Terms, the operators of a term, and sort keys are counted. -/
inductive Fault where
  | filterPath (term : Nat)
  | filterOperator (term position : Nat)
  | slice
  | direction (number : Nat)
  | sortPath (number : Nat)
  deriving DecidableEq, Repr

namespace Fault

/-- The place of a fault in the order of the checks: filters, then the slice, then sort keys; a path before the operators
that are asked of it, and a direction before the path that it is for. -/
def place : Fault → List Nat
  | filterPath term => [0, term]
  | filterOperator term position => [0, term, position]
  | slice => [1]
  | direction number => [2, number]
  | sortPath number => [2, number, 0]

end Fault

/-- A path of which some segment is not empty. -/
def HasSegment (path : String) : Prop :=
  ∃ segment ∈ Text.splitBy (· = '.') path.toList, segment ≠ []

def IsSymbol (symbol : String) : Prop :=
  ∃ op : Query.Operator, op.symbol = symbol

def IsDirection (word : String) : Prop :=
  ∃ descending, word.toList.map Char.toUpper = (directionText descending).toList

namespace Options

/-- Options from which a query can be made. -/
structure Valid (o : Options) : Prop where
  filterPaths : ∀ term ∈ o.filters.terms, HasSegment term.1
  symbols : ∀ term ∈ o.filters.terms, ∀ pair ∈ term.2.pairs, IsSymbol pair.1
  slice : ∀ n, o.offset = some n → n ≠ 0 → o.limit ≠ none
  directions : ∀ key ∈ o.sort, IsDirection key.direction
  sortPaths : ∀ key ∈ o.sort, HasSegment key.path

/-- What is wrong with options: where it is, and the error that tells of it. -/
inductive Violates (o : Options) : Fault → ClientError → Prop
  | filterPath {term : Nat} {path : String} {condition : Condition}
      (found : o.filters.terms[term]? = some (path, condition)) (blank : ¬HasSegment path) :
      Violates o (.filterPath term) (.invalidQuery (.emptyFieldPath path))
  | filterOperator {term position : Nat} {path symbol : String} {condition : Condition} {operand : Operand}
      (found : o.filters.terms[term]? = some (path, condition))
      (asked : condition.pairs[position]? = some (symbol, operand)) (unknown : ¬IsSymbol symbol) :
      Violates o (.filterOperator term position) (.unsupportedOperator path symbol)
  | slice {n : Nat} (skips : o.offset = some n) (some : n ≠ 0) (unlimited : o.limit = none) :
      Violates o .slice (.invalidQuery .offsetWithoutLimit)
  | direction {number : Nat} {key : SortKey} (found : o.sort[number]? = some key)
      (unknown : ¬IsDirection key.direction) :
      Violates o (.direction number) (.invalidSortDirection key.path key.direction)
  | sortPath {number : Nat} {key : SortKey} (found : o.sort[number]? = some key) (blank : ¬HasSegment key.path) :
      Violates o (.sortPath number) (.invalidQuery (.emptySortPath key.path))

/-- The error of the first fault. -/
def FirstViolation (o : Options) (e : ClientError) : Prop :=
  ∃ fault, o.Violates fault e ∧ ∀ other e', o.Violates other e' → ¬other.place < fault.place

theorem valid_iff {o : Options} : o.Valid ↔ ∀ fault e, ¬o.Violates fault e := by
  constructor
  · intro valid fault e violated
    cases violated with
    | filterPath found blank => exact blank (valid.filterPaths _ (List.mem_of_getElem? found))
    | filterOperator found asked unknown =>
      exact unknown (valid.symbols _ (List.mem_of_getElem? found) _ (List.mem_of_getElem? asked))
    | slice skips some unlimited => exact valid.slice _ skips some unlimited
    | direction found unknown => exact unknown (valid.directions _ (List.mem_of_getElem? found))
    | sortPath found blank => exact blank (valid.sortPaths _ (List.mem_of_getElem? found))
  · intro none
    refine ⟨fun term listed => ?_, fun term listed pair asked => ?_, fun n skips some unlimited => ?_,
      fun key listed => ?_, fun key listed => ?_⟩
    · obtain ⟨i, found⟩ := List.mem_iff_getElem?.mp listed
      exact Classical.not_not.mp fun blank => none _ _ (.filterPath found blank)
    · obtain ⟨i, found⟩ := List.mem_iff_getElem?.mp listed
      obtain ⟨j, asked⟩ := List.mem_iff_getElem?.mp asked
      exact Classical.not_not.mp fun unknown => none _ _ (.filterOperator found asked unknown)
    · exact none _ _ (.slice skips some unlimited)
    · obtain ⟨i, found⟩ := List.mem_iff_getElem?.mp listed
      exact Classical.not_not.mp fun unknown => none _ _ (.direction found unknown)
    · obtain ⟨i, found⟩ := List.mem_iff_getElem?.mp listed
      exact Classical.not_not.mp fun blank => none _ _ (.sortPath found blank)

end Options

/-! ### What each check looks for -/

theorem segments_isEmpty {path : String} : (segments path).isEmpty = true ↔ ¬HasSegment path := by
  simp [segments, HasSegment]

theorem ofSymbol?_isNone {symbol : String} : (Query.Operator.ofSymbol? symbol).isNone = true ↔ ¬IsSymbol symbol := by
  rw [Option.isNone_iff_eq_none]
  constructor
  · rintro unknown ⟨op, rfl⟩
    exact absurd ((ofSymbol?_symbol op).symm.trans unknown) nofun
  · intro unknown
    cases found : Query.Operator.ofSymbol? symbol with
    | none => rfl
    | some op => exact absurd ⟨op, ofSymbol?_eq_some found⟩ unknown

theorem readDirection?_isNone {word : String} :
    (Query.Statement.readDirection? word.toList).isNone = true ↔ ¬IsDirection word := by
  rw [IsDirection, Bool.exists_bool, Query.Statement.readDirection?]
  split
  · rename_i ascending
    simp [ascending, directionText]
  · rename_i descending
    simp [descending, directionText]
  · rename_i neither other
    simpa [directionText] using ⟨neither, other⟩

/-! ### The checks in their order -/

/-- A check: where it looks, and the error that it gives if there is a fault. -/
abbrev Check := Fault × Option ClientError

/-- The check of a path or a word that is told of with an error if it is at fault. -/
def Check.of (fault : Fault) (wrong : Bool) (e : ClientError) : Check :=
  (fault, if wrong then some e else none)

theorem Check.of_some {fault place : Fault} {wrong : Bool} {e e' : ClientError} :
    (place, some e') = Check.of fault wrong e ↔ wrong = true ∧ place = fault ∧ e' = e := by
  cases wrong <;> simp [Check.of]

def pairCheck (term : Nat) (path : String) (entry : (String × Operand) × Nat) : Check :=
  .of (.filterOperator term entry.2) (Query.Operator.ofSymbol? entry.1.1).isNone (.unsupportedOperator path entry.1.1)

def termChecks (entry : (String × Condition) × Nat) : List Check :=
  .of (.filterPath entry.2) (segments entry.1.1).isEmpty (.invalidQuery (.emptyFieldPath entry.1.1)) ::
    entry.1.2.pairs.zipIdx.map (pairCheck entry.2 entry.1.1)

def sliceCheck (o : Options) : Check :=
  .of .slice (o.limit.isNone && 0 < o.offset.getD 0) (.invalidQuery .offsetWithoutLimit)

def keyChecks (entry : SortKey × Nat) : List Check :=
  [.of (.direction entry.2) (Query.Statement.readDirection? entry.1.direction.toList).isNone
      (.invalidSortDirection entry.1.path entry.1.direction),
    .of (.sortPath entry.2) (segments entry.1.path).isEmpty (.invalidQuery (.emptySortPath entry.1.path))]

def Options.checks (o : Options) : List Check :=
  o.filters.terms.zipIdx.flatMap termChecks ++ sliceCheck o :: o.sort.zipIdx.flatMap keyChecks

theorem mem_termChecks {entry : (String × Condition) × Nat} {fault : Fault} {e : ClientError} :
    (fault, some e) ∈ termChecks entry ↔
      (¬HasSegment entry.1.1 ∧ fault = .filterPath entry.2 ∧ e = .invalidQuery (.emptyFieldPath entry.1.1)) ∨
      ∃ symbol operand position, entry.1.2.pairs[position]? = some (symbol, operand) ∧ ¬IsSymbol symbol ∧
        fault = .filterOperator entry.2 position ∧ e = .unsupportedOperator entry.1.1 symbol := by
  rw [termChecks, List.mem_cons, Check.of_some, segments_isEmpty, List.mem_map]
  refine or_congr Iff.rfl ⟨?_, ?_⟩
  · rintro ⟨⟨⟨symbol, operand⟩, position⟩, listed, given⟩
    rw [pairCheck, eq_comm, Check.of_some, ofSymbol?_isNone] at given
    exact ⟨symbol, operand, position, List.mem_zipIdx_iff_getElem?.mp listed, given⟩
  · rintro ⟨symbol, operand, position, found, given⟩
    rw [← ofSymbol?_isNone] at given
    exact ⟨((symbol, operand), position), List.mem_zipIdx_iff_getElem?.mpr found, (Check.of_some.mpr given).symm⟩

theorem mem_keyChecks {entry : SortKey × Nat} {fault : Fault} {e : ClientError} :
    (fault, some e) ∈ keyChecks entry ↔
      (¬IsDirection entry.1.direction ∧ fault = .direction entry.2 ∧
        e = .invalidSortDirection entry.1.path entry.1.direction) ∨
      ¬HasSegment entry.1.path ∧ fault = .sortPath entry.2 ∧ e = .invalidQuery (.emptySortPath entry.1.path) := by
  rw [keyChecks, List.mem_cons, List.mem_singleton, Check.of_some, Check.of_some, segments_isEmpty,
    readDirection?_isNone]

theorem mem_sliceCheck {o : Options} {fault : Fault} {e : ClientError} :
    (fault, some e) = sliceCheck o ↔ (∃ n, o.offset = some n ∧ n ≠ 0 ∧ o.limit = none) ∧ fault = .slice ∧
      e = .invalidQuery .offsetWithoutLimit := by
  rw [sliceCheck, Check.of_some]
  refine and_congr ?_ Iff.rfl
  cases o.offset <;> cases o.limit <;> simp [Nat.pos_iff_ne_zero]

/-- The checks that give an error are the faults. -/
theorem mem_checks {o : Options} {fault : Fault} {e : ClientError} :
    (fault, some e) ∈ o.checks ↔ o.Violates fault e := by
  rw [Options.checks, List.mem_append, List.mem_cons, List.mem_flatMap, List.mem_flatMap]
  constructor
  · rintro (⟨⟨⟨path, condition⟩, term⟩, listed, here⟩ | here | ⟨⟨key, number⟩, listed, here⟩)
    · have found := List.mem_zipIdx_iff_getElem?.mp listed
      rcases mem_termChecks.mp here with ⟨blank, rfl, rfl⟩ | ⟨symbol, operand, position, asked, unknown, rfl, rfl⟩
      · exact .filterPath found blank
      · exact .filterOperator found asked unknown
    · obtain ⟨⟨n, skips, some, unlimited⟩, rfl, rfl⟩ := mem_sliceCheck.mp here
      exact .slice skips some unlimited
    · have found := List.mem_zipIdx_iff_getElem?.mp listed
      rcases mem_keyChecks.mp here with ⟨unknown, rfl, rfl⟩ | ⟨blank, rfl, rfl⟩
      · exact .direction found unknown
      · exact .sortPath found blank
  · intro violated
    cases violated with
    | @filterPath term path condition found blank =>
      exact .inl ⟨((path, condition), term), List.mem_zipIdx_iff_getElem?.mpr found,
        mem_termChecks.mpr (.inl ⟨blank, rfl, rfl⟩)⟩
    | @filterOperator term position path symbol condition operand found asked unknown =>
      exact .inl ⟨((path, condition), term), List.mem_zipIdx_iff_getElem?.mpr found,
        mem_termChecks.mpr (.inr ⟨symbol, operand, position, asked, unknown, rfl, rfl⟩)⟩
    | slice skips some unlimited => exact .inr (.inl (mem_sliceCheck.mpr ⟨⟨_, skips, some, unlimited⟩, rfl, rfl⟩))
    | @direction number key found unknown =>
      exact .inr (.inr ⟨(key, number), List.mem_zipIdx_iff_getElem?.mpr found,
        mem_keyChecks.mpr (.inl ⟨unknown, rfl, rfl⟩)⟩)
    | @sortPath number key found blank =>
      exact .inr (.inr ⟨(key, number), List.mem_zipIdx_iff_getElem?.mpr found,
        mem_keyChecks.mpr (.inr ⟨blank, rfl, rfl⟩)⟩)

theorem zipIdx_ascends {α : Type} (entries : List α) : entries.zipIdx.Pairwise fun a b => a.2 < b.2 := by
  rw [← List.pairwise_map (f := Prod.snd) (R := (· < ·)), List.zipIdx_map_snd]
  exact List.pairwise_lt_range'

theorem place_termChecks {entry : (String × Condition) × Nat} {check : Check} (listed : check ∈ termChecks entry) :
    ∃ more, check.1.place = 0 :: entry.2 :: more := by
  rw [termChecks, List.mem_cons, List.mem_map] at listed
  rcases listed with rfl | ⟨pair, -, rfl⟩
  · exact ⟨[], rfl⟩
  · exact ⟨[pair.2], rfl⟩

theorem place_keyChecks {entry : SortKey × Nat} {check : Check} (listed : check ∈ keyChecks entry) :
    ∃ more, check.1.place = 2 :: entry.2 :: more := by
  rw [keyChecks, List.mem_cons, List.mem_singleton] at listed
  rcases listed with rfl | rfl
  · exact ⟨[], rfl⟩
  · exact ⟨[0], rfl⟩

theorem ascending_termChecks (entry : (String × Condition) × Nat) :
    (termChecks entry).Pairwise fun a b => a.1.place < b.1.place := by
  refine List.pairwise_cons.mpr ⟨fun check listed => ?_, ?_⟩
  · obtain ⟨pair, -, rfl⟩ := List.mem_map.mp listed
    simp [pairCheck, Check.of, Fault.place]
  · refine List.pairwise_map.mpr ((zipIdx_ascends _).imp fun before => ?_)
    simp [pairCheck, Check.of, Fault.place, List.cons_lt_cons_iff, before]

theorem ascending_keyChecks (entry : SortKey × Nat) :
    (keyChecks entry).Pairwise fun a b => a.1.place < b.1.place := by
  simp [keyChecks, Check.of, Fault.place]

/-- Checks of numbered parts ascend if they tell the number of their part first. -/
theorem ascending_flatMap {α : Type} {checks : α × Nat → List Check} {kind : Nat}
    (place : ∀ {entry check}, check ∈ checks entry → ∃ more, check.1.place = kind :: entry.2 :: more)
    (own : ∀ entry, (checks entry).Pairwise fun a b => a.1.place < b.1.place) (parts : List α) :
    (parts.zipIdx.flatMap checks).Pairwise fun a b => a.1.place < b.1.place := by
  refine List.pairwise_flatMap.mpr ⟨fun entry _ => own entry, (zipIdx_ascends parts).imp fun before a here b there => ?_⟩
  obtain ⟨_, placeA⟩ := place here
  obtain ⟨_, placeB⟩ := place there
  simp [placeA, placeB, List.cons_lt_cons_iff, before]

/-- Each check looks at a later place than those before it. -/
theorem ascending_checks (o : Options) : o.checks.Pairwise fun a b => a.1.place < b.1.place := by
  have slice : (sliceCheck o).1.place = [1] := rfl
  refine List.pairwise_append.mpr ⟨ascending_flatMap place_termChecks ascending_termChecks _,
    List.pairwise_cons.mpr ⟨fun later there => ?_, ascending_flatMap place_keyChecks ascending_keyChecks _⟩,
    fun earlier here later there => ?_⟩
  · obtain ⟨entry, -, there⟩ := List.mem_flatMap.mp there
    obtain ⟨_, place⟩ := place_keyChecks there
    simp [slice, place, List.cons_lt_cons_iff]
  · obtain ⟨entry, -, here⟩ := List.mem_flatMap.mp here
    obtain ⟨_, place⟩ := place_termChecks here
    rcases List.mem_cons.mp there with rfl | there
    · simp [place, slice, List.cons_lt_cons_iff]
    · obtain ⟨entry, -, there⟩ := List.mem_flatMap.mp there
      obtain ⟨_, placeB⟩ := place_keyChecks there
      simp [place, placeB, List.cons_lt_cons_iff]

/-! ### The first refusal -/

/-- The error that some checks end with: the first that there is. -/
def firstError (checks : List Check) : Option ClientError :=
  checks.findSome? Prod.snd

theorem firstError_append (before after : List Check) :
    firstError (before ++ after) = (firstError before).or (firstError after) :=
  List.findSome?_append

theorem firstError_cons (check : Check) (rest : List Check) :
    firstError (check :: rest) = check.2.or (firstError rest) := by
  rw [firstError, List.findSome?_cons]
  cases check.2 <;> rfl

def refusal? {α : Type} : Except ClientError α → Option ClientError
  | .ok _ => none
  | .error e => some e

theorem refusal?_eq_some {α : Type} {result : Except ClientError α} {e : ClientError} :
    refusal? result = some e ↔ result = .error e := by
  cases result <;> simp [refusal?]

theorem refusal?_eq_none {α : Type} {result : Except ClientError α} :
    refusal? result = none ↔ ∃ a, result = .ok a := by
  cases result <;> simp [refusal?]

theorem refusal?_firstRefusal (checks : List Checked) :
    refusal? (firstRefusal checks) = checks.findSome? refusal? := by
  induction checks with
  | nil => rfl
  | cons check rest ih =>
    cases check with
    | error e => rfl
    | ok clause =>
      rw [List.findSome?_cons, ← ih, firstRefusal]
      cases firstRefusal rest <;> rfl

theorem findSome?_checkPairs (term : Nat) (path : String) (pairs : List (String × Operand)) (start : Nat) :
    (pairs.map (checkPair term path)).findSome? refusal? =
      firstError ((pairs.zipIdx start).map (pairCheck term path)) := by
  induction pairs generalizing start with
  | nil => rfl
  | cons pair rest ih =>
    rw [List.map_cons, List.zipIdx_cons, List.map_cons, firstError_cons, ← ih (start + 1), List.findSome?_cons, checkPair,
      pairCheck, Check.of]
    cases Query.Operator.ofSymbol? pair.1 <;> rfl

theorem findSome?_checkTerm (term : Nat) (path : String) (condition : Condition) :
    (checkTerm term path condition).findSome? refusal? = firstError (termChecks ((path, condition), term)) := by
  rw [termChecks, firstError_cons, checkTerm, Check.of, ← findSome?_checkPairs]
  cases (segments path).isEmpty <;> rfl

theorem refusal?_clauses (f : Filters) : refusal? f.clauses = firstError (f.terms.zipIdx.flatMap termChecks) := by
  suffices general : ∀ start, (checkTerms start f.terms).findSome? refusal? =
      firstError ((f.terms.zipIdx start).flatMap termChecks) from
    (refusal?_firstRefusal _).trans (general 0)
  induction f.terms with
  | nil => exact fun _ => rfl
  | cons term rest ih =>
    intro start
    rw [List.zipIdx_cons, List.flatMap_cons, firstError_append, ← ih, checkTerms, List.findSome?_append,
      findSome?_checkTerm]

theorem refusal?_place (key : SortKey) (number : Nat) :
    refusal? (key.place number) = firstError (keyChecks (key, number)) := by
  rw [SortKey.place, keyChecks, firstError_cons, firstError_cons, Check.of, Check.of]
  cases Query.Statement.readDirection? key.direction.toList with
  | none => rfl
  | some descending => cases (segments key.path).isEmpty <;> rfl

theorem refusal?_placeAll (sort : List SortKey) (start : Nat) :
    refusal? (SortKey.placeAll start sort) = firstError ((sort.zipIdx start).flatMap keyChecks) := by
  induction sort generalizing start with
  | nil => rfl
  | cons key rest ih =>
    rw [List.zipIdx_cons, List.flatMap_cons, firstError_append, ← ih, ← refusal?_place, SortKey.placeAll]
    cases key.place start with
    | error e => rfl
    | ok placed => cases SortKey.placeAll (start + 1) rest <;> rfl

/-- A query is refused with the first error that the checks of its options give. -/
theorem refusal?_query (collection : String) (o : Options) (d : Directory) :
    refusal? (query collection o d) = firstError o.checks := by
  rw [Options.checks, firstError_append, firstError_cons, ← refusal?_clauses, ← refusal?_placeAll, query, sliceCheck,
    Check.of]
  cases o.filters.clauses with
  | error e => rfl
  | ok clauses =>
    dsimp only
    split
    · rfl
    · cases SortKey.placeAll 0 o.sort <;> rfl

/-- Of checks at ascending places the first error is that of the least place. -/
theorem firstError_eq_some {checks : List Check} (ascending : checks.Pairwise fun a b => a.1.place < b.1.place)
    {e : ClientError} : firstError checks = some e ↔
      ∃ fault, (fault, some e) ∈ checks ∧ ∀ other e', (other, some e') ∈ checks → ¬other.place < fault.place := by
  constructor
  · intro first
    obtain ⟨before, ⟨fault, _⟩, after, rfl, rfl, clean⟩ := List.findSome?_eq_some_iff.mp first
    refine ⟨fault, by simp, fun other e' listed earlier => ?_⟩
    rcases List.mem_append.mp listed with here | here
    · exact absurd (clean _ here) (Option.some_ne_none e')
    · rcases List.mem_cons.mp here with same | later
      · obtain ⟨rfl, -⟩ := Prod.mk.inj same
        exact List.lt_irrefl _ earlier
      · have above := (List.pairwise_cons.mp (List.pairwise_append.mp ascending).2.1).1 _ later
        exact List.lt_asymm above earlier
  · rintro ⟨fault, listed, least⟩
    obtain ⟨before, after, rfl⟩ := List.append_of_mem listed
    refine List.findSome?_eq_some_iff.mpr ⟨before, _, after, rfl, rfl, fun earlier here => ?_⟩
    have below := (List.pairwise_append.mp ascending).2.2 earlier here (fault, some e) List.mem_cons_self
    obtain ⟨place, gives⟩ := earlier
    cases gives with
    | none => rfl
    | some e' => exact absurd below (least place e' (List.mem_append_left _ here))

theorem query_ok_iff {collection : String} {o : Options} {d : Directory} :
    (∃ q, query collection o d = .ok q) ↔ o.Valid := by
  rw [← refusal?_eq_none, refusal?_query, firstError, List.findSome?_eq_none_iff, Options.valid_iff]
  constructor
  · intro clean fault e violated
    exact Option.some_ne_none e (clean _ (mem_checks.mpr violated))
  · rintro none ⟨fault, gives⟩ listed
    cases gives with
    | none => rfl
    | some e => exact absurd (mem_checks.mp listed) (none fault e)

theorem query_error_iff {collection : String} {o : Options} {d : Directory} {e : ClientError} :
    query collection o d = .error e ↔ o.FirstViolation e := by
  simp only [← refusal?_eq_some, refusal?_query, firstError_eq_some (ascending_checks o), mem_checks,
    Options.FirstViolation]

end Find

/-! ### Refusals before the store is asked -/

/-- A program that ends with an error, alone or among others, before it has asked the store for anything. -/
structure Program.RefusesAtOnce {α : Type} (p : Program (Except ClientError α)) (e : ClientError) : Prop where
  among : ∀ turns w, (p.runAmong turns w).result = some (.error e) ∧ (p.runAmong turns w).calls = []
  alone : ∀ w, (p.run w).1 = some (.error e) ∧ (p.run w).2.store = w.store

theorem Database.note_refuses {α : Type} (types : List RecordType) (e : ClientError) :
    Program.RefusesAtOnce ((Database.note types).bind fun () => .done (.error e : Except ClientError α)) e := by
  refine ⟨fun turns w => ?_, fun w => ?_⟩
  · cases types <;> exact ⟨rfl, rfl⟩
  · cases types <;> exact ⟨rfl, rfl⟩

namespace RecordCollection

variable {ρ : Type} [Record ρ]

omit [Record ρ] in
theorem find_of_error {c : RecordCollection ρ} {o : Find.Options} {e : ClientError}
    (refused : Find.query c.name o c.db.directory = .error e) :
    c.find o = (Database.note (o.filters.asked c.db.directory)).bind fun () => .done (.error e) := by
  rw [find, refused]

omit [Record ρ] in
theorem find_refuses {c : RecordCollection ρ} {o : Find.Options} {e : ClientError} (first : o.FirstViolation e) :
    (c.find o).RefusesAtOnce e := by
  rw [find_of_error (Find.query_error_iff.mpr first)]
  exact Database.note_refuses _ e

theorem findOne_refuses {c : RecordCollection ρ} {filters : Find.Filters} {sort : List Find.SortKey}
    {raiseOnMultiple : Bool} {e : ClientError}
    (first : Find.Options.FirstViolation
      { filters := filters, sort := sort, limit := some (if raiseOnMultiple then 2 else 1) } e) :
    (c.findOne filters sort raiseOnMultiple).RefusesAtOnce e := by
  rw [findOne, find_of_error (Find.query_error_iff.mpr first), Program.andThen, Program.bind_assoc]
  exact Database.note_refuses _ e

/-- Options make a query exactly if nothing is wrong with them. Otherwise the first fault is told, filters first, then
the slice, then sort keys, and a search ends with that error before it has asked the store for anything. -/
theorem invalid_refused (c : RecordCollection ρ) (collection : String) (o : Find.Options) (d : Directory) :
    ((∃ q, Find.query collection o d = .ok q) ↔ o.Valid) ∧
    (∀ e, Find.query collection o d = .error e ↔ o.FirstViolation e) ∧
    (∀ e, o.FirstViolation e → (c.find o).RefusesAtOnce e) ∧
    ∀ filters sort raiseOnMultiple e,
      Find.Options.FirstViolation
        { filters := filters, sort := sort, limit := some (if raiseOnMultiple then 2 else 1) } e →
      (c.findOne filters sort raiseOnMultiple).RefusesAtOnce e :=
  ⟨Find.query_ok_iff, fun _ => Find.query_error_iff, fun _ first => find_refuses first,
    fun _ _ _ _ first => findOne_refuses first⟩

/-- Of many faults that of the second operator is told, which stands before all others. -/
theorem crowded_options_refused :
    let filters : Find.Filters := ⟨[("age", .operators [(">", .value (.ofNat 3)), ("~", .value .null)]),
      ("..", .literal (.value .null))]⟩
    let o : Find.Options := { filters := filters, sort := [⟨"", "up"⟩], offset := some 5 }
    let c : RecordCollection LockDocument := ⟨{}, "c"⟩
    let e : ClientError := .unsupportedOperator "age" "~"
    o.Violates (.filterPath 1) (.invalidQuery (.emptyFieldPath "..")) ∧
    o.Violates .slice (.invalidQuery .offsetWithoutLimit) ∧
    o.Violates (.direction 0) (.invalidSortDirection "" "up") ∧
    o.FirstViolation e ∧ (c.find o).RefusesAtOnce e ∧ (c.findOne filters [⟨"", "up"⟩] true).RefusesAtOnce e := by
  intro filters o c e
  obtain ⟨-, told, refuses, refusesOne⟩ := invalid_refused c "c" o c.db.directory
  have first : o.FirstViolation e := (told e).mp (by rfl)
  have one : Find.Options.FirstViolation { filters := filters, sort := [⟨"", "up"⟩], limit := some 2 } e :=
    Find.query_error_iff.mp (by rfl : Find.query "c" _ c.db.directory = _)
  refine ⟨?_, ?_, ?_, first, refuses e first, refusesOne filters [⟨"", "up"⟩] true e one⟩
  · exact .filterPath rfl (Find.segments_isEmpty.mp rfl)
  · exact .slice rfl (by decide) rfl
  · exact .direction (rfl : o.sort[0]? = some ⟨"", "up"⟩) (Find.readDirection?_isNone.mp rfl)

end RecordCollection
end RecordStore
