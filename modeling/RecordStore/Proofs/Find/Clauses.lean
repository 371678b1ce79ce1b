import Mathlib.Data.List.Nodup
import RecordStore.Find.Sort
import RecordStore.Proofs.Find.Parameters
import RecordStore.Query.Evaluation

/-!
# What filters and sort orders are compiled to

Compiling succeeds exactly when every check passes, and then there is one clause for each operator of each term
(`mem_clauses`). Filters that were built by calls ask for each operator of a path once, so their clauses are
`Consistent`; that the clauses hold of a document is that the filters keep it (`clauses_hold`).
-/

namespace RecordStore
namespace Find

/-! ### Filters built by calls -/

/-- A call that adds to filters. -/
inductive FilterCall where
  | eq (path : String) (operand : Operand)
  | op (path symbol : String) (operand : Operand)

namespace Filters

def call (f : Filters) : FilterCall → Filters
  | .eq path operand => f.eq path operand
  | .op path symbol operand => f.op path symbol operand

def ofCalls (calls : List FilterCall) : Filters := calls.foldl call {}

/-- Every term asks for each of its symbols once. -/
def Distinct (f : Filters) : Prop :=
  ∀ term ∈ f.terms, (term.2.pairs.map Prod.fst).Nodup

end Filters

theorem mem_put {α : Type} {name : String} {value : α} {entries : List (String × α)} {entry : String × α}
    (listed : entry ∈ put name value entries) : entry = (name, value) ∨ entry ∈ entries := by
  induction entries with
  | nil => exact .inl (List.mem_singleton.mp listed)
  | cons first rest ih =>
    obtain ⟨n, v⟩ := first
    unfold put at listed
    split at listed
    · exact (List.mem_cons.mp listed).imp id (List.mem_cons_of_mem _)
    · rcases List.mem_cons.mp listed with rfl | later
      · exact .inr List.mem_cons_self
      · exact (ih later).imp id (List.mem_cons_of_mem _)

theorem nodup_put {α : Type} (name : String) (value : α) {entries : List (String × α)}
    (distinct : (entries.map Prod.fst).Nodup) : ((put name value entries).map Prod.fst).Nodup := by
  induction entries with
  | nil => simp [put]
  | cons first rest ih =>
    obtain ⟨n, v⟩ := first
    obtain ⟨fresh, later⟩ := List.nodup_cons.mp distinct
    unfold put
    split
    · rename_i same
      exact same ▸ distinct
    · rename_i different
      refine List.nodup_cons.mpr ⟨fun here => ?_, ih later⟩
      obtain ⟨entry, listed, same⟩ := List.mem_map.mp here
      rcases mem_put listed with rfl | old
      · exact different same.symm
      · exact fresh (List.mem_map.mpr ⟨entry, old, same⟩)

/-- What every call makes of a condition holds of all conditions of filters that calls built. -/
theorem forall_ofCalls {P : Condition → Prop} (literal : ∀ operand, P (.literal operand))
    (single : ∀ symbol operand, P (.operators [(symbol, operand)]))
    (more : ∀ condition symbol operand, P condition → P (.operators (put symbol operand condition.pairs)))
    (calls : List FilterCall) : ∀ term ∈ (Filters.ofCalls calls).terms, P term.2 := by
  have step : ∀ (f : Filters) (call : FilterCall), (∀ term ∈ f.terms, P term.2) →
      ∀ term ∈ (f.call call).terms, P term.2 := by
    intro f call all term listed
    cases call with
    | eq path operand =>
      rcases mem_put listed with rfl | old
      · exact literal operand
      · exact all term old
    | op path symbol operand =>
      simp only [Filters.call, Filters.op] at listed
      split at listed
      · rcases mem_put listed with rfl | old
        · exact single symbol operand
        · exact all term old
      · rename_i condition found
        rcases mem_put listed with rfl | old
        · obtain ⟨before, after, split, -⟩ := List.lookup_eq_some_iff.mp found
          exact more condition symbol operand (all (path, condition) (by rw [split]; simp))
        · exact all term old
  suffices general : ∀ f : Filters, (∀ term ∈ f.terms, P term.2) →
      ∀ term ∈ (calls.foldl Filters.call f).terms, P term.2 from
    general {} fun _ listed => absurd listed List.not_mem_nil
  induction calls with
  | nil => exact fun _ all => all
  | cons call rest ih => exact fun f all => ih _ (step f call all)

theorem distinct_ofCalls (calls : List FilterCall) : (Filters.ofCalls calls).Distinct :=
  forall_ofCalls (fun _ => List.nodup_singleton _) (fun _ _ => List.nodup_singleton _)
    (fun _ symbol operand distinct => nodup_put symbol operand distinct) calls

/-- Filters that calls built ask something of every path that they mention. -/
theorem pairs_ne_nil_of_calls (calls : List FilterCall) : ∀ term ∈ (Filters.ofCalls calls).terms, term.2.pairs ≠ [] := by
  refine forall_ofCalls (P := fun condition => condition.pairs ≠ []) (fun _ => List.cons_ne_nil _ _)
    (fun _ _ => List.cons_ne_nil _ _) ?_ calls
  intro condition symbol operand _
  cases pairs : condition.pairs with
  | nil => exact List.cons_ne_nil _ _
  | cons pair rest =>
    show put symbol operand (pair :: rest) ≠ []
    unfold put
    split <;> exact List.cons_ne_nil _ _

/-! ### Clauses of filters -/

theorem firstRefusal_ok {checks : List Checked} {clauses : List Clause} :
    firstRefusal checks = .ok clauses ↔ checks = clauses.map .ok := by
  induction checks generalizing clauses with
  | nil => cases clauses <;> simp [firstRefusal]
  | cons check rest ih =>
    cases check with
    | error e => cases clauses <;> simp [firstRefusal]
    | ok clause =>
      rw [firstRefusal]
      cases later : firstRefusal rest with
      | error e =>
        refine ⟨nofun, fun checks => ?_⟩
        cases clauses with
        | nil => cases checks
        | cons first others =>
          rw [ih.mpr (List.cons.inj checks).2] at later
          cases later
      | ok others =>
        obtain rfl := ih.mp later
        cases clauses with
        | nil => simp
        | cons first more => simp [List.map_inj_right]

theorem firstRefusal_error {checks : List Checked} {e : ClientError} (refused : firstRefusal checks = .error e) :
    .error e ∈ checks := by
  induction checks with
  | nil => cases refused
  | cons check rest ih =>
    cases check with
    | error e' =>
      cases refused
      exact List.mem_cons_self
    | ok clause =>
      rw [firstRefusal] at refused
      split at refused
      · cases refused
      · rename_i later
        cases refused
        exact List.mem_cons_of_mem _ (ih later)

theorem ofSymbol?_eq_some {symbol : String} {op : Query.Operator} (found : Query.Operator.ofSymbol? symbol = some op) :
    op.symbol = symbol := by
  simpa using List.find?_some found

theorem ofSymbol?_symbol (op : Query.Operator) : Query.Operator.ofSymbol? op.symbol = some op :=
  (by decide +kernel : ∀ op ∈ Query.Operator.all, Query.Operator.ofSymbol? op.symbol = some op) op op.mem_all

theorem checkPair_ok {term : Nat} {path : String} {pair : String × Operand} {c : Clause}
    (passed : checkPair term path pair = .ok c) :
    c.term = term ∧ c.segments = segments path ∧ (c.operator.symbol, c.operand) = pair := by
  unfold checkPair at passed
  split at passed
  · rename_i op found
    obtain rfl := Except.ok.inj passed
    exact ⟨rfl, rfl, by rw [ofSymbol?_eq_some found]⟩
  · cases passed

theorem mem_checkTerm {term : Nat} {path : String} {condition : Condition} {c : Clause}
    (listed : .ok c ∈ checkTerm term path condition) :
    c.term = term ∧ c.segments = segments path ∧ c.segments ≠ [] ∧
      (c.operator.symbol, c.operand) ∈ condition.pairs := by
  unfold checkTerm at listed
  split at listed
  · simp at listed
  · rename_i nonempty
    obtain ⟨pair, member, passed⟩ := List.mem_map.mp listed
    obtain ⟨number, path, rfl⟩ := checkPair_ok passed
    exact ⟨number, path, by rw [path]; simpa using nonempty, member⟩

/-- What can be told of a clause from its term and its pair is told of all clauses from the terms that passed their
checks. -/
theorem map_of_terms {α : Type} (g : Clause → α) (told : Nat → List String → String × Operand → α)
    (agrees : ∀ c, g c = told c.term c.segments (c.operator.symbol, c.operand)) {start : Nat}
    {terms : List (String × Condition)} {clauses : List Clause} (passed : checkTerms start terms = clauses.map .ok) :
    clauses.map g = (terms.zipIdx start).flatMap fun (term, i) => term.2.pairs.map (told i (segments term.1)) := by
  have pairs : ∀ {i : Nat} {path : String} {pairs : List (String × Operand)} {clauses : List Clause},
      pairs.map (checkPair i path) = clauses.map .ok → clauses.map g = pairs.map (told i (segments path)) := by
    intro i path pairs
    induction pairs with
    | nil =>
      intro clauses passed
      obtain rfl := List.map_eq_nil_iff.mp passed.symm
      rfl
    | cons pair rest ih =>
      intro clauses passed
      obtain ⟨c, others, rfl, here, later⟩ := List.map_eq_cons_iff.mp passed.symm
      obtain ⟨number, path, rfl⟩ := checkPair_ok here.symm
      rw [List.map_cons, List.map_cons, ih later.symm, agrees, number, path]
  induction terms generalizing start clauses with
  | nil =>
    obtain rfl := List.map_eq_nil_iff.mp passed.symm
    rfl
  | cons term rest ih =>
    obtain ⟨path, condition⟩ := term
    obtain ⟨here, others, rfl, checked, later⟩ := List.map_eq_append_iff.mp passed.symm
    rw [checkTerm] at checked
    split at checked
    · obtain ⟨c, -, -, refused, -⟩ := List.map_eq_cons_iff.mp checked
      cases refused
    · rw [List.map_append, pairs checked.symm, ih later.symm]
      rfl

theorem mem_checkTerms {start : Nat} {terms : List (String × Condition)} {check : Checked} :
    check ∈ checkTerms start terms ↔
      ∃ i path condition, terms[i]? = some (path, condition) ∧ check ∈ checkTerm (start + i) path condition := by
  induction terms generalizing start with
  | nil => simp [checkTerms]
  | cons term rest ih =>
    obtain ⟨path, condition⟩ := term
    rw [checkTerms, List.mem_append, ih]
    constructor
    · rintro (here | ⟨i, path', condition', found, later⟩)
      · exact ⟨0, path, condition, rfl, here⟩
      · exact ⟨i + 1, path', condition', found, by rwa [← Nat.add_assoc, Nat.add_right_comm]⟩
    · rintro ⟨i, path', condition', found, here⟩
      cases i with
      | zero =>
        obtain ⟨rfl, rfl⟩ := Prod.mk.inj (Option.some.inj found)
        exact .inl here
      | succ i => exact .inr ⟨i, path', condition', found, by rwa [Nat.add_right_comm, Nat.add_assoc]⟩

section Compiled

variable {f : Filters} {clauses : List Clause}

theorem checkTerms_of_clauses (compiled : f.clauses = .ok clauses) : checkTerms 0 f.terms = clauses.map .ok :=
  firstRefusal_ok.mp compiled

/-- Each clause asks for one operator of the term that it is numbered after. -/
theorem term_of_clause (compiled : f.clauses = .ok clauses) {c : Clause} (listed : c ∈ clauses) :
    ∃ path condition, f.terms[c.term]? = some (path, condition) ∧ c.segments = segments path ∧ c.segments ≠ [] ∧
      (c.operator.symbol, c.operand) ∈ condition.pairs := by
  have checked : .ok c ∈ checkTerms 0 f.terms := by
    rw [checkTerms_of_clauses compiled]
    exact List.mem_map_of_mem listed
  obtain ⟨i, path, condition, found, here⟩ := mem_checkTerms.mp checked
  obtain ⟨number, segments, nonempty, asked⟩ := mem_checkTerm here
  rw [Nat.zero_add] at number
  exact ⟨path, condition, number ▸ found, segments, nonempty, asked⟩

/-- Each operator of each term has a clause. -/
theorem clause_of_pair (compiled : f.clauses = .ok clauses) {path : String} {condition : Condition}
    (listed : (path, condition) ∈ f.terms) {symbol : String} {operand : Operand}
    (asked : (symbol, operand) ∈ condition.pairs) :
    ∃ c ∈ clauses, c.segments = segments path ∧ c.operator.symbol = symbol ∧ c.operand = operand := by
  obtain ⟨i, found⟩ := List.mem_iff_getElem?.mp listed
  have passes : ∀ check ∈ checkTerm (0 + i) path condition, ∃ c ∈ clauses, check = .ok c := by
    intro check here
    have checked := mem_checkTerms.mpr ⟨i, path, condition, found, here⟩
    rw [checkTerms_of_clauses compiled] at checked
    obtain ⟨c, member, same⟩ := List.mem_map.mp checked
    exact ⟨c, member, same.symm⟩
  unfold checkTerm at passes
  split at passes
  · obtain ⟨c, -, clash⟩ := passes _ (List.mem_singleton.mpr rfl)
    cases clash
  · obtain ⟨c, member, passed⟩ := passes _ (List.mem_map_of_mem asked)
    obtain ⟨-, path, pair⟩ := checkPair_ok passed
    obtain ⟨symbol, operand⟩ := Prod.mk.inj pair
    exact ⟨c, member, path, symbol, operand⟩

end Compiled

namespace Filters

/-- Whether every operator of every term holds on a document. -/
def keeps (f : Filters) (d : Directory) (document : Value) : Bool :=
  f.terms.all fun (path, condition) => condition.pairs.all fun (symbol, operand) =>
    (Query.Operator.read? symbol).any fun op => op.holds (document.lookup (segments path)) (operand.resolve d)

end Filters

def Clause.holds (c : Clause) (d : Directory) (document : Value) : Bool :=
  c.operator.holds (document.lookup c.segments) (c.operand.resolve d)

/-- The clauses hold on a document exactly when the filters keep it. -/
theorem clauses_hold {f : Filters} {clauses : List Clause} (compiled : f.clauses = .ok clauses) (d : Directory)
    (document : Value) : clauses.all (·.holds d document) = f.keeps d document := by
  rw [Bool.eq_iff_iff, List.all_eq_true, Filters.keeps, List.all_eq_true]
  constructor
  · rintro all ⟨path, condition⟩ listed
    refine List.all_eq_true.mpr fun ⟨symbol, operand⟩ asked => ?_
    obtain ⟨c, member, segments, rfl, rfl⟩ := clause_of_pair compiled listed asked
    have holds := all c member
    rw [Clause.holds, segments] at holds
    simpa [c.operator.read?_symbol] using holds
  · intro kept c listed
    obtain ⟨path, condition, found, segments, -, asked⟩ := term_of_clause compiled listed
    have holds := List.all_eq_true.mp (kept (path, condition) (List.mem_of_getElem? found)) _ asked
    rw [Clause.holds, segments]
    simpa [c.operator.read?_symbol] using holds

/-! ### Sort keys -/

namespace SortKey

def key (k : SortKey) : Query.Key :=
  ⟨segments k.path, Query.Statement.readDirection? k.direction.toList = some true⟩

theorem place_ok {k : SortKey} {number : Nat} {placed : Placed} (passed : k.place number = .ok placed) :
    placed.number = number ∧ placed.segments ≠ [] ∧ k.key = ⟨placed.segments, placed.descending⟩ := by
  unfold place at passed
  split at passed
  · cases passed
  · rename_i descending read
    split at passed
    · cases passed
    · rename_i nonempty
      obtain rfl := Except.ok.inj passed
      refine ⟨rfl, by simpa using nonempty, ?_⟩
      rw [key, read]
      cases descending <;> rfl

theorem placeAll_cons {number : Nat} {k : SortKey} {rest : List SortKey} {placed : List Placed}
    (passed : placeAll number (k :: rest) = .ok placed) :
    ∃ first others, k.place number = .ok first ∧ placeAll (number + 1) rest = .ok others ∧
      placed = first :: others := by
  rw [placeAll] at passed
  split at passed
  · cases passed
  · rename_i first here
    split at passed
    · cases passed
    · rename_i others later
      exact ⟨first, others, here, later, (Except.ok.inj passed).symm⟩

/-- Placed keys are numbered from a number on, have paths, and order as they were asked to. -/
theorem placeAll_ok {number : Nat} {sort : List SortKey} {placed : List Placed}
    (passed : placeAll number sort = .ok placed) :
    (∀ k ∈ placed, number ≤ k.number ∧ k.segments ≠ []) ∧ (placed.map Placed.number).Nodup ∧
      sort.map key = placed.map fun k => ⟨k.segments, k.descending⟩ := by
  induction sort generalizing number placed with
  | nil =>
    obtain rfl := Except.ok.inj passed
    exact ⟨fun _ listed => absurd listed List.not_mem_nil, .nil, rfl⟩
  | cons k rest ih =>
    obtain ⟨first, others, here, later, rfl⟩ := placeAll_cons passed
    obtain ⟨here, nonempty, ordered⟩ := place_ok here
    obtain ⟨above, distinct, orders⟩ := ih later
    refine ⟨List.forall_mem_cons.mpr ⟨⟨Nat.le_of_eq here.symm, nonempty⟩, fun other listed => ?_⟩,
      List.nodup_cons.mpr ⟨fun listed => ?_, distinct⟩, ?_⟩
    · exact ⟨Nat.le_of_succ_le (above other listed).1, (above other listed).2⟩
    · obtain ⟨other, member, same⟩ := List.mem_map.mp listed
      have greater := (above other member).1
      omega
    · rw [List.map_cons, List.map_cons, ordered, orders]

end SortKey

/-! ### Refusals -/

/-- A refusal to compile, which names the path, the operator or the direction that is to blame. -/
def IsRefusal (e : ClientError) : Prop :=
  (∃ reason, e = .invalidQuery reason) ∨ (∃ path symbol, e = .unsupportedOperator path symbol) ∨
    ∃ path direction, e = .invalidSortDirection path direction

theorem isRefusal_of_clauses {f : Filters} {e : ClientError} (refused : f.clauses = .error e) : IsRefusal e := by
  obtain ⟨i, path, condition, -, here⟩ := mem_checkTerms.mp (firstRefusal_error refused)
  unfold checkTerm at here
  split at here
  · obtain rfl := Except.error.inj (List.mem_singleton.mp here)
    exact .inl ⟨_, rfl⟩
  · obtain ⟨pair, -, checked⟩ := List.mem_map.mp here
    unfold checkPair at checked
    split at checked
    · cases checked
    · cases checked
      exact .inr (.inl ⟨_, _, rfl⟩)

theorem isRefusal_of_placeAll {number : Nat} {sort : List SortKey} {e : ClientError}
    (refused : SortKey.placeAll number sort = .error e) : IsRefusal e := by
  induction sort generalizing number with
  | nil => cases refused
  | cons k rest ih =>
    rw [SortKey.placeAll] at refused
    split at refused
    · rename_i here
      cases refused
      unfold SortKey.place at here
      split at here
      · cases here
        exact .inr (.inr ⟨_, _, rfl⟩)
      · split at here
        · cases here
          exact .inl ⟨_, rfl⟩
        · cases here
    · split at refused
      · rename_i later
        cases refused
        exact ih later
      · cases refused

/-- What filters and sort orders are compiled to is consistent. -/
theorem consistent_of_compiled {f : Filters} (distinct : f.Distinct) {clauses : List Clause}
    (compiled : f.clauses = .ok clauses) {sort : List SortKey} {keys : List Placed}
    (placed : SortKey.placeAll 0 sort = .ok keys) : Consistent clauses keys where
  segments a inA b inB same := by
    obtain ⟨path, condition, foundA, segmentsA, -, -⟩ := term_of_clause compiled inA
    obtain ⟨path', condition', foundB, segmentsB, -, -⟩ := term_of_clause compiled inB
    rw [same, foundB] at foundA
    obtain ⟨rfl, -⟩ := Prod.mk.inj (Option.some.inj foundA)
    rw [segmentsA, segmentsB]
  operand a inA b inB same alike := by
    obtain ⟨path, condition, foundA, -, -, askedA⟩ := term_of_clause compiled inA
    obtain ⟨path', condition', foundB, -, -, askedB⟩ := term_of_clause compiled inB
    rw [same, foundB] at foundA
    obtain ⟨rfl, rfl⟩ := Prod.mk.inj (Option.some.inj foundA)
    rw [alike] at askedA
    have once := distinct _ (List.mem_of_getElem? foundB)
    exact congrArg Prod.snd (List.inj_on_of_nodup_map once askedA askedB rfl)
  keys a inA b inB same := by
    rw [List.inj_on_of_nodup_map (SortKey.placeAll_ok placed).2.1 inA inB same]

end Find
end RecordStore
