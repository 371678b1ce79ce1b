import Mathlib.Algebra.GroupWithZero.Nat
import Mathlib.Data.List.DropRight
import Mathlib.Logic.Function.Basic
import RecordStore.Proofs.Find.Form

/-!
# Filters are ordered maps

Filters that calls build are an ordered map from paths to ordered maps from symbols to operands. What a path still asks
for can be told from the calls alone: from its last `eq` on, every symbol stands where it was first mentioned and has the
operand that it was given last (`get?_foldl_call`). Compiled, each operator of each path has one expression, and no two
parameters share a name (`calls_mapped`).
-/

namespace RecordStore
namespace Find

/-! ### Ordered maps -/

/-- A map that remembers the order in which its keys were first set. -/
structure OrderedMap (α : Type) where
  keys : List String := []
  get? : String → Option α := fun _ => none

namespace OrderedMap

variable {α β : Type}

/-- Sets a key, which keeps its place if it has one. -/
def set (m : OrderedMap α) (key : String) (value : α) : OrderedMap α where
  keys := if key ∈ m.keys then m.keys else m.keys ++ [key]
  get? := Function.update m.get? key (some value)

theorem get?_set (m : OrderedMap α) (key : String) (value : α) (other : String) :
    (m.set key value).get? other = if other = key then some value else m.get? other :=
  Function.update_apply ..

def ofEntries (entries : List (String × α)) : OrderedMap α where
  keys := entries.map Prod.fst
  get? key := entries.lookup key

theorem get?_ofEntries (entries : List (String × α)) (key : String) : (ofEntries entries).get? key = entries.lookup key :=
  rfl

def ofSettings (settings : List (String × α)) : OrderedMap α :=
  settings.foldl (fun m setting => m.set setting.1 setting.2) {}

theorem ofSettings_concat (settings : List (String × α)) (setting : String × α) :
    ofSettings (settings ++ [setting]) = (ofSettings settings).set setting.1 setting.2 :=
  List.foldl_concat ..

theorem eraseDups_concat (names : List String) (name : String) :
    (names ++ [name]).eraseDups = if name ∈ names then names.eraseDups else names.eraseDups ++ [name] := by
  rw [List.eraseDups_append]
  split
  · rename_i listed
    simp [List.removeAll, listed]
  · rename_i fresh
    simp [List.removeAll, fresh, List.eraseDups_cons]

theorem keys_ofSettings (settings : List (String × α)) :
    (ofSettings settings).keys = (settings.map Prod.fst).eraseDups := by
  induction settings using List.reverseRecOn with
  | nil => rfl
  | append_singleton settings setting ih =>
    rw [ofSettings_concat, List.map_append, List.map_singleton, eraseDups_concat, set, ih]
    simp only [List.mem_eraseDups]

theorem get?_ofSettings (settings : List (String × α)) (key : String) :
    (ofSettings settings).get? key = ((settings.filter (·.1 = key)).getLast?).map Prod.snd := by
  induction settings using List.reverseRecOn with
  | nil => rfl
  | append_singleton settings setting ih =>
    rw [ofSettings_concat, List.filter_append]
    by_cases same : setting.1 = key
    · simp [get?_set, same]
    · simp [get?_set, ih, same, Ne.symm same]

theorem lookup_cons_eq (name : String) (value : α) (rest : List (String × α)) (key : String) :
    ((name, value) :: rest).lookup key = if key = name then some value else rest.lookup key := by
  rw [List.lookup_cons]
  by_cases same : key = name
  · simp [same]
  · simp [same, beq_eq_false_iff_ne.mpr same]

theorem map_fst_put (name : String) (value : α) (entries : List (String × α)) :
    (put name value entries).map Prod.fst =
      if name ∈ entries.map Prod.fst then entries.map Prod.fst else entries.map Prod.fst ++ [name] := by
  induction entries with
  | nil => rfl
  | cons entry rest ih =>
    obtain ⟨n, v⟩ := entry
    unfold put
    by_cases same : n = name
    · simp [same]
    · rw [if_neg same, List.map_cons, ih]
      by_cases later : name ∈ rest.map Prod.fst
      · simp [later]
      · simp [later, Ne.symm same]

theorem lookup_put (name : String) (value : α) (entries : List (String × α)) (key : String) :
    (put name value entries).lookup key = if key = name then some value else entries.lookup key := by
  induction entries with
  | nil => exact lookup_cons_eq name value [] key
  | cons entry rest ih =>
    obtain ⟨n, v⟩ := entry
    unfold put
    rw [lookup_cons_eq]
    by_cases same : n = name
    · subst same
      rw [if_pos rfl, lookup_cons_eq]
      split <;> rfl
    · rw [if_neg same, lookup_cons_eq, ih]
      by_cases here : key = n
      · rw [if_pos here, if_neg (here ▸ same), if_pos here]
      · rw [if_neg here, if_neg here]

theorem ofEntries_put (name : String) (value : α) (entries : List (String × α)) :
    ofEntries (put name value entries) = (ofEntries entries).set name value := by
  rw [ofEntries, set, map_fst_put]
  refine congrArg (mk _) (funext fun key => ?_)
  rw [lookup_put, Function.update_apply]
  rfl

theorem map_put (f : α → β) (name : String) (value : α) (entries : List (String × α)) :
    (put name value entries).map (fun entry => (entry.1, f entry.2)) =
      put name (f value) (entries.map fun entry => (entry.1, f entry.2)) := by
  induction entries with
  | nil => rfl
  | cons entry rest ih =>
    obtain ⟨n, v⟩ := entry
    rw [List.map_cons, put, put]
    split
    · rfl
    · rw [List.map_cons, ih]

theorem lookup_map (f : α → β) (entries : List (String × α)) (key : String) :
    (entries.map fun entry => (entry.1, f entry.2)).lookup key = (entries.lookup key).map f := by
  induction entries with
  | nil => rfl
  | cons entry rest ih =>
    obtain ⟨n, v⟩ := entry
    rw [List.map_cons, lookup_cons_eq, lookup_cons_eq, ih]
    split <;> rfl

end OrderedMap

/-! ### The map of filters -/

namespace OrderedMap

/-- What is asked of paths after a call: `eq` starts its path anew, and `op` sets one symbol. -/
def call (m : OrderedMap (OrderedMap Operand)) : FilterCall → OrderedMap (OrderedMap Operand)
  | .eq path operand => m.set path (({} : OrderedMap Operand).set Query.Operator.equal.symbol operand)
  | .op path symbol operand => m.set path (((m.get? path).getD {}).set symbol operand)

end OrderedMap

namespace Filters

def mapping (f : Filters) : OrderedMap (OrderedMap Operand) :=
  .ofEntries (f.terms.map fun term => (term.1, .ofEntries term.2.pairs))

theorem get?_mapping (f : Filters) (path : String) :
    f.mapping.get? path = (f.terms.lookup path).map fun condition => .ofEntries condition.pairs :=
  OrderedMap.lookup_map (fun condition : Condition => OrderedMap.ofEntries condition.pairs) f.terms path

theorem mapping_put (path : String) (condition : Condition) (terms : List (String × Condition)) :
    mapping ⟨put path condition terms⟩ = (mapping ⟨terms⟩).set path (.ofEntries condition.pairs) := by
  rw [mapping, OrderedMap.map_put fun condition : Condition => OrderedMap.ofEntries condition.pairs,
    OrderedMap.ofEntries_put]
  rfl

theorem mapping_call (f : Filters) (c : FilterCall) : (f.call c).mapping = f.mapping.call c := by
  cases c with
  | eq path operand =>
    have single : OrderedMap.ofEntries (Condition.literal operand).pairs =
        ({} : OrderedMap Operand).set Query.Operator.equal.symbol operand := OrderedMap.ofEntries_put _ operand []
    rw [call, eq, mapping_put, single]
    rfl
  | op path symbol operand =>
    rw [OrderedMap.call, get?_mapping, call, op]
    cases f.terms.lookup path with
    | none =>
      have single : OrderedMap.ofEntries (Condition.operators [(symbol, operand)]).pairs =
          ({} : OrderedMap Operand).set symbol operand := OrderedMap.ofEntries_put symbol operand []
      rw [mapping_put, single]
      rfl
    | some condition =>
      rw [mapping_put]
      exact congrArg (f.mapping.set path) (OrderedMap.ofEntries_put symbol operand condition.pairs)

theorem mapping_ofCalls (calls : List FilterCall) : (ofCalls calls).mapping = calls.foldl OrderedMap.call {} := by
  induction calls using List.reverseRecOn with
  | nil => rfl
  | append_singleton calls c ih =>
    rw [List.foldl_concat, ← ih, ← mapping_call, ofCalls, List.foldl_concat]
    rfl

end Filters

/-! ### What calls still ask for -/

namespace FilterCall

def path : FilterCall → String
  | eq path _ | op path _ _ => path

def symbol : FilterCall → String
  | eq _ _ => Query.Operator.equal.symbol
  | op _ symbol _ => symbol

def operand : FilterCall → Operand
  | eq _ operand | op _ _ operand => operand

/-- Whether a call takes the place of all that was asked of its path. -/
def restarts : FilterCall → Bool
  | eq _ _ => true
  | op _ _ _ => false

/-- The calls that still count for a path: its last `eq`, and the calls after it. -/
def since (path : String) (calls : List FilterCall) : List FilterCall :=
  let own := calls.filter (·.path = path)
  (own.rdropWhile (!·.restarts)).getLast?.toList ++ own.rtakeWhile (!·.restarts)

theorem since_concat (path : String) (calls : List FilterCall) (c : FilterCall) :
    since path (calls ++ [c]) =
      if c.path = path then if c.restarts then [c] else since path calls ++ [c] else since path calls := by
  by_cases own : c.path = path
  · rw [if_pos own, since, List.filter_append, List.filter_singleton, decide_eq_true own]
    split
    · rename_i restarts
      simp [restarts]
    · rename_i plain
      simp [since, plain]
  · simp [since, own]

theorem since_of_notMem {path : String} {calls : List FilterCall} (fresh : path ∉ calls.map FilterCall.path) :
    since path calls = [] := by
  have none : calls.filter (·.path = path) = [] := by
    rw [List.filter_eq_nil_iff]
    intro c listed same
    exact fresh (List.mem_map.mpr ⟨c, listed, of_decide_eq_true same⟩)
  simp [since, none]

def entry (path : String) (calls : List FilterCall) : OrderedMap Operand :=
  .ofSettings ((since path calls).map fun c => (c.symbol, c.operand))

theorem entry_concat (path : String) (calls : List FilterCall) (c : FilterCall) :
    entry path (calls ++ [c]) =
      if c.path = path then (if c.restarts then {} else entry path calls).set c.symbol c.operand
      else entry path calls := by
  unfold entry
  rw [since_concat]
  split
  · split
    · rfl
    · rw [List.map_append, List.map_singleton, OrderedMap.ofSettings_concat]
  · rfl

end FilterCall

theorem call_eq (m : OrderedMap (OrderedMap Operand)) (c : FilterCall) :
    m.call c = m.set c.path ((if c.restarts then {} else (m.get? c.path).getD {}).set c.symbol c.operand) := by
  cases c <;> rfl

/-- Paths stand in the order in which they were first mentioned. -/
theorem keys_foldl_call (calls : List FilterCall) :
    (calls.foldl OrderedMap.call {}).keys = (calls.map FilterCall.path).eraseDups := by
  induction calls using List.reverseRecOn with
  | nil => rfl
  | append_singleton calls c ih =>
    rw [List.foldl_concat, call_eq, OrderedMap.set, ih, List.map_append, List.map_singleton,
      OrderedMap.eraseDups_concat]
    simp only [List.mem_eraseDups]

/-- What is asked of a path is what the calls make that still count for it. -/
theorem get?_foldl_call (calls : List FilterCall) (path : String) :
    (calls.foldl OrderedMap.call {}).get? path =
      if path ∈ calls.map FilterCall.path then some (FilterCall.entry path calls) else none := by
  induction calls using List.reverseRecOn with
  | nil => rfl
  | append_singleton calls c ih =>
    rw [List.foldl_concat, call_eq, OrderedMap.get?_set, FilterCall.entry_concat]
    by_cases own : path = c.path
    · subst own
      have before : ((calls.foldl OrderedMap.call {}).get? c.path).getD {} = FilterCall.entry c.path calls := by
        rw [ih]
        split
        · rfl
        · rename_i fresh
          rw [FilterCall.entry, FilterCall.since_of_notMem fresh]
          rfl
      have mentioned : c.path ∈ (calls ++ [c]).map FilterCall.path :=
        List.mem_map_of_mem (List.mem_append_right _ List.mem_cons_self)
      rw [if_pos rfl, if_pos rfl, if_pos mentioned, before]
    · have mentioned : path ∈ (calls ++ [c]).map FilterCall.path ↔ path ∈ calls.map FilterCall.path := by
        simp [own]
      rw [if_neg own, if_neg (Ne.symm own), ih]
      exact if_congr mentioned.symm rfl rfl

/-! ### Terms that calls build -/

theorem nodup_eraseDups (names : List String) : names.eraseDups.Nodup := by
  induction names using List.reverseRecOn with
  | nil => exact .nil
  | append_singleton names name ih =>
    rw [OrderedMap.eraseDups_concat]
    split
    · exact ih
    · rename_i fresh
      refine List.nodup_append.mpr ⟨ih, List.nodup_singleton name, ?_⟩
      rintro other listed _ here rfl
      exact fresh (List.mem_eraseDups.mp (List.mem_singleton.mp here ▸ listed))

theorem lookup_of_mem {α : Type} {entries : List (String × α)} (distinct : (entries.map Prod.fst).Nodup)
    {entry : String × α} (listed : entry ∈ entries) : entries.lookup entry.1 = some entry.2 := by
  obtain ⟨before, after, rfl⟩ := List.append_of_mem listed
  rw [List.map_append, List.nodup_append] at distinct
  refine List.lookup_eq_some_iff.mpr ⟨before, after, rfl, fun other earlier => ?_⟩
  exact bne_iff_ne.mpr (distinct.2.2 other.1 (List.mem_map_of_mem earlier) entry.1 List.mem_cons_self).symm

namespace Filters

/-- Filters are what calls still ask for: every path and every symbol once, where they were first mentioned, and with the
operand that was given last. -/
structure Mapped (f : Filters) (calls : List FilterCall) : Prop where
  mapping : f.mapping = calls.foldl OrderedMap.call {}
  paths : f.terms.map Prod.fst = (calls.map FilterCall.path).eraseDups
  distinct : (f.terms.map Prod.fst).Nodup
  symbols : ∀ term ∈ f.terms,
    term.2.pairs.map Prod.fst = ((FilterCall.since term.1 calls).map FilterCall.symbol).eraseDups
  single : ∀ term ∈ f.terms, (term.2.pairs.map Prod.fst).Nodup
  operands : ∀ term ∈ f.terms, ∀ pair ∈ term.2.pairs,
    (((FilterCall.since term.1 calls).filter (·.symbol = pair.1)).getLast?).map FilterCall.operand = some pair.2

theorem mapped_ofCalls (calls : List FilterCall) : (ofCalls calls).Mapped calls := by
  have mapping := mapping_ofCalls calls
  have paths : (ofCalls calls).terms.map Prod.fst = (calls.map FilterCall.path).eraseDups := by
    rw [← keys_foldl_call, ← mapping]
    simp [Filters.mapping, OrderedMap.ofEntries]
  have distinct : ((ofCalls calls).terms.map Prod.fst).Nodup := paths ▸ nodup_eraseDups _
  -- each path is asked for what the calls make that still count for it
  have asked : ∀ term ∈ (ofCalls calls).terms, OrderedMap.ofEntries term.2.pairs = FilterCall.entry term.1 calls := by
    intro term listed
    have mentioned : term.1 ∈ calls.map FilterCall.path := by
      rw [← List.mem_eraseDups, ← paths]
      exact List.mem_map_of_mem listed
    have found := get?_foldl_call calls term.1
    rw [if_pos mentioned, ← mapping] at found
    rw [get?_mapping, lookup_of_mem distinct listed] at found
    exact Option.some.inj found
  have single := distinct_ofCalls calls
  refine ⟨mapping, paths, distinct, fun term listed => ?_, single, fun term listed pair given => ?_⟩
  · have keys := congrArg OrderedMap.keys (asked term listed)
    rw [FilterCall.entry, OrderedMap.keys_ofSettings, List.map_map] at keys
    exact keys
  · have value := congrFun (congrArg OrderedMap.get? (asked term listed)) pair.1
    rw [FilterCall.entry, OrderedMap.get?_ofSettings, List.filter_map, List.getLast?_map, Option.map_map,
      OrderedMap.get?_ofEntries, lookup_of_mem (single term listed) given] at value
    exact value.symm

end Filters

/-! ### Expressions and parameters of compiled filters -/

namespace Filters

/-- What filters ask, one operator after another: the number of the term, its path, a symbol and an operand. -/
def comparisons (f : Filters) : List (Nat × List String × String × Operand) :=
  f.terms.zipIdx.flatMap fun (term, i) => term.2.pairs.map fun pair => (i, segments term.1, pair.1, pair.2)

theorem mem_comparisons {f : Filters} {i : Nat} {path : List String} {symbol : String} {operand : Operand} :
    (i, path, symbol, operand) ∈ f.comparisons ↔
      ∃ term, f.terms[i]? = some term ∧ path = segments term.1 ∧ (symbol, operand) ∈ term.2.pairs := by
  rw [comparisons, List.mem_flatMap]
  constructor
  · rintro ⟨⟨term, j⟩, listed, here⟩
    obtain ⟨pair, given, same⟩ := List.mem_map.mp here
    obtain ⟨rfl, rest⟩ := Prod.mk.inj same
    obtain ⟨rfl, asked⟩ := Prod.mk.inj rest
    exact ⟨term, List.mem_zipIdx_iff_getElem?.mp listed, rfl, asked ▸ given⟩
  · rintro ⟨term, found, rfl, given⟩
    exact ⟨(term, i), List.mem_zipIdx_iff_getElem?.mpr found, List.mem_map.mpr ⟨_, given, rfl⟩⟩

/-- The parameters of a term with a number: those of its path, then those of its operators. -/
def termParameters (i : Nat) (term : String × Condition) : List Parameter :=
  (List.range (segments term.1).length).map (.field i) ++
    (term.2.pairs.map Prod.fst).filterMap fun symbol => (Query.Operator.ofSymbol? symbol).map (.operand i)

theorem mem_termParameters {i : Nat} {term : String × Condition} {p : Parameter} :
    p ∈ termParameters i term ↔ (∃ position < (segments term.1).length, p = .field i position) ∨
      ∃ op : Query.Operator, op.symbol ∈ term.2.pairs.map Prod.fst ∧ p = .operand i op := by
  rw [termParameters, List.mem_append, List.mem_map, List.mem_filterMap]
  refine or_congr (exists_congr fun position => ?_) ⟨?_, ?_⟩
  · rw [List.mem_range]
    exact and_congr_right fun _ => eq_comm
  · rintro ⟨symbol, asked, known⟩
    obtain ⟨op, read, rfl⟩ := Option.map_eq_some_iff.mp known
    exact ⟨op, ofSymbol?_eq_some read ▸ asked, rfl⟩
  · rintro ⟨op, asked, rfl⟩
    exact ⟨op.symbol, asked, by rw [ofSymbol?_symbol]; rfl⟩

theorem nodup_termParameters {i : Nat} {term : String × Condition} (single : (term.2.pairs.map Prod.fst).Nodup) :
    (termParameters i term).Nodup := by
  refine List.nodup_append.mpr ⟨?_, ?_, ?_⟩
  · exact List.Nodup.map (fun _ _ same => (Parameter.field.inj same).2) List.nodup_range
  · refine List.Nodup.filterMap (fun symbol other p here there => ?_) single
    obtain ⟨op, known, rfl⟩ := Option.map_eq_some_iff.mp here
    obtain ⟨op', known', same⟩ := Option.map_eq_some_iff.mp there
    obtain rfl := (Parameter.operand.inj same).2
    rw [← ofSymbol?_eq_some known, ← ofSymbol?_eq_some known']
  · rintro _ here _ there rfl
    obtain ⟨position, -, rfl⟩ := List.mem_map.mp here
    obtain ⟨symbol, -, known⟩ := List.mem_filterMap.mp there
    obtain ⟨op, -, ⟨⟩⟩ := Option.map_eq_some_iff.mp known

theorem length_termParameters {i : Nat} {term : String × Condition}
    (known : ∀ pair ∈ term.2.pairs, ∃ op : Query.Operator, op.symbol = pair.1) :
    (termParameters i term).length = (segments term.1).length + term.2.pairs.length := by
  have all : ∀ symbol ∈ term.2.pairs.map Prod.fst,
      ((Query.Operator.ofSymbol? symbol).map (Parameter.operand i)).isSome := by
    intro symbol listed
    obtain ⟨pair, given, rfl⟩ := List.mem_map.mp listed
    obtain ⟨op, named⟩ := known pair given
    rw [← named, ofSymbol?_symbol]
    rfl
  rw [termParameters, List.length_append, List.length_map, List.length_range,
    List.filterMap_length_eq_length.mpr all, List.length_map]

def parameters (f : Filters) : List Parameter :=
  f.terms.zipIdx.flatMap fun entry => termParameters entry.2 entry.1

theorem mem_parameters {f : Filters} {p : Parameter} :
    p ∈ f.parameters ↔ ∃ i term, f.terms[i]? = some term ∧ p ∈ termParameters i term := by
  rw [parameters, List.mem_flatMap]
  constructor
  · rintro ⟨⟨term, i⟩, listed, here⟩
    exact ⟨i, term, List.mem_zipIdx_iff_getElem?.mp listed, here⟩
  · rintro ⟨i, term, found, here⟩
    exact ⟨(term, i), List.mem_zipIdx_iff_getElem?.mpr found, here⟩

theorem nodup_parameters {f : Filters} (distinct : f.Distinct) : f.parameters.Nodup := by
  refine List.nodup_flatMap.mpr ⟨fun entry listed => ?_, ?_⟩
  · exact nodup_termParameters (distinct _ (List.mem_of_getElem? (List.mem_zipIdx_iff_getElem?.mp listed)))
  · -- parameters of different terms have different numbers
    have numbers : (f.terms.zipIdx.map Prod.snd).Nodup := by
      rw [List.zipIdx_map_snd]
      exact List.nodup_range'
    refine (List.pairwise_map.mp numbers).imp fun different p here there => different ?_
    rcases mem_termParameters.mp here with ⟨position, -, rfl⟩ | ⟨op, -, rfl⟩ <;>
      rcases mem_termParameters.mp there with ⟨_, -, same⟩ | ⟨_, -, same⟩
    · exact (Parameter.field.inj same).1
    · cases same
    · cases same
    · exact (Parameter.operand.inj same).1

end Filters

/-- How a comparison is written over a loop variable: a parameter for each segment, the symbol, and a parameter that is
named after the token of the operator. -/
def expression (loop : String) : Nat × List String × String × Operand → String
  | (term, path, symbol, _) =>
    loop ++ "." ++
      ".".intercalate ((List.range path.length).map fun position => "@" ++ (Parameter.field term position).name) ++
      " " ++ symbol ++ " @" ++ ("field_" ++ toString term ++ "_" ++
        ((Query.Operator.ofSymbol? symbol).map Query.Operator.token).getD "")

namespace Clause

def comparison (c : Clause) : Nat × List String × String × Operand :=
  (c.term, c.segments, c.operator.symbol, c.operand)

theorem text_eq (c : Clause) (loop : String) : c.text loop = expression loop c.comparison := by
  rw [comparison, expression, ofSymbol?_symbol]
  rfl

theorem mem_names {c : Clause} {name : String} :
    name ∈ c.names ↔ (∃ position < c.segments.length, name = (Parameter.field c.term position).name) ∨
      name = (Parameter.operand c.term c.operator).name := by
  rw [names, List.mem_append, List.mem_map, List.mem_singleton]
  refine or_congr (exists_congr fun position => ?_) Iff.rfl
  rw [List.mem_range]
  exact and_congr_right fun _ => eq_comm

end Clause

section Compiled

variable {f : Filters} {clauses : List Clause}

theorem comparisons_of_clauses (compiled : f.clauses = .ok clauses) : clauses.map (·.comparison) = f.comparisons :=
  map_of_terms Clause.comparison (fun i path pair => (i, path, pair.1, pair.2)) (fun _ => rfl)
    (checkTerms_of_clauses compiled)

/-- Each operator that is asked for has a clause. -/
theorem clause_of_comparison (compiled : f.clauses = .ok clauses) {i : Nat} {term : String × Condition}
    (found : f.terms[i]? = some term) {pair : String × Operand} (given : pair ∈ term.2.pairs) :
    ∃ c ∈ clauses, c.term = i ∧ c.segments = segments term.1 ∧ c.operator.symbol = pair.1 := by
  have asked : (i, segments term.1, pair.1, pair.2) ∈ clauses.map (·.comparison) := by
    rw [comparisons_of_clauses compiled]
    exact Filters.mem_comparisons.mpr ⟨term, found, rfl, given⟩
  obtain ⟨c, listed, same⟩ := List.mem_map.mp asked
  obtain ⟨number, rest⟩ := Prod.mk.inj same
  obtain ⟨path, rest⟩ := Prod.mk.inj rest
  exact ⟨c, listed, number, path, (Prod.mk.inj rest).1⟩

theorem mem_names_iff (asking : ∀ term ∈ f.terms, term.2.pairs ≠ []) (compiled : f.clauses = .ok clauses)
    (name : String) : name ∈ clauses.flatMap (·.names) ↔ name ∈ f.parameters.map Parameter.name := by
  rw [List.mem_flatMap, List.mem_map]
  constructor
  · rintro ⟨c, listed, here⟩
    obtain ⟨path, condition, found, segments, -, asked⟩ := term_of_clause compiled listed
    rcases Clause.mem_names.mp here with ⟨position, inside, rfl⟩ | rfl
    · exact ⟨_, Filters.mem_parameters.mpr ⟨_, _, found, Filters.mem_termParameters.mpr
        (.inl ⟨position, segments ▸ inside, rfl⟩)⟩, rfl⟩
    · exact ⟨_, Filters.mem_parameters.mpr ⟨_, _, found, Filters.mem_termParameters.mpr
        (.inr ⟨c.operator, List.mem_map_of_mem asked, rfl⟩)⟩, rfl⟩
  · rintro ⟨p, listed, rfl⟩
    obtain ⟨i, term, found, here⟩ := Filters.mem_parameters.mp listed
    rcases Filters.mem_termParameters.mp here with ⟨position, inside, rfl⟩ | ⟨op, asked, rfl⟩
    · obtain ⟨pair, given⟩ := List.exists_mem_of_ne_nil _ (asking _ (List.mem_of_getElem? found))
      obtain ⟨c, member, rfl, segments, -⟩ := clause_of_comparison compiled found given
      exact ⟨c, member, Clause.mem_names.mpr (.inl ⟨position, segments ▸ inside, rfl⟩)⟩
    · obtain ⟨pair, given, named⟩ := List.mem_map.mp asked
      obtain ⟨c, member, rfl, -, same⟩ := clause_of_comparison compiled found given
      have operator := ofSymbol?_symbol c.operator
      rw [same, named, ofSymbol?_symbol] at operator
      exact ⟨c, member, Clause.mem_names.mpr (.inr (by rw [Option.some.inj operator]))⟩

theorem length_parameters (compiled : f.clauses = .ok clauses) :
    f.parameters.length = (f.terms.map fun term => (segments term.1).length + term.2.pairs.length).sum := by
  have each : ∀ entry ∈ f.terms.zipIdx, (Filters.termParameters entry.2 entry.1).length =
      (segments entry.1.1).length + entry.1.2.pairs.length := fun entry listed =>
    Filters.length_termParameters fun pair given => by
      obtain ⟨c, -, -, -, named⟩ := clause_of_comparison compiled (List.mem_zipIdx_iff_getElem?.mp listed) given
      exact ⟨c.operator, named⟩
  have terms : f.terms.zipIdx.map (fun entry => (segments entry.1.1).length + entry.1.2.pairs.length) =
      (f.terms.zipIdx.map Prod.fst).map fun term => (segments term.1).length + term.2.pairs.length := by
    rw [List.map_map]
    rfl
  rw [Filters.parameters, List.length_flatMap, List.map_congr_left each, terms, List.zipIdx_map_fst]

def bindings (clauses : List Clause) (d : Directory) : Table Value :=
  Table.ofList (clauses.flatMap (·.bindings d))

/-- Clauses bind each parameter of the filters once. -/
theorem length_bindings (asking : ∀ term ∈ f.terms, term.2.pairs ≠ []) (distinct : f.Distinct)
    (compiled : f.clauses = .ok clauses) (d : Directory) : (bindings clauses d).length = f.parameters.length := by
  have names : (clauses.flatMap (·.bindings d)).map Prod.fst = clauses.flatMap (·.names) := by
    rw [List.map_flatMap]
    exact List.flatMap_congr fun c _ => c.names_bindings d
  have once : (bindings clauses d).keys.Nodup := (Table.ascending_ofList _).nodup_keys
  have named : (f.parameters.map Parameter.name).Nodup :=
    List.Nodup.map (fun _ _ => Parameter.name_injective) (Filters.nodup_parameters distinct)
  have same : (bindings clauses d).keys.Perm (f.parameters.map Parameter.name) := by
    rw [List.perm_ext_iff_of_nodup once named]
    intro name
    rw [bindings, Table.mem_keys_ofList, names, mem_names_iff asking compiled]
  have lengths := same.length_eq
  rwa [Table.keys, List.length_map, List.length_map] at lengths

/-- A parameter of a clause is bound to what the clause says. -/
theorem get?_bindings (distinct : f.Distinct) (compiled : f.clauses = .ok clauses) {d : Directory} {p : Parameter}
    {v : Value} (binds : Binds clauses [] "" d p v) (own : p ≠ .collection) :
    (bindings clauses d).get? p.name = some v := by
  have placed : SortKey.placeAll 0 [] = .ok [] := rfl
  have consistent : Consistent clauses [] := consistent_of_compiled distinct compiled placed
  refine Table.get?_ofList ?_ fun other listed => ?_
  · have here := mem_entries.mpr ⟨p, rfl, binds⟩
    rw [entries, List.flatMap_nil, List.append_nil, List.mem_append] at here
    refine here.resolve_right fun last => own (Parameter.name_injective ?_)
    exact (Prod.mk.inj (List.mem_singleton.mp last)).1
  · have here : (p.name, other) ∈ entries clauses [] "" d := List.mem_append_left _ (List.mem_append_left _ listed)
    obtain ⟨q, same, bindsOther⟩ := mem_entries.mp here
    obtain rfl := Parameter.name_injective same
    exact bindsOther.unique consistent binds

end Compiled

namespace Filters

/-- What filters are compiled to: one expression for each operator of each path in their order, and a parameter for each
segment and each operand, which is bound to it. -/
structure Compiled (f : Filters) (clauses : List Clause) (d : Directory) : Prop where
  comparisons : clauses.map (·.comparison) = f.comparisons
  expressions : ∀ loop, clauses.map (·.text loop) = f.comparisons.map (expression loop)
  count : (bindings clauses d).length =
    (f.terms.map fun term => (segments term.1).length + term.2.pairs.length).sum
  segments : ∀ c ∈ clauses, ∀ (position : Nat) segment, c.segments[position]? = some segment →
    (bindings clauses d).get? (segmentName c.stem position) = some (.string segment)
  operands : ∀ c ∈ clauses, (bindings clauses d).get? c.operandName = some (c.operand.resolve d)

/-- Filters with every literal written as an operator. -/
def explicit (f : Filters) : Filters :=
  ⟨f.terms.map fun term => (term.1, .operators term.2.pairs)⟩

theorem checkTerms_explicit (start : Nat) (terms : List (String × Condition)) :
    checkTerms start (terms.map fun term => (term.1, .operators term.2.pairs)) = checkTerms start terms := by
  induction terms generalizing start with
  | nil => rfl
  | cons term rest ih =>
    rw [List.map_cons, checkTerms, checkTerms, ih]
    rfl

theorem clauses_explicit (f : Filters) : f.explicit.clauses = f.clauses :=
  congrArg firstRefusal (checkTerms_explicit 0 f.terms)

/-- To ask for equality of a path that has not been mentioned is to give it the operator. -/
theorem clauses_eq {f : Filters} {path : String} (fresh : f.terms.lookup path = none) (operand : Operand) :
    (f.eq path operand).clauses = (f.op path Query.Operator.equal.symbol operand).clauses := by
  have same : (f.eq path operand).explicit = (f.op path Query.Operator.equal.symbol operand).explicit := by
    rw [op, fresh, explicit, explicit, eq]
    simp only [OrderedMap.map_put fun condition : Condition => Condition.operators condition.pairs]
    rfl
  rw [← clauses_explicit, same, clauses_explicit]

theorem lookup_of_unmentioned {calls : List FilterCall} {path : String} (fresh : path ∉ calls.map FilterCall.path) :
    (ofCalls calls).terms.lookup path = none := by
  have none := get?_foldl_call calls path
  rw [if_neg fresh, ← mapping_ofCalls, get?_mapping, Option.map_eq_none_iff] at none
  exact none

end Filters

/-- Filters that calls build are an ordered map in which `eq` starts its path anew and `op` sets one symbol, and they are
compiled entry by entry, without a clash of names. A literal is compiled as an explicit `==`. -/
theorem calls_mapped (calls : List FilterCall) :
    (Filters.ofCalls calls).Mapped calls ∧
    (∀ clauses, (Filters.ofCalls calls).clauses = .ok clauses → ∀ d, (Filters.ofCalls calls).Compiled clauses d) ∧
    (Filters.ofCalls calls).explicit.clauses = (Filters.ofCalls calls).clauses ∧
    ∀ path ∉ calls.map FilterCall.path, ∀ operand, (Filters.ofCalls (calls ++ [.eq path operand])).clauses =
      (Filters.ofCalls (calls ++ [.op path "==" operand])).clauses := by
  have distinct := distinct_ofCalls calls
  refine ⟨Filters.mapped_ofCalls calls, fun clauses compiled d => ?_, Filters.clauses_explicit _,
    fun path fresh operand => ?_⟩
  · have comparisons := comparisons_of_clauses compiled
    refine ⟨comparisons, fun loop => ?_, ?_, ?_, ?_⟩
    · rw [← comparisons, List.map_map]
      exact List.map_congr_left fun c _ => c.text_eq loop
    · rw [length_bindings (pairs_ne_nil_of_calls calls) distinct compiled, length_parameters compiled]
    · intro c listed position segment found
      exact get?_bindings (p := .field c.term position) distinct compiled ⟨c, listed, rfl, segment, found, rfl⟩ nofun
    · intro c listed
      exact get?_bindings (p := .operand c.term c.operator) distinct compiled ⟨c, listed, rfl, rfl, rfl⟩ nofun
  · rw [Filters.ofCalls, Filters.ofCalls, List.foldl_concat, List.foldl_concat]
    exact Filters.clauses_eq (Filters.lookup_of_unmentioned fresh) operand

/-- A path that is asked for again keeps its place, but its operators are those since its last `eq`. -/
theorem repeated_paths_mapped :
    let calls : List FilterCall := [.op "age" ">" (.value (.ofNat 3)), .eq "home.town" (.value .null),
      .op "age" "<" (.value (.ofNat 9)), .eq "age" (.value (.ofNat 5)), .op "age" "!=" (.value (.ofNat 6)),
      .op "age" "==" (.value (.ofNat 7))]
    ∃ clauses, (Filters.ofCalls calls).clauses = .ok clauses ∧
      clauses.map (·.text "i") = ["i.@field_0_0 == @field_0_eq", "i.@field_0_0 != @field_0_ne",
        "i.@field_1_0.@field_1_1 == @field_1_eq"] ∧
      (bindings clauses ⟨{}, fun _ => none⟩).length = 6 ∧
      "owner" ∉ calls.map FilterCall.path ∧
      (Filters.ofCalls (calls ++ [.eq "owner" (.value .null)])).clauses =
        (Filters.ofCalls (calls ++ [.op "owner" "==" (.value .null)])).clauses := by
  intro calls
  obtain ⟨clauses, compiled⟩ : ∃ clauses, (Filters.ofCalls calls).clauses = .ok clauses := ⟨_, rfl⟩
  obtain ⟨-, each, -, literal⟩ := calls_mapped calls
  have whole := each clauses compiled ⟨{}, fun _ => none⟩
  have fresh : "owner" ∉ calls.map FilterCall.path := by decide
  refine ⟨clauses, compiled, (whole.expressions "i").trans ?_, whole.count.trans ?_, fresh, literal _ fresh _⟩
  · rfl
  · rfl

end Find
end RecordStore
