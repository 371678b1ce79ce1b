import RecordStore.Proofs.Find.Answer
import RecordStore.Proofs.Table
import RecordStore.Proofs.Text.Placeholders

/-!
# The form of find queries

The text of a find query is that of its form: how many terms and sort keys there are, how many segments their paths
have, which operators and directions they name, and which slice is cut out (`text_of_form`). The placeholders of the
text are the names of the parameters that are asked for, and each of them is bound once (`query_closed`).
-/

namespace RecordStore
namespace Find

open Text (Detached isNameChar placeholders placeholders_append placeholders_intercalate placeholders_mark
  placeholders_plain placeholders_plain_append)

/-- What the text of a find query depends on. -/
structure Form where
  /-- The number of segments of each term's path, and the symbols of its operators. -/
  terms : List (Nat × List String)
  /-- The number of segments of each sort key's path, and its direction in upper case. -/
  sort : List (Nat × List Char)
  limit : Option Nat
  offset : Nat
  deriving DecidableEq, Repr

namespace Options

def form (options : Options) : Form where
  terms := options.filters.terms.map fun (path, condition) =>
    ((segments path).length, condition.pairs.map Prod.fst)
  sort := options.sort.map fun key => ((segments key.path).length, key.direction.toList.map Char.toUpper)
  limit := options.limit
  offset := options.offset.getD 0

/-- The parameters that a find query needs values for. -/
def Asks (options : Options) : Parameter → Prop
  | .field term position =>
    ∃ path condition, options.filters.terms[term]? = some (path, condition) ∧ position < (segments path).length
  | .operand term op =>
    ∃ path condition, options.filters.terms[term]? = some (path, condition) ∧ op.symbol ∈ condition.pairs.map Prod.fst
  | .sort number position =>
    ∃ key, options.sort[number]? = some key ∧ position < (segments key.path).length
  | .collection => True

end Options

/-! ### Texts of one form -/

theorem map_eq_of_map_eq {α β γ : Type} {f : α → β} {g : α → γ} (factors : ∀ a b, f a = f b → g a = g b)
    {xs ys : List α} (same : xs.map f = ys.map f) : xs.map g = ys.map g := by
  induction xs generalizing ys with
  | nil =>
    obtain rfl := List.map_eq_nil_iff.mp same.symm
    rfl
  | cons x xs ih =>
    obtain ⟨y, rest, rfl, here, later⟩ := List.map_eq_cons_iff.mp same.symm
    rw [List.map_cons, List.map_cons, factors x y here.symm, ih later.symm]

def Clause.shape (c : Clause) : Nat × Nat × String :=
  (c.term, c.segments.length, c.operator.symbol)

def Placed.shape (k : Placed) : Nat × Nat × Bool :=
  (k.number, k.segments.length, k.descending)

theorem Clause.text_of_shape (a b : Clause) (same : a.shape = b.shape) : a.text loopName = b.text loopName := by
  obtain ⟨term, rest⟩ := Prod.mk.inj same
  obtain ⟨length, symbol⟩ := Prod.mk.inj rest
  have operator : a.operator = b.operator := by
    have read := a.operator.read?_symbol
    rw [symbol, b.operator.read?_symbol] at read
    exact (Option.some.inj read).symm
  rw [text, text, operandName, operandName, stem, stem, term, length, operator]

theorem Placed.text_of_shape (a b : Placed) (same : a.shape = b.shape) : a.text loopName = b.text loopName := by
  obtain ⟨number, rest⟩ := Prod.mk.inj same
  obtain ⟨length, descending⟩ := Prod.mk.inj rest
  rw [text, text, stem, stem, number, length, descending]

theorem statementText_of_shapes {clauses clauses' : List Clause}
    (alike : clauses.map (·.shape) = clauses'.map (·.shape)) {keys keys' : List Placed} (sorted : keys.map (·.shape) = keys'.map (·.shape)) (offset : Nat)
    (limit : Option Nat) : statementText clauses keys offset limit = statementText clauses' keys' offset limit := by
  have texts := map_eq_of_map_eq Clause.text_of_shape alike
  have keyTexts := map_eq_of_map_eq Placed.text_of_shape sorted
  have none : clauses.isEmpty = clauses'.isEmpty := by
    simpa using congrArg List.isEmpty alike
  have noKeys : keys.isEmpty = keys'.isEmpty := by
    simpa using congrArg List.isEmpty sorted
  rw [statementText, statementText, filterText, filterText, sortText, sortText, sortClause, sortClause, texts, keyTexts,
    none, noKeys]

/-- The shapes of clauses are those of the terms that passed their checks. -/
theorem shapes_of_terms {start : Nat} {terms : List (String × Condition)} {clauses : List Clause}
    (passed : checkTerms start terms = clauses.map .ok) :
    clauses.map (·.shape) =
      ((terms.map fun (path, condition) => ((segments path).length, condition.pairs.map Prod.fst)).zipIdx start).flatMap
        fun (term, number) => term.2.map (number, term.1, ·) := by
  rw [map_of_terms Clause.shape (fun number path pair => (number, path.length, pair.1)) (fun _ => rfl) passed,
    List.zipIdx_map, List.flatMap_map]
  refine List.flatMap_congr ?_
  rintro ⟨⟨path, condition⟩, number⟩ -
  show _ = (condition.pairs.map Prod.fst).map (number, (segments path).length, ·)
  rw [List.map_map]
  rfl

theorem readDirection?_eq_some {word : List Char} {descending : Bool}
    (read : Query.Statement.readDirection? word = some descending) :
    descending = decide (word.map Char.toUpper = "DESC".toList) := by
  unfold Query.Statement.readDirection? at read
  split at read
  · rename_i ascending
    rw [ascending, ← Option.some.inj read]
    rfl
  · rename_i ascending
    rw [ascending, ← Option.some.inj read]
    rfl
  · cases read

/-- The shapes of placed keys are those of the sort keys that passed their checks. -/
theorem shapes_of_sort {start : Nat} {sort : List SortKey} {keys : List Placed}
    (passed : SortKey.placeAll start sort = .ok keys) :
    keys.map (·.shape) =
      ((sort.map fun key => ((segments key.path).length, key.direction.toList.map Char.toUpper)).zipIdx start).map
        fun (key, number) => (number, key.1, decide (key.2 = "DESC".toList)) := by
  induction sort generalizing start keys with
  | nil =>
    obtain rfl := Except.ok.inj passed
    rfl
  | cons key rest ih =>
    obtain ⟨first, others, here, later, rfl⟩ := SortKey.placeAll_cons passed
    have shape : first.shape =
        (start, (segments key.path).length, decide (key.direction.toList.map Char.toUpper = "DESC".toList)) := by
      unfold SortKey.place at here
      split at here
      · cases here
      · rename_i descending read
        split at here
        · cases here
        · obtain rfl := Except.ok.inj here
          rw [Placed.shape, readDirection?_eq_some read]
    rw [List.map_cons, ih later, shape]
    rfl

/-- Find queries of one form have one text. -/
theorem text_of_form {collection collection' : String} {options options' : Options} {d d' : Directory}
    {q q' : BoundQuery} (compiled : query collection options d = .ok q)
    (compiled' : query collection' options' d' = .ok q') (alike : options.form = options'.form) : q.text = q'.text := by
  obtain ⟨clauses, keys, filtered, placed, -, text, -⟩ := query_ok compiled
  obtain ⟨clauses', keys', filtered', placed', -, text', -⟩ := query_ok compiled'
  obtain ⟨terms, sort, limit, offset⟩ := Form.mk.inj alike
  rw [text, text', offset, limit]
  refine statementText_of_shapes ?_ ?_ _ _
  · rw [shapes_of_terms (checkTerms_of_clauses filtered), shapes_of_terms (checkTerms_of_clauses filtered'), terms]
  · rw [shapes_of_sort placed, shapes_of_sort placed', sort]

/-! ### Placeholders of the text -/

theorem isNameChar_of_isDigit {c : Char} (digit : c.isDigit = true) : isNameChar c = true := by
  simp [isNameChar, Char.isAlphanum, digit]

theorem named_numbered {word last : List Char} (first : word.all isNameChar = true) (n : Nat)
    (second : ∀ c ∈ last, isNameChar c = true) :
    ∀ c ∈ word ++ (Nat.toDigits 10 n ++ '_' :: last), isNameChar c = true := by
  intro c here
  rcases List.mem_append.mp here with inWord | later
  · exact List.all_eq_true.mp first c inWord
  · rcases List.mem_append.mp later with inDigits | later
    · exact isNameChar_of_isDigit (Query.isDigit_of_mem_toDigits c inDigits)
    · rcases List.mem_cons.mp later with rfl | inLast
      · rfl
      · exact second c inLast

theorem named_toDigits (n : Nat) : ∀ c ∈ Nat.toDigits 10 n, isNameChar c = true :=
  fun c here => isNameChar_of_isDigit (Query.isDigit_of_mem_toDigits c here)

theorem placeholders_pathText {stem : String}
    (named : ∀ position, ∀ c ∈ (segmentName stem position).toList, isNameChar c = true) (length : Nat) :
    placeholders (pathText stem length) = (List.range length).map (segmentName stem) := by
  rw [pathText, placeholders_intercalate (by decide) (by decide) (by decide), List.flatMap_map,
    List.flatMap_congr fun position _ => placeholders_mark (named position), ← List.flatMap_pure_eq_map]
  rfl

theorem names_bindSegments (stem : String) (start : Nat) (segments : List String) :
    (bindSegments stem start segments).map Prod.fst = (List.range' start segments.length).map (segmentName stem) := by
  induction segments generalizing start with
  | nil => rfl
  | cons segment rest ih =>
    rw [bindSegments, List.map_cons, ih, List.length_cons, List.range'_succ, List.map_cons]

theorem placeholders_path {stem : String}
    (named : ∀ position, ∀ c ∈ (segmentName stem position).toList, isNameChar c = true) (length : Nat) (after : String) :
    placeholders (loopName ++ "." ++ pathText stem length ++ (" " ++ after)) =
      (List.range length).map (segmentName stem) ++ placeholders after := by
  have detached : Detached (" " ++ after).toList := by
    rw [String.toList_append]
    rintro c ⟨⟩
    decide
  rw [placeholders_append _ detached, placeholders_plain_append (by decide), placeholders_pathText named,
    placeholders_plain_append (by decide)]

namespace Clause

def names (c : Clause) : List String :=
  (List.range c.segments.length).map (segmentName c.stem) ++ [c.operandName]

theorem names_bindings (c : Clause) (d : Directory) : (c.bindings d).map Prod.fst = c.names := by
  rw [bindings, List.map_append, names_bindSegments, ← List.range_eq_range']
  rfl

theorem named_segment (c : Clause) (position : Nat) :
    ∀ d ∈ (segmentName c.stem position).toList, isNameChar d = true := by
  have same : segmentName c.stem position = (Parameter.field c.term position).name := rfl
  rw [same, Parameter.toList_field]
  exact named_numbered (by decide) c.term (named_toDigits position)

theorem named_operand (c : Clause) : ∀ d ∈ c.operandName.toList, isNameChar d = true := by
  have same : c.operandName = (Parameter.operand c.term c.operator).name := rfl
  have token : ∀ op ∈ Query.Operator.all, op.token.toList.all isNameChar = true := by decide +kernel
  rw [same, Parameter.toList_operand]
  exact named_numbered (by decide) c.term (List.all_eq_true.mp (token _ c.operator.mem_all))

theorem placeholders_text (c : Clause) : placeholders (c.text loopName) = c.names := by
  have symbol : '@' ∉ c.operator.symbol.toList :=
    (by decide +kernel : ∀ op ∈ Query.Operator.all, '@' ∉ op.symbol.toList) _ c.operator.mem_all
  have split : c.text loopName = loopName ++ "." ++ pathText c.stem c.segments.length ++
      (" " ++ (c.operator.symbol ++ " " ++ ("@" ++ c.operandName))) := by
    apply String.toList_injective
    simp [text]
  have plain : '@' ∉ (c.operator.symbol ++ " ").toList := by
    simp [symbol]
  rw [split, placeholders_path c.named_segment, placeholders_plain_append plain, placeholders_mark c.named_operand]
  rfl

end Clause

namespace Placed

def names (k : Placed) : List String :=
  (List.range k.segments.length).map (segmentName k.stem)

theorem names_bindings (k : Placed) : k.bindings.map Prod.fst = k.names := by
  rw [bindings, names_bindSegments, ← List.range_eq_range']
  rfl

theorem named_segment (k : Placed) (position : Nat) :
    ∀ d ∈ (segmentName k.stem position).toList, isNameChar d = true := by
  have same : segmentName k.stem position = (Parameter.sort k.number position).name := rfl
  rw [same, Parameter.toList_sort]
  exact named_numbered (by decide) k.number (named_toDigits position)

theorem placeholders_text (k : Placed) : placeholders (k.text loopName) = k.names := by
  have direction : placeholders (directionText k.descending) = [] := by
    cases k.descending <;> exact placeholders_plain (by decide)
  rw [text, String.append_assoc, placeholders_path k.named_segment, direction, List.append_nil]
  rfl

end Placed

/-- The placeholders of a find query are those of its collection, its clauses and its sort keys. -/
theorem placeholders_statementText (clauses : List Clause) (keys : List Placed) (offset : Nat) (limit : Option Nat) :
    placeholders (statementText clauses keys offset limit) =
      collectionName :: (clauses.flatMap (·.names) ++ keys.flatMap (·.names)) := by
  have header : placeholders ("FOR " ++ loopName ++ " IN @@collection") = [collectionName] := by decide +kernel
  have filters : (filterText clauses).flatMap placeholders = clauses.flatMap (·.names) := by
    unfold filterText
    split
    · rename_i none
      rw [List.isEmpty_iff.mp none]
      rfl
    · rw [List.flatMap_singleton, placeholders_plain_append (by decide),
        placeholders_intercalate (by decide) (by decide) (by decide), List.flatMap_map,
        List.flatMap_congr fun c _ => c.placeholders_text]
  have sort : (sortText keys).flatMap placeholders = keys.flatMap (·.names) := by
    unfold sortText sortClause
    split
    · rename_i none
      rw [List.isEmpty_iff.mp none]
      rfl
    · rw [List.flatMap_singleton, placeholders_plain_append (by decide), placeholders_plain_append (by decide),
        placeholders_intercalate (by decide) (by decide) (by decide), List.flatMap_map,
        List.flatMap_congr fun k _ => k.placeholders_text]
  have slice : (limitText offset limit).flatMap placeholders = [] := by
    cases limit with
    | none => rfl
    | some limit =>
      have digits (n : Nat) : '@' ∉ (toString n).toList := fun here => by
        rw [Parameter.toList_toString] at here
        exact absurd (Query.isDigit_of_mem_toDigits _ here) (by decide)
      have plain : '@' ∉ ("    LIMIT " ++ toString offset ++ ", " ++ toString limit).toList := by
        simp only [String.toList_append, List.mem_append, not_or]
        exact ⟨⟨⟨by decide, digits offset⟩, by decide⟩, digits limit⟩
      rw [limitText, List.flatMap_singleton, placeholders_plain plain]
  have ending : placeholders ("    RETURN " ++ loopName) = [] := placeholders_plain (by decide)
  rw [statementText, placeholders_intercalate (by decide) (by decide) (by decide), List.cons_append, List.cons_append,
    List.cons_append, List.flatMap_cons, header, List.flatMap_append, List.flatMap_append, List.flatMap_append, filters,
    sort, slice, List.flatMap_singleton, ending, List.append_nil, List.append_nil, List.singleton_append]

theorem names_entries (clauses : List Clause) (keys : List Placed) (collection : String) (d : Directory) :
    (entries clauses keys collection d).map Prod.fst =
      clauses.flatMap (·.names) ++ keys.flatMap (·.names) ++ [collectionName] := by
  have first : clauses.flatMap (fun c => (c.bindings d).map Prod.fst) = clauses.flatMap (·.names) :=
    List.flatMap_congr fun c _ => c.names_bindings d
  have second : keys.flatMap (fun k => k.bindings.map Prod.fst) = keys.flatMap (·.names) :=
    List.flatMap_congr fun k _ => k.names_bindings
  rw [entries, List.map_append, List.map_append, List.map_flatMap, List.map_flatMap, first, second]
  rfl

/-! ### Parameters of the form -/

section Asked

variable {options : Options} {clauses : List Clause} {keys : List Placed}

/-- The clauses of a term have its path, and there is one for each of its operators. -/
theorem mem_shapes (filtered : options.filters.clauses = .ok clauses) {shape : Nat × Nat × String} :
    shape ∈ clauses.map (·.shape) ↔
      ∃ path condition, options.filters.terms[shape.1]? = some (path, condition) ∧
        shape.2.1 = (segments path).length ∧ shape.2.2 ∈ condition.pairs.map Prod.fst := by
  obtain ⟨number, length, symbol⟩ := shape
  rw [shapes_of_terms (checkTerms_of_clauses filtered), List.mem_flatMap]
  constructor
  · rintro ⟨⟨⟨size, symbols⟩, i⟩, listed, here⟩
    obtain ⟨other, asked, same⟩ := List.mem_map.mp here
    obtain ⟨rfl, rest⟩ := Prod.mk.inj same
    obtain ⟨rfl, rfl⟩ := Prod.mk.inj rest
    have found := List.mem_zipIdx_iff_getElem?.mp listed
    obtain ⟨⟨path, condition⟩, inTerms, mapped⟩ := Option.map_eq_some_iff.mp (List.getElem?_map ▸ found)
    obtain ⟨rfl, rfl⟩ := Prod.mk.inj mapped
    exact ⟨path, condition, inTerms, rfl, asked⟩
  · rintro ⟨path, condition, found, rfl, asked⟩
    refine ⟨(((segments path).length, condition.pairs.map Prod.fst), number), ?_, List.mem_map.mpr ⟨symbol, asked, rfl⟩⟩
    rw [List.mem_zipIdx_iff_getElem?, List.getElem?_map, found]
    rfl

theorem mem_sortShapes (placed : SortKey.placeAll 0 options.sort = .ok keys) {number length : Nat} :
    (∃ k ∈ keys, k.number = number ∧ k.segments.length = length) ↔
      ∃ key, options.sort[number]? = some key ∧ length = (segments key.path).length := by
  have shapes : (keys.map fun k => (k.number, k.segments.length)) =
      (options.sort.zipIdx).map fun (key, i) => (i, (segments key.path).length) := by
    have whole := congrArg (List.map fun shape => (shape.1, shape.2.1)) (shapes_of_sort placed)
    simpa [List.zipIdx_map, Function.comp_def, Placed.shape] using whole
  have member : (∃ k ∈ keys, k.number = number ∧ k.segments.length = length) ↔
      (number, length) ∈ keys.map fun k => (k.number, k.segments.length) := by
    simp
  rw [member, shapes, List.mem_map]
  constructor
  · rintro ⟨⟨key, i⟩, listed, same⟩
    obtain ⟨rfl, rfl⟩ := Prod.mk.inj same
    exact ⟨key, List.mem_zipIdx_iff_getElem?.mp listed, rfl⟩
  · rintro ⟨key, found, rfl⟩
    exact ⟨(key, number), List.mem_zipIdx_iff_getElem?.mpr found, rfl⟩

/-- The parameters that are asked for are those that clauses and sort keys bind. -/
theorem asks_iff (asking : ∀ term ∈ options.filters.terms, term.2.pairs ≠ [])
    (filtered : options.filters.clauses = .ok clauses) (placed : SortKey.placeAll 0 options.sort = .ok keys)
    (collection : String) (d : Directory) (p : Parameter) :
    options.Asks p ↔ ∃ v, Binds clauses keys collection d p v := by
  have bound {items : List String} {position : Nat} :
      position < items.length ↔ ∃ segment, items[position]? = some segment :=
    Iff.trans (by simp) Option.isSome_iff_exists
  cases p with
  | field term position =>
    constructor
    · rintro ⟨path, condition, found, inside⟩
      obtain ⟨pair, listed⟩ := List.exists_mem_of_ne_nil _ (asking _ (List.mem_of_getElem? found))
      have shaped : (term, (segments path).length, pair.1) ∈ clauses.map (·.shape) :=
        (mem_shapes filtered).mpr ⟨path, condition, found, rfl, List.mem_map_of_mem listed⟩
      obtain ⟨c, member, shape⟩ := List.mem_map.mp shaped
      obtain ⟨number, rest⟩ := Prod.mk.inj shape
      obtain ⟨segment, here⟩ := bound.mp ((Prod.mk.inj rest).1 ▸ inside)
      exact ⟨.string segment, c, member, number, segment, here, rfl⟩
    · rintro ⟨v, c, member, rfl, segment, here, -⟩
      obtain ⟨path, condition, found, length, -⟩ :=
        (mem_shapes filtered).mp (List.mem_map_of_mem (f := Clause.shape) member)
      exact ⟨path, condition, found, length ▸ bound.mpr ⟨segment, here⟩⟩
  | operand term op =>
    constructor
    · rintro ⟨path, condition, found, asked⟩
      have shaped : (term, (segments path).length, op.symbol) ∈ clauses.map (·.shape) :=
        (mem_shapes filtered).mpr ⟨path, condition, found, rfl, asked⟩
      obtain ⟨c, member, shape⟩ := List.mem_map.mp shaped
      obtain ⟨number, rest⟩ := Prod.mk.inj shape
      have read := c.operator.read?_symbol
      rw [(Prod.mk.inj rest).2, op.read?_symbol] at read
      exact ⟨_, c, member, number, (Option.some.inj read).symm, rfl⟩
    · rintro ⟨v, c, member, rfl, rfl, -⟩
      obtain ⟨path, condition, found, -, asked⟩ :=
        (mem_shapes filtered).mp (List.mem_map_of_mem (f := Clause.shape) member)
      exact ⟨path, condition, found, asked⟩
  | sort number position =>
    constructor
    · rintro ⟨key, found, inside⟩
      obtain ⟨k, member, same, length⟩ := (mem_sortShapes placed).mpr ⟨key, found, rfl⟩
      obtain ⟨segment, here⟩ := bound.mp (length ▸ inside)
      exact ⟨.string segment, k, member, same, segment, here, rfl⟩
    · rintro ⟨v, k, member, rfl, segment, here, -⟩
      obtain ⟨key, found, length⟩ := (mem_sortShapes placed).mp ⟨k, member, rfl, rfl⟩
      exact ⟨key, found, length ▸ bound.mpr ⟨segment, here⟩⟩
  | collection => exact ⟨fun _ => ⟨_, rfl⟩, fun _ => trivial⟩

end Asked

/-- Nothing but its form shows in the text of a find query: whatever paths, operands, records and collections are named,
queries of one form have one text. Its placeholders are the names that are bound, each once, and each of these stands
for one parameter that is asked for. -/
theorem query_closed {calls : List FilterCall} {options : Options} (built : options.filters = Filters.ofCalls calls)
    {collection : String} {d : Directory} {q : BoundQuery} (compiled : query collection options d = .ok q) :
    (∀ (collection' : String) (options' : Options) (d' : Directory) (q' : BoundQuery),
      query collection' options' d' = .ok q' → options'.form = options.form → q'.text = q.text) ∧
    (∀ name, name ∈ placeholders q.text ↔ name ∈ q.bindings.keys) ∧ q.bindings.keys.Nodup ∧
    (∀ name ∈ q.bindings.keys, ∃! p, options.Asks p ∧ p.name = name) ∧
    ∀ p, options.Asks p → p.name ∈ q.bindings.keys := by
  obtain ⟨clauses, keys, filtered, placed, -, text, bindings⟩ := query_ok compiled
  have asks := asks_iff (built ▸ pairs_ne_nil_of_calls calls) filtered placed collection d
  have bound (name : String) : name ∈ q.bindings.keys ↔ ∃ p, options.Asks p ∧ p.name = name := by
    rw [bindings, Table.mem_keys_ofList, List.mem_map]
    constructor
    · rintro ⟨⟨name, v⟩, listed, rfl⟩
      obtain ⟨p, rfl, binds⟩ := mem_entries.mp listed
      exact ⟨p, (asks p).mpr ⟨v, binds⟩, rfl⟩
    · rintro ⟨p, asked, rfl⟩
      obtain ⟨v, binds⟩ := (asks p).mp asked
      exact ⟨(p.name, v), mem_entries.mpr ⟨p, rfl, binds⟩, rfl⟩
  refine ⟨fun collection' options' d' q' compiled' alike => text_of_form compiled' compiled alike, fun name => ?_,
    bindings ▸ (Table.ascending_ofList _).nodup_keys, fun name listed => ?_, fun p asked => (bound _).mpr ⟨p, asked, rfl⟩⟩
  · rw [text, placeholders_statementText, bindings, Table.mem_keys_ofList, names_entries, List.mem_cons,
      List.mem_append (s := clauses.flatMap (·.names) ++ keys.flatMap (·.names)), List.mem_singleton]
    exact or_comm
  · obtain ⟨p, asked, rfl⟩ := (bound name).mp listed
    exact ⟨p, ⟨asked, rfl⟩, fun other here => Parameter.name_injective here.2⟩

/-- Marks, line breaks and words of the language in paths, operands and names of collections change nothing. -/
theorem hostile_names_closed :
    let tame : Options := {
      filters := Filters.ofCalls [.op "name" ">=" (.value (.string "A")), .op "name" "<" (.value (.string "B"))]
      sort := [⟨"home.town", "asc"⟩]
      limit := some 3 }
    let hostile : Options := {
      filters := Filters.ofCalls [.op "x == @y" ">=" (.value (.string "@field_0_0")), .op "x == @y" "<" (.value .null)]
      sort := [⟨"..town, @a DESC.\n    RETURN @b", "ASC"⟩]
      limit := some 3
      offset := some 0 }
    ∃ q q', query "people" tame { names := {} } = .ok q ∧ query "@@people FILTER @c" hostile { names := {} } = .ok q' ∧
      q'.text = q.text ∧ (∀ name, name ∈ placeholders q'.text ↔ name ∈ q'.bindings.keys) ∧
      q'.bindings.keys = ["@collection", "field_0_0", "field_0_gte", "field_0_lt", "sort_0_0", "sort_0_1"] := by
  intro tame hostile
  obtain ⟨q, compiled⟩ : ∃ q, query "people" tame { names := {} } = .ok q := ⟨_, rfl⟩
  obtain ⟨q', compiled'⟩ : ∃ q, query "@@people FILTER @c" hostile { names := {} } = .ok q := ⟨_, rfl⟩
  have built : tame.filters = Filters.ofCalls _ := rfl
  have built' : hostile.filters = Filters.ofCalls _ := rfl
  obtain ⟨same, -⟩ := query_closed built compiled
  obtain ⟨-, bound, -⟩ := query_closed built' compiled'
  refine ⟨q, q', compiled, compiled', same _ hostile _ q' compiled' (by decide +kernel), bound, ?_⟩
  have whole : (query "@@people FILTER @c" hostile { names := {} }).toOption.map (·.bindings.keys) =
      some ["@collection", "field_0_0", "field_0_gte", "field_0_lt", "sort_0_0", "sort_0_1"] := by decide +kernel
  rw [compiled'] at whole
  exact Option.some.inj whole

end Find
end RecordStore
