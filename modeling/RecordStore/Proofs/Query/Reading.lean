import RecordStore.Proofs.Text.Split
import RecordStore.Query.Statement

/-!
# Reading what is written out

Each part of a statement is read back as what it was written from: paths of parameters, conditions, sort keys, limits,
and the lines that hold them. Names of parameters are texts that are nowhere cut (`Solid`).
-/

namespace RecordStore
namespace Query

/-! ### Operators -/

namespace Operator

theorem mem_all (op : Operator) : op ∈ all := by
  cases op with
  | compare c => cases c <;> decide
  | quantified q test =>
    cases test with
    | compare c => cases q <;> cases c <;> decide
    | member => cases q <;> decide
  | _ => decide

theorem read?_symbol (op : Operator) : read? op.symbol = some op :=
  (by decide +kernel : ∀ op ∈ all, read? op.symbol = some op) op op.mem_all

theorem words_symbol (op : Operator) :
    ∃ first rest, Text.words op.symbol.toList = first :: rest ∧
      " ".intercalate ((first :: rest).map String.ofList) = op.symbol := by
  have known : Text.words op.symbol.toList ≠ [] ∧
      " ".intercalate ((Text.words op.symbol.toList).map String.ofList) = op.symbol :=
    (by decide +kernel : ∀ op ∈ all, Text.words op.symbol.toList ≠ [] ∧
      " ".intercalate ((Text.words op.symbol.toList).map String.ofList) = op.symbol) op op.mem_all
  obtain ⟨first, rest, words⟩ := List.exists_cons_of_ne_nil known.1
  exact ⟨first, rest, words, words ▸ known.2⟩

end Operator

/-! ### Names and paths -/

/-- A text that no part of a statement is cut within. -/
structure Solid (name : List Char) : Prop where
  nonempty : name ≠ []
  clean : ∀ c ∈ name, Text.isBlank c = false ∧ c ≠ '.' ∧ c ≠ ','

instance (name : List Char) : Decidable (Solid name) :=
  decidable_of_iff (name ≠ [] ∧ name.all (fun c => !Text.isBlank c && c != '.' && c != ',') = true) <| by
    constructor
    · rintro ⟨nonempty, clean⟩
      exact ⟨nonempty, by simpa [and_assoc] using clean⟩
    · rintro ⟨nonempty, clean⟩
      exact ⟨nonempty, by simpa [and_assoc] using clean⟩

theorem Solid.append {a b : List Char} (first : Solid a)
    (second : ∀ c ∈ b, Text.isBlank c = false ∧ c ≠ '.' ∧ c ≠ ',') : Solid (a ++ b) where
  nonempty := List.append_ne_nil_of_left_ne_nil first.nonempty b
  clean c here := (List.mem_append.mp here).elim (first.clean c) (second c)

theorem Solid.cons {name : List Char} (solid : Solid name) {c : Char}
    (clean : Text.isBlank c = false ∧ c ≠ '.' ∧ c ≠ ',') : Solid (c :: name) where
  nonempty := List.cons_ne_nil c name
  clean := List.forall_mem_cons.mpr ⟨clean, solid.clean⟩

theorem Solid.notBlank {name : List Char} (solid : Solid name) : ∀ c ∈ name, Text.isBlank c = false :=
  fun c here => (solid.clean c here).1

def writePath (loop : List Char) (names : List (List Char)) : List Char :=
  ['.'].intercalate (loop :: names.map ('@' :: ·))

def parameters (names : List (List Char)) : List Term :=
  names.map fun name => .parameter (String.ofList name)

namespace Statement

theorem readPath_writePath {loop : List Char} (solid : Solid loop) {names : List (List Char)} (nonempty : names ≠ [])
    (solids : ∀ name ∈ names, Solid name) : readPath loop (writePath loop names) = .ok (parameters names) := by
  have clean : ∀ text ∈ loop :: names.map ('@' :: ·), ∀ c ∈ text, decide (c = '.') = false := by
    refine List.forall_mem_cons.mpr ⟨fun c here => decide_eq_false (solid.clean c here).2.1, fun text listed => ?_⟩
    obtain ⟨name, named, rfl⟩ := List.mem_map.mp listed
    have dotless := ((solids name named).cons (c := '@') (by decide)).clean
    exact fun c here => decide_eq_false (dotless c here).2.1
  have pieces : Text.splitBy (· = '.') (writePath loop names) = loop :: names.map ('@' :: ·) := by
    have split : Text.splitBy (· = '.') (['.'].intercalate (loop :: names.map ('@' :: ·))) =
        loop :: (names.map ('@' :: ·)).map ([] ++ ·) := Text.splitBy_intercalate_clean rfl (by simp) clean
    simpa [writePath, Function.comp_def] using split
  simp [readPath, pieces, nonempty, parameters, segment, Function.comp_def]

end Statement

theorem writePath_clean {loop : List Char} (solid : Solid loop) {names : List (List Char)}
    (solids : ∀ name ∈ names, Solid name) : ∀ c ∈ writePath loop names, Text.isBlank c = false ∧ c ≠ ',' := by
  refine Text.forall_mem_intercalate (List.forall_mem_singleton.mpr (by decide))
    (List.forall_mem_cons.mpr ⟨fun c here => ?_, fun text listed => ?_⟩)
  · exact ⟨(solid.clean c here).1, (solid.clean c here).2.2⟩
  · obtain ⟨name, named, rfl⟩ := List.mem_map.mp listed
    have clean := ((solids name named).cons (c := '@') (by decide)).clean
    exact fun c here => ⟨(clean c here).1, (clean c here).2.2⟩

theorem writePath_ne_nil {loop : List Char} (solid : Solid loop) (names : List (List Char)) :
    writePath loop names ≠ [] := by
  cases names with
  | nil => simpa [writePath] using solid.nonempty
  | cons name rest => simp [writePath, solid.nonempty]

theorem words_writePath {loop : List Char} (solid : Solid loop) {names : List (List Char)}
    (solids : ∀ name ∈ names, Solid name) : Text.words (writePath loop names) = [writePath loop names] :=
  Text.words_of_solid (writePath_ne_nil solid names) fun c here => (writePath_clean solid solids c here).1

/-! ### Conditions -/

def writeCondition (loop : List Char) (names : List (List Char)) (op : Operator) (operand : List Char) : List Char :=
  writePath loop names ++ ' ' :: (op.symbol.toList ++ ' ' :: '@' :: operand)

theorem words_writeCondition {loop : List Char} (solid : Solid loop) {names : List (List Char)}
    (solids : ∀ name ∈ names, Solid name) (op : Operator) {operand : List Char} (solidOperand : Solid operand) :
    Text.words (writeCondition loop names op operand) =
      writePath loop names :: (Text.words op.symbol.toList ++ ['@' :: operand]) := by
  have last := solidOperand.cons (c := '@') (by decide)
  rw [writeCondition, Text.words_append, Text.words_append, words_writePath solid solids,
    Text.words_of_solid last.nonempty last.notBlank]
  rfl

theorem Statement.readCondition_writeCondition {loop : List Char} (solid : Solid loop) {names : List (List Char)}
    (nonempty : names ≠ []) (solids : ∀ name ∈ names, Solid name) (op : Operator) {operand : List Char}
    (solidOperand : Solid operand) :
    readCondition loop (writeCondition loop names op operand) =
      .ok ⟨parameters names, op, .parameter (String.ofList operand)⟩ := by
  have words := words_writeCondition solid solids op solidOperand
  have path := readPath_writePath solid nonempty solids
  obtain ⟨first, rest, symbol, joined⟩ := op.words_symbol
  rw [symbol] at words
  cases rest with
  | nil =>
    have symbolOf : " ".intercalate [String.ofList first] = op.symbol := joined
    simp [readCondition, words, symbolOf, op.read?_symbol, path, readOperand, bind, Except.bind, pure, Except.pure]
  | cons second rest =>
    have last : (second :: (rest ++ ['@' :: operand])).getLast (List.cons_ne_nil _ _) = '@' :: operand :=
      List.getLast_concat (l := second :: rest)
    have others : (first :: second :: (rest ++ ['@' :: operand])).dropLast = first :: second :: rest := by
      rw [← List.cons_append, ← List.cons_append, List.dropLast_concat]
    simp only [readCondition, words, List.cons_append, last, others, joined, op.read?_symbol, path, readOperand, bind,
      Except.bind, pure, Except.pure]

/-! ### Sort keys -/

theorem mapM_eq_ok {ε α β : Type} {f : α → Except ε β} {g : α → β} {items : List α}
    (each : ∀ x ∈ items, f x = .ok (g x)) : items.mapM f = .ok (items.map g) := by
  induction items with
  | nil => rfl
  | cons x rest ih =>
    obtain ⟨here, later⟩ := List.forall_mem_cons.mp each
    rw [List.mapM_cons, here, ih later]
    rfl

def directionWord (descending : Bool) : List Char :=
  if descending then ['D', 'E', 'S', 'C'] else ['A', 'S', 'C']

theorem solid_directionWord (descending : Bool) : Solid (directionWord descending) := by
  cases descending <;> decide

def writeSortKey (loop : List Char) (key : List (List Char) × Bool) : List Char :=
  writePath loop key.1 ++ ' ' :: directionWord key.2

theorem Statement.readSortKey_writeSortKey {loop : List Char} (solid : Solid loop) (spaces : Nat)
    {key : List (List Char) × Bool} (nonempty : key.1 ≠ []) (solids : ∀ name ∈ key.1, Solid name) :
    readSortKey loop (List.replicate spaces ' ' ++ writeSortKey loop key) = .ok ⟨parameters key.1, key.2⟩ := by
  have path := readPath_writePath solid nonempty solids
  have words : Text.words (List.replicate spaces ' ' ++ writeSortKey loop key) =
      [writePath loop key.1, directionWord key.2] := by
    have direction := solid_directionWord key.2
    rw [Text.words_blanks, writeSortKey, Text.words_append, words_writePath solid solids,
      Text.words_of_solid direction.nonempty direction.notBlank]
    rfl
  have direction : readDirection? (directionWord key.2) = some key.2 := by cases key.2 <;> rfl
  simp only [readSortKey, words, direction, path]
  rfl

theorem Statement.readSortKeys {loop : List Char} (solid : Solid loop) (first : List (List Char) × Bool)
    (rest : List (List (List Char) × Bool))
    (keyed : ∀ key ∈ first :: rest, key.1 ≠ [] ∧ ∀ name ∈ key.1, Solid name) :
    (Text.splitBy (· = ',') ([',', ' '].intercalate ((first :: rest).map (writeSortKey loop)))).mapM
        (readSortKey loop) = .ok ((first :: rest).map fun key => ⟨parameters key.1, key.2⟩) := by
  have clean : ∀ text ∈ (first :: rest).map (writeSortKey loop), ∀ c ∈ text, decide (c = ',') = false := by
    intro text listed c here
    obtain ⟨key, member, rfl⟩ := List.mem_map.mp listed
    refine decide_eq_false ?_
    rcases List.mem_append.mp here with here | here
    · exact (writePath_clean solid (keyed key member).2 c here).2
    · rcases List.mem_cons.mp here with rfl | here
      · decide
      · exact ((solid_directionWord key.2).clean c here).2.2
  have pieces : Text.splitBy (· = ',') ([',', ' '].intercalate ((first :: rest).map (writeSortKey loop))) =
      writeSortKey loop first :: (rest.map (writeSortKey loop)).map ([' '] ++ ·) :=
    Text.splitBy_intercalate_clean rfl (List.forall_mem_singleton.mpr rfl) clean
  obtain ⟨firstKeyed, restKeyed⟩ := List.forall_mem_cons.mp keyed
  rw [pieces, List.mapM_cons, List.map_map]
  have head := readSortKey_writeSortKey solid 0 firstKeyed.1 firstKeyed.2
  have others : (rest.map ((([' '] ++ ·) ∘ writeSortKey loop))).mapM (readSortKey loop) =
      .ok (rest.map fun key => ⟨parameters key.1, key.2⟩) := by
    rw [List.mapM_map]
    exact mapM_eq_ok fun key listed =>
      readSortKey_writeSortKey solid 1 (restKeyed key listed).1 (restKeyed key listed).2
  rw [others]
  rw [List.replicate_zero, List.nil_append] at head
  rw [head]
  rfl

/-! ### Numbers -/

theorem toNat_of_isDigit {c : Char} (digit : c.isDigit = true) : 48 ≤ c.toNat ∧ c.toNat ≤ 57 := by
  rw [Char.isDigit, Bool.and_eq_true, decide_eq_true_eq, decide_eq_true_eq] at digit
  exact digit

theorem digit?_of_isDigit {c : Char} (digit : c.isDigit = true) : Value.digit? c = some (c.toNat - '0'.toNat) := by
  have bounds : '0' ≤ c ∧ c ≤ '9' := toNat_of_isDigit digit
  rw [Value.digit?, if_pos bounds]

theorem ofDigits_filterMap {digits : List Char} (all : ∀ c ∈ digits, c.isDigit = true) (n : Nat) :
    (digits.filterMap Value.digit?).foldl (fun n d => n * 10 + d) n = Nat.ofDigitChars 10 digits n := by
  induction digits generalizing n with
  | nil => simp
  | cons c rest ih =>
    obtain ⟨here, later⟩ := List.forall_mem_cons.mp all
    rw [List.filterMap_cons_some (digit?_of_isDigit here), List.foldl_cons, ih later, Nat.ofDigitChars_cons,
      Nat.mul_comm]

theorem isDigit_of_mem_toDigits {n : Nat} : ∀ c ∈ Nat.toDigits 10 n, c.isDigit = true :=
  fun _ => Nat.isDigit_of_mem_toDigits (by decide) (by decide)

theorem ofDigits_toDigits (n : Nat) : Value.ofDigits ((Nat.toDigits 10 n).filterMap Value.digit?) = n := by
  rw [Value.ofDigits, ofDigits_filterMap isDigit_of_mem_toDigits, Nat.ofDigitChars_ten_toDigits]

theorem clean_of_isDigit {c : Char} (digit : c.isDigit = true) : Text.isBlank c = false ∧ c ≠ '.' ∧ c ≠ ',' := by
  obtain ⟨low, high⟩ := toNat_of_isDigit digit
  refine ⟨?_, ?_, ?_⟩
  · simp only [Text.isBlank, Bool.or_eq_false_iff, Bool.and_eq_false_iff, decide_eq_false_iff_not]
    omega
  · rintro rfl
    revert low
    decide
  · rintro rfl
    revert low
    decide

theorem solid_toDigits (n : Nat) : Solid (Nat.toDigits 10 n) where
  nonempty := Nat.toDigits_ne_nil
  clean c here := clean_of_isDigit (isDigit_of_mem_toDigits c here)

namespace Statement

theorem natural?_toDigits {n : Nat} (small : n < UInt64.size) : natural? (Nat.toDigits 10 n) = some n := by
  have digits := isDigit_of_mem_toDigits (n := n)
  have valid : ((Nat.toDigits 10 n).isEmpty || !(Nat.toDigits 10 n).all fun c => (Value.digit? c).isSome) = false := by
    rw [Bool.or_eq_false_iff, List.isEmpty_eq_false_iff, Bool.not_eq_false', List.all_eq_true]
    refine ⟨Nat.toDigits_ne_nil, fun c here => ?_⟩
    rw [digit?_of_isDigit (digits c here)]
    rfl
  have number := ofDigits_toDigits n
  unfold natural?
  split
  · rename_i rest signed
    have sign := digits '+' (signed ▸ List.mem_cons_self)
    exact absurd sign (by decide)
  · simp only [valid, number, if_pos small, Bool.false_eq_true, if_false]

theorem readNumber_toDigits {n : Nat} (small : n < UInt64.size) (spaces : Nat) :
    readNumber (List.replicate spaces ' ' ++ Nat.toDigits 10 n) = .ok n := by
  rw [readNumber, Text.trim_word spaces Nat.toDigits_ne_nil (solid_toDigits n).notBlank, natural?_toDigits small]

def writeLimit (offset limit : Nat) : List Char :=
  Nat.toDigits 10 offset ++ ',' :: ' ' :: Nat.toDigits 10 limit

theorem readLimit_writeLimit {offset limit : Nat} (smallOffset : offset < UInt64.size)
    (smallLimit : limit < UInt64.size) :
    readLimit (writeLimit offset limit) = .ok (offset, limit) := by
  have clean : ',' ∉ Nat.toDigits 10 offset := fun here => ((solid_toDigits offset).clean ',' here).2.2 rfl
  have first := readNumber_toDigits smallOffset 0
  have second := readNumber_toDigits smallLimit 1
  rw [List.replicate_zero, List.nil_append] at first
  rw [List.replicate_one, List.singleton_append] at second
  rw [readLimit, writeLimit, Text.splitFirst?_append clean]
  simp only [first, second]
  rfl

/-! ### Lines -/

theorem lines_intercalate (first : String) (rest : List String) :
    lines ("\n".intercalate (first :: rest)) = (first :: rest).flatMap lines := by
  have split : Text.splitBy (· = '\n') (['\n'].intercalate (first.toList :: rest.map String.toList)) =
      Text.splitBy (· = '\n') first.toList ++
        (rest.map String.toList).flatMap fun text => Text.splitBy (· = '\n') ([] ++ text) :=
    Text.splitBy_intercalate rfl [] _ _
  have joined : ("\n".intercalate (first :: rest)).toList =
      ['\n'].intercalate (first.toList :: rest.map String.toList) := String.toList_intercalate
  rw [lines, joined, split, List.map_append, List.filter_append, List.flatMap_cons]
  simp only [List.nil_append, List.flatMap_map, List.map_flatMap, List.filter_flatMap]
  rfl

theorem lines_line {text : String} (spaces : Nat) {first : Char} (solidFirst : Text.isBlank first = false)
    {body last : List Char} (nonempty : last ≠ []) (solidLast : ∀ c ∈ last, Text.isBlank c = false)
    (whole : text.toList = List.replicate spaces ' ' ++ first :: (body ++ last)) (single : '\n' ∉ body) :
    lines text = [first :: (body ++ last)] := by
  have notNewline {c : Char} (solid : Text.isBlank c = false) : c ≠ '\n' := by
    rintro rfl
    cases solid
  have clean : ∀ c ∈ text.toList, decide (c = '\n') = false := by
    intro c here
    refine decide_eq_false ?_
    rw [whole, List.mem_append, List.mem_cons, List.mem_append] at here
    rcases here with here | rfl | here | here
    · rw [List.eq_of_mem_replicate here]
      decide
    · exact notNewline solidFirst
    · rintro rfl
      exact single here
    · exact notNewline (solidLast c here)
  rw [lines, Text.splitBy_of_clean clean, whole, List.map_singleton,
    Text.trim_line spaces solidFirst body nonempty solidLast]
  rfl

/-! ### Clauses -/

variable {loop : List Char} {s : Statement} {rest : List (List Char)}

theorem readClauses_filter {text : List Char} {c : Condition} (read : readCondition loop text = .ok c) :
    readClauses loop s (("FILTER ".toList ++ text) :: rest) =
      readClauses loop { s with conditions := s.conditions ++ [c] } rest := by
  have kind : clause ("FILTER ".toList ++ text) = .filter text := rfl
  rw [readClauses.eq_def]
  simp only [kind, read]
  rfl

theorem readClauses_and {text : List Char} {c : Condition} (read : readCondition loop text = .ok c)
    (started : s.conditions ≠ []) :
    readClauses loop s (("AND ".toList ++ text) :: rest) =
      readClauses loop { s with conditions := s.conditions ++ [c] } rest := by
  have kind : clause ("AND ".toList ++ text) = .also text := rfl
  rw [readClauses.eq_def]
  simp only [kind, read, List.isEmpty_eq_false_iff.mpr started]
  rfl

theorem readClauses_sort {text : List Char} {keys : List SortKey}
    (read : (Text.splitBy (· = ',') text).mapM (readSortKey loop) = .ok keys) :
    readClauses loop s (("SORT ".toList ++ text) :: rest) =
      readClauses loop { s with sort := s.sort ++ keys } rest := by
  have kind : clause ("SORT ".toList ++ text) = .sort text := rfl
  rw [readClauses.eq_def]
  simp only [kind, read]
  rfl

theorem readClauses_limit {text : List Char} {limit : Nat × Nat} (read : readLimit text = .ok limit) :
    readClauses loop s (("LIMIT ".toList ++ text) :: rest) = readClauses loop { s with limit := some limit } rest := by
  have kind : clause ("LIMIT ".toList ++ text) = .limit text := rfl
  rw [readClauses.eq_def]
  simp only [kind, read]
  rfl

theorem readClauses_return {text : List Char} (read : Text.trim text = loop) :
    readClauses loop s ["RETURN ".toList ++ text] = .ok s := by
  have kind : clause ("RETURN ".toList ++ text) = .output text := rfl
  rw [readClauses.eq_def]
  simp only [kind, read, ne_eq, not_true, if_false]

end Statement

end Query
end RecordStore
