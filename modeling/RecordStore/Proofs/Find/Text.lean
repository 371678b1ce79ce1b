import RecordStore.Proofs.Find.Clauses

/-!
# The text of a find query

Every line of the text is written from clauses, sort keys and a limit (`lines_statementText`), and the store reads the
lines back as the statement that was meant (`ofText_statementText`).
-/

namespace RecordStore
namespace Find

open Query (Solid Statement writePath writeCondition writeSortKey directionWord parameters)

/-! ### Parts of the text -/

def pathNames (stem : String) (length : Nat) : List (List Char) :=
  (List.range length).map fun position => (segmentName stem position).toList

theorem pathNames_ne_nil (stem : String) {segments : List String} (nonempty : segments ≠ []) :
    pathNames stem segments.length ≠ [] := by
  simpa [pathNames] using nonempty

theorem toList_path (loop stem : String) {length : Nat} (nonempty : length ≠ 0) :
    (loop ++ "." ++ pathText stem length).toList = writePath loop.toList (pathNames stem length) := by
  obtain ⟨n, rfl⟩ := Nat.exists_eq_succ_of_ne_zero nonempty
  have texts : ((List.range (n + 1)).map fun position => "@" ++ segmentName stem position).map String.toList =
      (pathNames stem (n + 1)).map ('@' :: ·) := by
    simp [pathNames, Function.comp_def]
  rw [pathText, String.toList_append, String.toList_append, String.toList_intercalate, texts, writePath, pathNames,
    List.range_succ_eq_map, List.map_cons, List.map_cons, List.intercalate_cons_cons]
  rfl

namespace Clause

def written (c : Clause) : List Char :=
  writeCondition loopName.toList (pathNames c.stem c.segments.length) c.operator c.operandName.toList

theorem toList_text (c : Clause) (nonempty : c.segments ≠ []) : (c.text loopName).toList = c.written := by
  have path := toList_path loopName c.stem (mt List.length_eq_zero_iff.mp nonempty)
  rw [text, String.toList_append, String.toList_append, String.toList_append, String.toList_append, path, written,
    writeCondition]
  simp

theorem solid_pathNames (c : Clause) : ∀ name ∈ pathNames c.stem c.segments.length, Solid name := by
  intro name listed
  obtain ⟨position, -, rfl⟩ := List.mem_map.mp listed
  exact solid_field c.term position

theorem solid_operandName (c : Clause) : Solid c.operandName.toList :=
  solid_operand c.term c.operator

def condition (c : Clause) : Query.Condition :=
  ⟨parameters (pathNames c.stem c.segments.length), c.operator, .parameter c.operandName⟩

end Clause

theorem solid_loopName : Solid loopName.toList := by
  decide

theorem Clause.read (c : Clause) (nonempty : c.segments ≠ []) :
    Statement.readCondition loopName.toList c.written = .ok c.condition := by
  have read := Statement.readCondition_writeCondition solid_loopName (pathNames_ne_nil c.stem nonempty)
    c.solid_pathNames c.operator c.solid_operandName
  rwa [String.ofList_toList] at read

namespace Placed

def parts (k : Placed) : List (List Char) × Bool :=
  (pathNames k.stem k.segments.length, k.descending)

theorem toList_text (k : Placed) (nonempty : k.segments ≠ []) :
    (k.text loopName).toList = writeSortKey loopName.toList k.parts := by
  have path := toList_path loopName k.stem (mt List.length_eq_zero_iff.mp nonempty)
  rw [text, String.toList_append, String.toList_append, path, writeSortKey, parts]
  cases k.descending <;> simp [directionText, directionWord]

theorem solid_parts (k : Placed) : ∀ name ∈ k.parts.1, Solid name := by
  intro name listed
  obtain ⟨position, -, rfl⟩ := List.mem_map.mp listed
  exact solid_sort k.number position

def sortKey (k : Placed) : Query.SortKey :=
  ⟨parameters (pathNames k.stem k.segments.length), k.descending⟩

end Placed

/-! ### Lines of the text -/

theorem append_intercalate (first : String) (mark gap text : String) (rest : List String) :
    first ++ (mark ++ gap).intercalate (text :: rest) = mark.intercalate ((first ++ text) :: rest.map (gap ++ ·)) := by
  induction rest generalizing first text with
  | nil => simp
  | cons next rest ih =>
    rw [String.intercalate_cons_cons, List.map_cons, String.intercalate_cons_cons, ← ih gap next]
    simp only [String.append_assoc]

theorem written_eq (c : Clause) :
    c.written = (writePath loopName.toList (pathNames c.stem c.segments.length) ++
      ' ' :: (c.operator.symbol.toList ++ [' ', '@'])) ++ c.operandName.toList := by
  simp [Clause.written, writeCondition]

theorem ne_newline {c : Char} (solid : Text.isBlank c = false) : c ≠ '\n' := by
  rintro rfl
  cases solid

theorem newline_notMem_path {stem : String} {length : Nat} (solids : ∀ name ∈ pathNames stem length, Solid name) :
    '\n' ∉ writePath loopName.toList (pathNames stem length) :=
  fun here => ne_newline (Query.writePath_clean solid_loopName solids _ here).1 rfl

theorem lines_condition {text : String} {c : Clause} (spaces : Nat) (first : Char) (word : List Char)
    (solidFirst : Text.isBlank first = false) (oneLine : '\n' ∉ word)
    (whole : text.toList = List.replicate spaces ' ' ++ first :: (word ++ c.written)) :
    Statement.lines text = [first :: (word ++ c.written)] := by
  have operand := c.solid_operandName
  rw [written_eq, ← List.append_assoc] at whole ⊢
  refine Statement.lines_line spaces solidFirst operand.nonempty operand.notBlank whole ?_
  have symbol : '\n' ∉ c.operator.symbol.toList :=
    (by decide +kernel : ∀ op ∈ Query.Operator.all, '\n' ∉ op.symbol.toList) _ c.operator.mem_all
  have path := newline_notMem_path c.solid_pathNames
  simp [oneLine, path, symbol]

def filterLines : List Clause → List (List Char)
  | [] => []
  | c :: rest => ("FILTER ".toList ++ c.written) :: rest.map fun c => "AND ".toList ++ c.written

theorem lines_filterText {clauses : List Clause} (nonempty : ∀ c ∈ clauses, c.segments ≠ []) :
    (filterText clauses).flatMap Statement.lines = filterLines clauses := by
  cases clauses with
  | nil => rfl
  | cons c rest =>
    obtain ⟨here, later⟩ := List.forall_mem_cons.mp nonempty
    have row : filterText (c :: rest) = ["\n".intercalate (("    FILTER " ++ c.text loopName) ::
        (rest.map (·.text loopName)).map ("        AND " ++ ·))] := by
      rw [← append_intercalate]
      rfl
    have first : Statement.lines ("    FILTER " ++ c.text loopName) = ["FILTER ".toList ++ c.written] := by
      refine lines_condition 4 'F' "ILTER ".toList rfl (by decide) ?_
      rw [String.toList_append, c.toList_text here]
      rfl
    have others : ∀ c ∈ rest, Statement.lines ("        AND " ++ c.text loopName) = ["AND ".toList ++ c.written] := by
      intro c listed
      refine lines_condition 8 'A' "ND ".toList rfl (by decide) ?_
      rw [String.toList_append, c.toList_text (later c listed)]
      rfl
    rw [row, List.flatMap_singleton, Statement.lines_intercalate, List.flatMap_cons, first, filterLines,
      List.flatMap_map, List.flatMap_map, List.flatMap_congr others, List.singleton_append, ← List.flatMap_pure_eq_map]
    rfl

def sortLines (keys : List Placed) : List (List Char) :=
  if keys.isEmpty then []
  else ["SORT ".toList ++ [',', ' '].intercalate (keys.map fun k => writeSortKey loopName.toList k.parts)]

def limitLines (offset : Nat) : Option Nat → List (List Char)
  | some limit => ["LIMIT ".toList ++ Statement.writeLimit offset limit]
  | none => []

theorem newline_notMem_sortKey (k : Placed) : '\n' ∉ writeSortKey loopName.toList k.parts := by
  have path := newline_notMem_path k.solid_parts
  have direction : '\n' ∉ directionWord k.descending := fun here =>
    ne_newline ((Query.solid_directionWord k.descending).notBlank _ here) rfl
  rw [writeSortKey, List.mem_append, List.mem_cons]
  rintro (here | here | here)
  · exact path here
  · cases here
  · exact direction here

theorem lines_sortText {keys : List Placed} (nonempty : ∀ k ∈ keys, k.segments ≠ []) :
    (sortText keys).flatMap Statement.lines = sortLines keys := by
  cases keys with
  | nil => rfl
  | cons k rest =>
    generalize texted : (k :: rest).map (fun k => writeSortKey loopName.toList k.parts) = texts
    have written : ((k :: rest).map (·.text loopName)).map String.toList = texts := by
      rw [← texted, List.map_map]
      exact List.map_congr_left fun k listed => k.toList_text (nonempty k listed)
    have oneLine : ∀ c ∈ [',', ' '].intercalate texts, c ≠ '\n' := by
      refine Text.forall_mem_intercalate (by simp) fun text listed c inText => ?_
      obtain ⟨k, -, rfl⟩ := List.mem_map.mp (texted ▸ listed)
      rintro rfl
      exact newline_notMem_sortKey k inText
    -- the line ends with the direction of the last key
    obtain ⟨before, text, listed, ending⟩ := Text.exists_intercalate_eq [',', ' ']
      (texted ▸ List.cons_ne_nil _ _ : texts ≠ [])
    obtain ⟨last, -, rfl⟩ := List.mem_map.mp (texted ▸ listed)
    have direction := Query.solid_directionWord last.parts.2
    have parts : "ORT ".toList ++ [',', ' '].intercalate texts =
        ("ORT ".toList ++ before ++ writePath loopName.toList last.parts.1 ++ [' ']) ++ directionWord last.parts.2 := by
      simp [ending, writeSortKey]
    have whole : ("    " ++ sortClause (k :: rest) loopName).toList =
        List.replicate 4 ' ' ++ 'S' :: ("ORT ".toList ++ [',', ' '].intercalate texts) := by
      rw [sortClause, if_neg (by simp), String.toList_append, String.toList_append, String.toList_intercalate, written]
      rfl
    have single : '\n' ∉ "ORT ".toList ++ before ++ writePath loopName.toList last.parts.1 ++ [' '] := by
      intro here
      have inRow := List.mem_append_left (directionWord last.parts.2) here
      rw [← parts, List.mem_append] at inRow
      exact inRow.elim (by decide) fun here => oneLine '\n' here rfl
    rw [parts] at whole
    have line := Statement.lines_line 4 rfl direction.nonempty direction.notBlank whole single
    rw [sortText, if_neg (by simp), List.flatMap_singleton, line, sortLines, if_neg (by simp), texted, ← parts]
    rfl

theorem lines_limitText (offset : Nat) (limit : Option Nat) :
    (limitText offset limit).flatMap Statement.lines = limitLines offset limit := by
  cases limit with
  | none => rfl
  | some limit =>
    have digits := Query.solid_toDigits limit
    have single : '\n' ∉ "IMIT ".toList ++ Nat.toDigits 10 offset ++ [',', ' '] := by
      have first : '\n' ∉ Nat.toDigits 10 offset := fun here =>
        ne_newline ((Query.solid_toDigits offset).notBlank _ here) rfl
      simp [first]
    have whole : ("    LIMIT " ++ toString offset ++ ", " ++ toString limit).toList =
        List.replicate 4 ' ' ++ 'L' :: (("IMIT ".toList ++ Nat.toDigits 10 offset ++ [',', ' ']) ++
          Nat.toDigits 10 limit) := by
      simp
    rw [limitText, List.flatMap_singleton, Statement.lines_line 4 rfl digits.nonempty digits.notBlank whole single]
    simp [limitLines, Statement.writeLimit]

theorem lines_statementText {clauses : List Clause} (paths : ∀ c ∈ clauses, c.segments ≠ []) {keys : List Placed}
    (sortPaths : ∀ k ∈ keys, k.segments ≠ []) (offset : Nat) (limit : Option Nat) :
    Statement.lines (statementText clauses keys offset limit) =
      "FOR i IN @@collection".toList :: (filterLines clauses ++ (sortLines keys ++ (limitLines offset limit ++
        ["RETURN i".toList]))) := by
  have first : Statement.lines ("FOR " ++ loopName ++ " IN @@collection") = ["FOR i IN @@collection".toList] := by
    decide +kernel
  have last : Statement.lines ("    RETURN " ++ loopName) = ["RETURN i".toList] := by decide +kernel
  rw [statementText, List.cons_append, List.cons_append, List.cons_append, Statement.lines_intercalate,
    List.flatMap_cons, List.flatMap_append, List.flatMap_append, List.flatMap_append, List.flatMap_singleton,
    first, last, lines_filterText paths, lines_sortText sortPaths, lines_limitText]
  simp

/-! ### The statement that is read -/

theorem readClauses_also {clauses : List Clause} (paths : ∀ c ∈ clauses, c.segments ≠ []) {s : Statement}
    (started : s.conditions ≠ []) (rest : List (List Char)) :
    Statement.readClauses loopName.toList s ((clauses.map fun c => "AND ".toList ++ c.written) ++ rest) =
      Statement.readClauses loopName.toList
        { s with conditions := s.conditions ++ clauses.map (·.condition) } rest := by
  induction clauses generalizing s with
  | nil => simp
  | cons c others ih =>
    obtain ⟨here, later⟩ := List.forall_mem_cons.mp paths
    rw [List.map_cons, List.cons_append, Statement.readClauses_and (c.read here) started,
      ih later (List.append_ne_nil_of_left_ne_nil started _)]
    simp

theorem readClauses_filterLines {clauses : List Clause} (paths : ∀ c ∈ clauses, c.segments ≠ []) (s : Statement)
    (rest : List (List Char)) :
    Statement.readClauses loopName.toList s (filterLines clauses ++ rest) =
      Statement.readClauses loopName.toList
        { s with conditions := s.conditions ++ clauses.map (·.condition) } rest := by
  cases clauses with
  | nil => simp [filterLines]
  | cons c others =>
    obtain ⟨here, later⟩ := List.forall_mem_cons.mp paths
    rw [filterLines, List.cons_append, Statement.readClauses_filter (c.read here), readClauses_also later (by simp)]
    simp

theorem readClauses_sortLines {keys : List Placed} (paths : ∀ k ∈ keys, k.segments ≠ []) (s : Statement)
    (rest : List (List Char)) :
    Statement.readClauses loopName.toList s (sortLines keys ++ rest) =
      Statement.readClauses loopName.toList { s with sort := s.sort ++ keys.map (·.sortKey) } rest := by
  cases keys with
  | nil => simp [sortLines]
  | cons k others =>
    have keyed : ∀ key ∈ k.parts :: others.map (·.parts), key.1 ≠ [] ∧ ∀ name ∈ key.1, Solid name := by
      rw [← List.map_cons]
      intro key listed
      obtain ⟨k, member, rfl⟩ := List.mem_map.mp listed
      exact ⟨pathNames_ne_nil k.stem (paths k member), k.solid_parts⟩
    have read := Statement.readSortKeys solid_loopName k.parts (others.map (·.parts)) keyed
    rw [← List.map_cons, List.map_map, List.map_map] at read
    rw [sortLines, if_neg (by simp), List.singleton_append]
    exact Statement.readClauses_sort read

theorem readClauses_limitLines {offset : Nat} {limit : Option Nat} (smallOffset : offset < UInt64.size)
    (smallLimit : ∀ n ∈ limit, n < UInt64.size) {s : Statement} (unlimited : s.limit = none) (rest : List (List Char)) :
    Statement.readClauses loopName.toList s (limitLines offset limit ++ rest) =
      Statement.readClauses loopName.toList { s with limit := limit.map (offset, ·) } rest := by
  cases limit with
  | none => simp [limitLines, ← unlimited]
  | some n =>
    rw [limitLines, List.singleton_append]
    exact Statement.readClauses_limit (Statement.readLimit_writeLimit smallOffset (smallLimit n rfl))

def statement (clauses : List Clause) (keys : List Placed) (offset : Nat) (limit : Option Nat) : Statement where
  source := .parameter collectionName
  conditions := clauses.map (·.condition)
  sort := keys.map (·.sortKey)
  limit := limit.map (offset, ·)

/-- The text of a find query is read back as what it means. -/
theorem ofText_statementText {clauses : List Clause} (paths : ∀ c ∈ clauses, c.segments ≠ []) {keys : List Placed}
    (sortPaths : ∀ k ∈ keys, k.segments ≠ []) {offset : Nat} {limit : Option Nat} (smallOffset : offset < UInt64.size)
    (smallLimit : ∀ n ∈ limit, n < UInt64.size) :
    Statement.ofText (statementText clauses keys offset limit) = .ok (statement clauses keys offset limit) := by
  have header : Statement.readLoop "FOR i IN @@collection".toList =
      .ok (loopName.toList, .parameter collectionName) := by rfl
  have ending : "RETURN i".toList = "RETURN ".toList ++ loopName.toList := by rfl
  rw [Statement.ofText, lines_statementText paths sortPaths]
  simp only [header]
  show Statement.readClauses _ _ _ = _
  rw [readClauses_filterLines paths, readClauses_sortLines sortPaths, readClauses_limitLines smallOffset smallLimit rfl,
    ending, Statement.readClauses_return (by decide)]
  rfl

end Find
end RecordStore
