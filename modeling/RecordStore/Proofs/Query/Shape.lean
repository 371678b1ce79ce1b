import Mathlib.Data.List.Forall2
import RecordStore.Proofs.Query.Reading
import RecordStore.Store.Request

/-!
# The texts that are statements

A text is a statement if its lines are a loop, then parts in any order of which no AND comes before the first FILTER, and
last the return of the loop variable (`Written`). Conditions and sort keys add up, and the last limit counts, so every
statement can be rearranged to stand in the documented order (`exists_documented`); but the order is not asked for
(`misplaced_clauses_accepted`). Every other text is refused as no statement (`statements_judged`).
-/

namespace RecordStore

namespace Query
namespace Statement

/-! ### Lines -/

theorem isLine_of_mem_lines {text : String} {line : List Char} (listed : line ∈ lines text) : Text.IsLine line := by
  obtain ⟨member, nonempty⟩ := List.mem_filter.mp listed
  obtain ⟨piece, cut, rfl⟩ := List.mem_map.mp member
  have nonempty : Text.trim piece ≠ [] := by simpa using nonempty
  refine ⟨Text.starts_trim nonempty, Text.ends_trim nonempty, fun here => ?_⟩
  exact absurd (Text.notMem_of_mem_splitBy cut _ (Text.mem_of_mem_trim here)) (by decide)

/-- Lines that are written one below the other are the lines of the text. -/
theorem lines_join (first : List Char) (rest : List (List Char)) (isLine : ∀ line ∈ first :: rest, Text.IsLine line) :
    lines ("\n".intercalate ((first :: rest).map String.ofList)) = first :: rest := by
  have each : ∀ line ∈ first :: rest, lines (String.ofList line) = [line] := by
    intro line listed
    have whole := isLine line listed
    have clean : ∀ c ∈ (String.ofList line).toList, decide (c = '\n') = false := by
      intro c here
      rw [String.toList_ofList] at here
      exact decide_eq_false fun same => whole.single (same ▸ here)
    obtain ⟨c, others, starts, -⟩ := whole.starts
    rw [lines, Text.splitBy_of_clean clean, String.toList_ofList, List.map_singleton, Text.trim_of_isLine whole, starts]
    rfl
  rw [List.map_cons, lines_intercalate, ← List.map_cons, List.flatMap_map, List.flatMap_congr each]
  exact List.flatMap_singleton' _

/-! ### Parts -/

/-- What a line between the loop and the end of a statement is read as. -/
inductive Part where
  | filter (c : Condition)
  | also (c : Condition)
  | sort (keys : List SortKey)
  | limit (limit : Nat × Nat)

namespace Part

/-- How lines are read: a word, and after a blank what belongs to the word. -/
inductive Reads (loop : List Char) : List Char → Part → Prop
  | filter {text : List Char} {c : Condition} (read : readCondition loop text = .ok c) :
      Reads loop ("FILTER ".toList ++ text) (.filter c)
  | also {text : List Char} {c : Condition} (read : readCondition loop text = .ok c) :
      Reads loop ("AND ".toList ++ text) (.also c)
  | sort {text : List Char} {keys : List SortKey}
      (read : (Text.splitBy (· = ',') text).mapM (readSortKey loop) = .ok keys) :
      Reads loop ("SORT ".toList ++ text) (.sort keys)
  | limit {text : List Char} {limit : Nat × Nat} (read : readLimit text = .ok limit) :
      Reads loop ("LIMIT ".toList ++ text) (.limit limit)

def conditions : Part → List Condition
  | filter c => [c]
  | also c => [c]
  | _ => []

def sortKeys : Part → List SortKey
  | sort keys => keys
  | _ => []

def limit? : Part → Option (Nat × Nat)
  | limit l => some l
  | _ => none

end Part

/-- A statement with more parts: conditions and sort keys add up, and the last limit counts. -/
def adding (s : Statement) (parts : List Part) : Statement where
  source := s.source
  conditions := s.conditions ++ parts.flatMap Part.conditions
  sort := s.sort ++ parts.flatMap Part.sortKeys
  limit := (parts.filterMap Part.limit?).getLast?.or s.limit

theorem adding_one (s : Statement) (part : Part) :
    s.adding [part] =
      match part with
      | .filter c | .also c => { s with conditions := s.conditions ++ [c] }
      | .sort keys => { s with sort := s.sort ++ keys }
      | .limit slice => { s with limit := some slice } := by
  cases part <;> simp [adding, Part.conditions, Part.sortKeys, Part.limit?]

/-- Every AND goes on with what some FILTER before it has begun. -/
def Opened (parts : List Part) : Prop :=
  ∀ before c after, parts = before ++ .also c :: after → ∃ first, .filter first ∈ before

/-- A line that returns the loop variable. -/
def Returns (loop line : List Char) : Prop :=
  ∃ text, line = "RETURN ".toList ++ text ∧ Text.trim text = loop

/-- The collection that a loop runs over: a parameter after `@@`, else the name itself. -/
def sourceTerm : List Char → Term
  | '@' :: '@' :: name => .parameter (String.ofList ('@' :: name))
  | source => .literal (.string (String.ofList source))

/-- A text that is a statement: a loop, parts, and the return of the loop variable, on a line each. -/
inductive Written : String → Statement → Prop
  | intro {text : String} {header loop source last : List Char} {body : List (List Char)} {parts : List Part}
      (cut : lines text = header :: (body ++ [last]))
      (begins : Text.words header = ["FOR".toList, loop, "IN".toList, source])
      (reads : List.Forall₂ (Part.Reads loop) body parts)
      (opened : Opened parts)
      (ends : Returns loop last) :
      Written text (adding { source := sourceTerm source } parts)

/-! ### What is read -/

theorem dropStart?_eq_some {beginning line rest : List Char} (found : Text.dropStart? beginning line = some rest) :
    line = beginning ++ rest := by
  induction beginning generalizing line with
  | nil => exact Option.some.inj found
  | cons b more ih =>
    cases line with
    | nil => cases found
    | cons c others =>
      unfold Text.dropStart? at found
      split at found
      · rename_i same
        rw [same, ih found]
        rfl
      · cases found

/-- The word that a line starts with is that of the clause that it is. -/
theorem eq_of_clause (line : List Char) :
    match clause line with
    | .filter text => line = "FILTER ".toList ++ text
    | .also text => line = "AND ".toList ++ text
    | .sort text => line = "SORT ".toList ++ text
    | .limit text => line = "LIMIT ".toList ++ text
    | .output text => line = "RETURN ".toList ++ text
    | .unsupported => True := by
  unfold clause
  cases filter : Text.dropStart? "FILTER ".toList line with
  | some text => exact dropStart?_eq_some filter
  | none =>
  cases also : Text.dropStart? "AND ".toList line with
  | some text => exact dropStart?_eq_some also
  | none =>
  cases sort : Text.dropStart? "SORT ".toList line with
  | some text => exact dropStart?_eq_some sort
  | none =>
  cases limit : Text.dropStart? "LIMIT ".toList line with
  | some text => exact dropStart?_eq_some limit
  | none =>
  cases output : Text.dropStart? "RETURN ".toList line with
  | some text => exact dropStart?_eq_some output
  | none => trivial

theorem bind_eq_ok {ε α β : Type} {x : Except ε α} {f : α → Except ε β} {b : β} (ok : (x >>= f) = .ok b) :
    ∃ a, x = .ok a ∧ f a = .ok b := by
  cases x with
  | error e => cases ok
  | ok a => exact ⟨a, rfl, ok⟩

/-- What one line does: it ends the statement, or it is read as a part. -/
theorem readClauses_cons {loop line : List Char} {s s' : Statement} {rest : List (List Char)}
    (ok : readClauses loop s (line :: rest) = .ok s') :
    (Returns loop line ∧ rest = [] ∧ s' = s) ∨
      ∃ part, Part.Reads loop line part ∧ ((∃ c, part = .also c) → s.conditions ≠ []) ∧
        readClauses loop (s.adding [part]) rest = .ok s' := by
  have starts := eq_of_clause line
  rw [readClauses.eq_def] at ok
  dsimp only at ok
  split at ok <;> rename_i kind <;> rw [kind] at starts
  · obtain ⟨c, read, ok⟩ := bind_eq_ok ok
    exact .inr ⟨.filter c, starts ▸ .filter read, nofun, by rw [adding_one]; exact ok⟩
  · split at ok
    · cases ok
    · rename_i begun
      obtain ⟨c, read, ok⟩ := bind_eq_ok ok
      exact .inr ⟨.also c, starts ▸ .also read, fun _ => by simpa using begun, by rw [adding_one]; exact ok⟩
  · obtain ⟨keys, read, ok⟩ := bind_eq_ok ok
    exact .inr ⟨.sort keys, starts ▸ .sort read, nofun, by rw [adding_one]; exact ok⟩
  · obtain ⟨limit, read, ok⟩ := bind_eq_ok ok
    exact .inr ⟨.limit limit, starts ▸ .limit read, nofun, by rw [adding_one]; exact ok⟩
  · split at ok
    · cases ok
    · rename_i own
      split at ok
      · exact .inl ⟨⟨_, starts, by simpa using own⟩, rfl, (Except.ok.inj ok).symm⟩
      · cases ok
  · cases ok

theorem readClauses_part {loop line : List Char} {s : Statement} {part : Part} (reads : Part.Reads loop line part)
    (begun : (∃ c, part = .also c) → s.conditions ≠ []) (rest : List (List Char)) :
    readClauses loop s (line :: rest) = readClauses loop (s.adding [part]) rest := by
  rw [adding_one]
  cases reads with
  | filter read => exact readClauses_filter read
  | also read => exact readClauses_and read (begun ⟨_, rfl⟩)
  | sort read => exact readClauses_sort read
  | limit read => exact readClauses_limit read

theorem adding_append (s : Statement) (first second : List Part) :
    s.adding (first ++ second) = (s.adding first).adding second := by
  simp only [adding, List.flatMap_append, List.filterMap_append, List.append_assoc, List.getLast?_append, Option.or_assoc]

theorem adding_cons (s : Statement) (part : Part) (rest : List Part) :
    s.adding (part :: rest) = (s.adding [part]).adding rest :=
  adding_append s [part] rest

theorem opened_nil : Opened [] := fun before c after same => by simp at same

/-- Once conditions have begun an AND may follow; otherwise the first of them has to be a FILTER. -/
theorem opened_cons {part : Part} {rest : List Part} : Opened (part :: rest) ↔
    (∀ c, part ≠ .also c) ∧ ((∃ c, part = .filter c) ∨ Opened rest) := by
  constructor
  · intro opened
    refine ⟨?_, ?_⟩
    · rintro c rfl
      obtain ⟨first, here⟩ := opened [] c rest rfl
      exact List.not_mem_nil here
    · refine or_iff_not_imp_left.mpr fun other before c after same => ?_
      obtain ⟨first, here⟩ := opened (part :: before) c after (by rw [same]; rfl)
      exact ⟨first, (List.mem_cons.mp here).resolve_left fun own => other ⟨first, own.symm⟩⟩
  · rintro ⟨different, begun⟩ before c after same
    cases before with
    | nil => exact absurd (List.cons.inj same).1 (different c)
    | cons first others =>
      obtain ⟨rfl, later⟩ := List.cons.inj same
      rcases begun with ⟨d, rfl⟩ | opened
      · exact ⟨d, List.mem_cons_self⟩
      · obtain ⟨d, here⟩ := opened others c after later
        exact ⟨d, List.mem_cons_of_mem _ here⟩

/-- Lines after the loop are read exactly if they are parts and a last line that returns the loop variable. -/
theorem readClauses_eq_ok {loop : List Char} {s s' : Statement} {rest : List (List Char)} :
    readClauses loop s rest = .ok s' ↔
      ∃ body last parts, rest = body ++ [last] ∧ List.Forall₂ (Part.Reads loop) body parts ∧
        (s.conditions = [] → Opened parts) ∧ Returns loop last ∧ s' = s.adding parts := by
  constructor
  · intro ok
    induction rest generalizing s with
    | nil => cases ok
    | cons line rest ih =>
      rcases readClauses_cons ok with ⟨ends, rfl, rfl⟩ | ⟨part, reads, begun, ok⟩
      · exact ⟨[], line, [], rfl, .nil, fun _ => opened_nil, ends, by simp [adding]⟩
      · obtain ⟨body, last, parts, rfl, readsRest, opened, ends, rfl⟩ := ih ok
        refine ⟨line :: body, last, part :: parts, rfl, .cons reads readsRest, fun none => ?_, ends,
          (adding_cons s part parts).symm⟩
        refine opened_cons.mpr ⟨fun c also => begun ⟨c, also⟩ none, ?_⟩
        cases part with
        | filter c => exact .inl ⟨c, rfl⟩
        | also c => exact absurd none (begun ⟨c, rfl⟩)
        | sort keys => exact .inr (opened (by rw [adding_one]; exact none))
        | limit limit => exact .inr (opened (by rw [adding_one]; exact none))
  · rintro ⟨body, last, parts, rfl, reads, opened, ⟨text, rfl, own⟩, rfl⟩
    induction reads generalizing s with
    | nil => simpa [adding] using readClauses_return (s := s) own
    | @cons line part body parts reads readsRest ih =>
      have begun : (∃ c, part = .also c) → s.conditions ≠ [] := by
        rintro ⟨c, rfl⟩ none
        exact (opened_cons.mp (opened none)).1 c rfl
      rw [List.cons_append, readClauses_part reads begun, adding_cons s part parts]
      refine ih fun none => ?_
      have unbegun : s.conditions = [] := (List.append_eq_nil_iff.mp none).1
      rcases (opened_cons.mp (opened unbegun)).2 with ⟨c, rfl⟩ | later
      · simp [adding, Part.conditions] at none
      · exact later

theorem readLoop_of_words {header loop source : List Char}
    (words : Text.words header = ["FOR".toList, loop, "IN".toList, source]) :
    readLoop header = .ok (loop, sourceTerm source) := by
  have words : Text.words header = [['F', 'O', 'R'], loop, ['I', 'N'], source] := words
  simp only [readLoop, words]
  split
  · rfl
  · rename_i plain
    rw [sourceTerm.eq_2 source plain]

theorem readLoop_eq_ok {header loop : List Char} {term : Term} :
    readLoop header = .ok (loop, term) ↔
      ∃ source, Text.words header = ["FOR".toList, loop, "IN".toList, source] ∧ term = sourceTerm source := by
  constructor
  · intro ok
    have read := ok
    unfold readLoop at ok
    split at ok
    · rename_i name source words
      rw [readLoop_of_words words] at read
      obtain ⟨rfl, rfl⟩ := Prod.mk.inj (Except.ok.inj read)
      exact ⟨source, words, rfl⟩
    · cases ok
  · rintro ⟨source, words, rfl⟩
    exact readLoop_of_words words

/-- A text is read exactly if it is a statement. -/
theorem ofText_eq_ok {text : String} {s : Statement} : ofText text = .ok s ↔ Written text s := by
  constructor
  · intro ok
    unfold ofText at ok
    split at ok
    · cases ok
    · rename_i header rest cut
      obtain ⟨⟨loop, term⟩, read, ok⟩ := bind_eq_ok ok
      obtain ⟨source, begins, rfl⟩ := readLoop_eq_ok.mp read
      obtain ⟨body, last, parts, rfl, reads, opened, ends, rfl⟩ := readClauses_eq_ok.mp ok
      exact .intro cut begins reads (opened rfl) ends
  · rintro ⟨cut, begins, reads, opened, ends⟩
    rw [ofText, cut]
    simp only [readLoop_of_words begins, bind, Except.bind]
    exact readClauses_eq_ok.mpr ⟨_, _, _, rfl, reads, fun _ => opened, ends, rfl⟩

/-! ### The documented order -/

/-- A line that starts with a word and a blank. -/
def StartsWith (word : String) (line : List Char) : Prop :=
  ∃ text, line = word.toList ++ ' ' :: text

/-- No lines, or a FILTER that any number of ANDs go on with. -/
def IsFilter (lines : List (List Char)) : Prop :=
  lines = [] ∨ ∃ first more, lines = first :: more ∧ StartsWith "FILTER" first ∧ ∀ line ∈ more, StartsWith "AND" line

/-- No line, or one that starts with a word. -/
def IsOptional (word : String) (lines : List (List Char)) : Prop :=
  lines = [] ∨ ∃ line, lines = [line] ∧ StartsWith word line

/-- A text in the documented order: a loop, perhaps a filter, perhaps a sort order, perhaps a limit, and the return of
the loop variable. -/
inductive Documented (text : String) : Prop
  | intro {header loop source last : List Char} {filters sorts limits : List (List Char)}
      (cut : lines text = header :: (filters ++ sorts ++ limits ++ [last]))
      (begins : Text.words header = ["FOR".toList, loop, "IN".toList, source])
      (filter : IsFilter filters)
      (sort : IsOptional "SORT" sorts)
      (limit : IsOptional "LIMIT" limits)
      (ends : Returns loop last)

/-- The rest of a line after a word and a blank. -/
structure Tail (text : List Char) : Prop where
  ends : Text.Ends text
  single : '\n' ∉ text

theorem tail_of_isLine (word : List Char) {text : List Char} (isLine : Text.IsLine (word ++ ' ' :: text)) : Tail text where
  ends := by
    cases text with
    | nil =>
      obtain ⟨before, c, same, solid⟩ := isLine.ends
      obtain ⟨-, blank⟩ := List.append_inj' same rfl
      rw [← List.singleton_inj.mp blank] at solid
      cases solid
    | cons c rest =>
      have ends := isLine.ends
      rw [← List.singleton_append, ← List.append_assoc] at ends
      exact ends.of_append (List.cons_ne_nil c rest)
  single here := isLine.single (List.mem_append_right _ (List.mem_cons_of_mem _ here))

theorem isLine_of_tail (word : List Char) {text : List Char} (tail : Tail text) (starts : Text.Starts word)
    (clean : '\n' ∉ word) :
    Text.IsLine (word ++ ' ' :: text) where
  starts := by
    obtain ⟨c, rest, rfl, solid⟩ := starts
    exact ⟨c, rest ++ ' ' :: text, rfl, solid⟩
  ends := by
    rw [← List.singleton_append, ← List.append_assoc]
    exact tail.ends.append _
  single here := by
    rcases List.mem_append.mp here with here | here
    · exact clean here
    · exact tail.single ((List.mem_cons.mp here).resolve_left (by decide))

theorem tail_intercalate {texts : List (List Char)} (nonempty : texts ≠ []) (tails : ∀ text ∈ texts, Tail text) :
    Tail ([','].intercalate texts) where
  ends := by
    obtain ⟨before, text, listed, joined⟩ := Text.exists_intercalate_eq [','] nonempty
    rw [joined]
    exact (tails text listed).ends.append before
  single here := Text.forall_mem_intercalate (P := (· ≠ '\n')) (List.forall_mem_singleton.mpr (by decide))
    (fun text listed c here same => (tails text listed).single (same ▸ here)) _ here rfl

section Rearranged

variable {loop : List Char} {body : List (List Char)} {parts : List Part}

theorem Part.Reads.isLine_tail {line : List Char} {part : Part} (reads : Part.Reads loop line part)
    (isLine : Text.IsLine line) :
    match part with
    | .filter c | .also c => ∃ text, Tail text ∧ readCondition loop text = .ok c
    | .sort keys => ∃ text, Tail text ∧ (Text.splitBy (· = ',') text).mapM (readSortKey loop) = .ok keys
    | .limit slice => ∃ text, Tail text ∧ readLimit text = .ok slice := by
  cases reads with
  | filter read => exact ⟨_, tail_of_isLine "FILTER".toList isLine, read⟩
  | also read => exact ⟨_, tail_of_isLine "AND".toList isLine, read⟩
  | sort read => exact ⟨_, tail_of_isLine "SORT".toList isLine, read⟩
  | limit read => exact ⟨_, tail_of_isLine "LIMIT".toList isLine, read⟩

theorem exists_conditions (reads : List.Forall₂ (Part.Reads loop) body parts) (isLine : ∀ line ∈ body, Text.IsLine line) :
    ∃ texts, List.Forall₂ (fun text c => Tail text ∧ readCondition loop text = .ok c) texts
      (parts.flatMap Part.conditions) := by
  induction reads with
  | nil => exact ⟨[], .nil⟩
  | @cons line part body parts here _ ih =>
    obtain ⟨first, rest⟩ := List.forall_mem_cons.mp isLine
    obtain ⟨texts, read⟩ := ih rest
    have tail := here.isLine_tail first
    cases part with
    | filter c | also c =>
      obtain ⟨text, own⟩ := tail
      exact ⟨text :: texts, .cons own read⟩
    | sort | limit => exact ⟨texts, read⟩

theorem exists_sortKeys (reads : List.Forall₂ (Part.Reads loop) body parts) (isLine : ∀ line ∈ body, Text.IsLine line) :
    ∃ texts : List (List Char), (∀ text ∈ texts, Tail text) ∧
      (texts.flatMap (Text.splitBy (· = ','))).mapM (readSortKey loop) = .ok (parts.flatMap Part.sortKeys) := by
  induction reads with
  | nil => exact ⟨[], by simp, rfl⟩
  | @cons line part body parts here _ ih =>
    obtain ⟨first, rest⟩ := List.forall_mem_cons.mp isLine
    obtain ⟨texts, tails, read⟩ := ih rest
    have tail := here.isLine_tail first
    cases part with
    | sort keys =>
      obtain ⟨text, own, keyed⟩ := tail
      refine ⟨text :: texts, List.forall_mem_cons.mpr ⟨own, tails⟩, ?_⟩
      rw [List.flatMap_cons, List.mapM_append, keyed, read]
      rfl
    | filter | also | limit => exact ⟨texts, tails, read⟩

theorem exists_limit (reads : List.Forall₂ (Part.Reads loop) body parts) (isLine : ∀ line ∈ body, Text.IsLine line)
    {slice : Nat × Nat} (last : (parts.filterMap Part.limit?).getLast? = some slice) :
    ∃ text, Tail text ∧ readLimit text = .ok slice := by
  have listed := List.mem_of_getLast? last
  clear last
  induction reads with
  | nil => cases listed
  | @cons line part body parts here _ ih =>
    obtain ⟨first, rest⟩ := List.forall_mem_cons.mp isLine
    have tail := here.isLine_tail first
    cases part with
    | limit own =>
      rcases List.mem_cons.mp listed with rfl | later
      · exact tail
      · exact ih rest later
    | filter | also | sort => exact ih rest listed

end Rearranged

/-- Lines, each of a text, that are read as parts and stand in a text as they are. -/
structure Lays (loop : List Char) (added : List (List Char)) (parts : List Part) : Prop where
  reads : List.Forall₂ (Part.Reads loop) added parts
  isLine : ∀ line ∈ added, Text.IsLine line

theorem Lays.append {loop : List Char} {a b : List (List Char)} {p q : List Part} (first : Lays loop a p)
    (second : Lays loop b q) : Lays loop (a ++ b) (p ++ q) where
  reads := List.rel_append first.reads second.reads
  isLine line here := (List.mem_append.mp here).elim (first.isLine line) (second.isLine line)

/-- The first condition as a filter, and the others as what it goes on with. -/
def filterParts : List Condition → List Part
  | [] => []
  | c :: rest => .filter c :: rest.map .also

def filterLines : List (List Char) → List (List Char)
  | [] => []
  | text :: rest => ("FILTER ".toList ++ text) :: rest.map ("AND ".toList ++ ·)

theorem lays_filter {loop : List Char} {texts : List (List Char)} {conditions : List Condition}
    (read : List.Forall₂ (fun text c => Tail text ∧ readCondition loop text = .ok c) texts conditions) :
    Lays loop (filterLines texts) (filterParts conditions) ∧ IsFilter (filterLines texts) := by
  cases read with
  | nil => exact ⟨⟨.nil, fun _ here => absurd here List.not_mem_nil⟩, .inl rfl⟩
  | @cons text c texts conditions first rest =>
    have others : Lays loop (texts.map ("AND ".toList ++ ·)) (conditions.map .also) ∧
        ∀ line ∈ texts.map ("AND ".toList ++ ·), StartsWith "AND" line := by
      induction rest with
      | nil => exact ⟨⟨.nil, fun _ here => absurd here List.not_mem_nil⟩, fun _ here => absurd here List.not_mem_nil⟩
      | @cons text c texts conditions here _ ih =>
        refine ⟨⟨.cons (.also here.2) ih.1.reads, List.forall_mem_cons.mpr ⟨?_, ih.1.isLine⟩⟩,
          List.forall_mem_cons.mpr ⟨⟨text, rfl⟩, ih.2⟩⟩
        exact isLine_of_tail "AND".toList here.1 ⟨'A', "ND".toList, rfl, rfl⟩ (by decide)
    refine ⟨⟨.cons (.filter first.2) others.1.reads, List.forall_mem_cons.mpr ⟨?_, others.1.isLine⟩⟩,
      .inr ⟨_, _, rfl, ⟨text, rfl⟩, others.2⟩⟩
    exact isLine_of_tail "FILTER".toList first.1 ⟨'F', "ILTER".toList, rfl, rfl⟩ (by decide)

theorem lays_sort {loop : List Char} {texts : List (List Char)} (tails : ∀ text ∈ texts, Tail text) {keys : List SortKey}
    (read : (texts.flatMap (Text.splitBy (· = ','))).mapM (readSortKey loop) = .ok keys) :
    ∃ added parts, Lays loop added parts ∧ IsOptional "SORT" added ∧
      (parts = [] ∧ keys = [] ∨ parts = [.sort keys]) := by
  cases texts with
  | nil =>
    exact ⟨[], [], ⟨.nil, fun _ here => absurd here List.not_mem_nil⟩, .inl rfl,
      .inl ⟨rfl, (Except.ok.inj read).symm⟩⟩
  | cons first rest =>
    have joined : Text.splitBy (· = ',') ([','].intercalate (first :: rest)) =
        (first :: rest).flatMap (Text.splitBy (· = ',')) := Text.splitBy_intercalate rfl [] first rest
    have tail := tail_intercalate (List.cons_ne_nil first rest) tails
    refine ⟨["SORT ".toList ++ [','].intercalate (first :: rest)], [.sort keys],
      ⟨.cons (.sort (by rw [joined, read])) .nil, List.forall_mem_singleton.mpr ?_⟩, .inr ⟨_, rfl, _, rfl⟩, .inr rfl⟩
    exact isLine_of_tail "SORT".toList tail ⟨'S', "ORT".toList, rfl, rfl⟩ (by decide)

theorem lays_limit (loop : List Char) {slice : Option (Nat × Nat)}
    (read : ∀ limit, slice = some limit → ∃ text, Tail text ∧ readLimit text = .ok limit) :
    ∃ added, Lays loop added (slice.toList.map .limit) ∧ IsOptional "LIMIT" added := by
  cases slice with
  | none => exact ⟨[], ⟨.nil, fun _ here => absurd here List.not_mem_nil⟩, .inl rfl⟩
  | some limit =>
    obtain ⟨text, tail, own⟩ := read limit rfl
    refine ⟨["LIMIT ".toList ++ text], ⟨.cons (.limit own) .nil, List.forall_mem_singleton.mpr ?_⟩, .inr ⟨_, rfl, _, rfl⟩⟩
    exact isLine_of_tail "LIMIT".toList tail ⟨'L', "IMIT".toList, rfl, rfl⟩ (by decide)

theorem opened_filterParts {conditions : List Condition} {others : List Part} (none : ∀ c, .also c ∉ others) :
    Opened (filterParts conditions ++ others) := by
  cases conditions with
  | nil =>
    intro before c after same
    have same : others = before ++ .also c :: after := same
    exact absurd (same ▸ List.mem_append_right before List.mem_cons_self) (none c)
  | cons c rest => exact opened_cons.mpr ⟨nofun, .inl ⟨c, rfl⟩⟩

theorem adding_filterParts (s : Statement) (conditions : List Condition) :
    s.adding (filterParts conditions) = { s with conditions := s.conditions ++ conditions } := by
  cases conditions with
  | nil => simp [filterParts, adding]
  | cons c rest =>
    have others : (rest.map Part.also).flatMap Part.conditions = rest := by
      rw [List.flatMap_map]
      exact List.flatMap_singleton' rest
    have limits : (filterParts (c :: rest)).filterMap Part.limit? = [] := by
      rw [filterParts, List.filterMap_cons_none rfl, List.filterMap_map]
      exact List.filterMap_eq_nil_iff.mpr fun _ _ => rfl
    rw [adding, limits]
    simp [filterParts, others, Part.conditions, Part.sortKeys, List.flatMap_map]

theorem adding_limit (s : Statement) (slice : Option (Nat × Nat)) :
    s.adding (slice.toList.map .limit) = { s with limit := slice.or s.limit } := by
  cases slice with
  | none => simp [adding]
  | some limit => exact adding_one s (.limit limit)

/-- Every statement can be written in the documented order. -/
theorem exists_documented {text : String} {s : Statement} (written : Written text s) :
    ∃ text', Documented text' ∧ Written text' s := by
  obtain ⟨cut, begins, reads, -, ends⟩ := written
  rename_i header loop source last body parts
  have isLine : ∀ line ∈ header :: (body ++ [last]), Text.IsLine line :=
    fun line here => isLine_of_mem_lines (cut ▸ here)
  obtain ⟨isLineHeader, isLineRest⟩ := List.forall_mem_cons.mp isLine
  have isLineBody : ∀ line ∈ body, Text.IsLine line := fun line here => isLineRest line (List.mem_append_left _ here)
  obtain ⟨texts, conditions⟩ := exists_conditions reads isLineBody
  obtain ⟨keyed, tails, keys⟩ := exists_sortKeys reads isLineBody
  obtain ⟨filter, isFilter⟩ := lays_filter conditions
  obtain ⟨sorts, sorted, sort, isSort, ordered⟩ := lays_sort tails keys
  obtain ⟨limits, limit, isLimit⟩ := lays_limit loop fun slice last => exists_limit reads isLineBody last
  have whole := (filter.append sort).append limit
  have joined : lines _ = _ := lines_join header (filterLines texts ++ sorts ++ limits ++ [last])
    (List.forall_mem_cons.mpr ⟨isLineHeader, fun line here => (List.mem_append.mp here).elim (whole.isLine line)
      fun own => isLineRest line (List.mem_append_right _ own)⟩)
  refine ⟨_, .intro joined begins isFilter isSort isLimit ends, ?_⟩
  have opened : Opened (filterParts (parts.flatMap Part.conditions) ++
      (sorted ++ (parts.filterMap Part.limit?).getLast?.toList.map .limit)) := by
    refine opened_filterParts fun c => ?_
    rcases ordered with ⟨rfl, -⟩ | rfl <;> simp
  rw [← List.append_assoc] at opened
  have same : adding { source := sourceTerm source } parts =
      adding { source := sourceTerm source } (filterParts (parts.flatMap Part.conditions) ++ sorted ++
        (parts.filterMap Part.limit?).getLast?.toList.map .limit) := by
    rw [adding_append, adding_append, adding_filterParts, adding_limit]
    rcases ordered with ⟨rfl, none⟩ | rfl
    · simp [adding, none]
    · rw [adding_one]
      simp [adding]
  rw [same]
  exact .intro joined begins whole.reads opened ends

/-- Where a clause stands in the documented order. -/
def Clause.rank : Clause → Nat
  | .filter _ => 1
  | .also _ => 2
  | .sort _ => 3
  | .limit _ => 4
  | .output _ => 5
  | .unsupported => 0

/-- Whether one clause may come right after another in the documented order: a later one, but an AND only after a FILTER
or an AND. -/
def follows (before after : Nat) : Bool :=
  if after = 2 then before = 1 || before = 2 else before < after

theorem chain_ands {tail : List Nat} (after : ∀ n, n = 1 ∨ n = 2 → (n :: tail).IsChain (follows · ·))
    {lines : List (List Char)} (ands : ∀ line ∈ lines, StartsWith "AND" line) {n : Nat} (begun : n = 1 ∨ n = 2) :
    (n :: (lines.map (fun line => (clause line).rank) ++ tail)).IsChain (follows · ·) := by
  induction lines generalizing n with
  | nil => exact after n begun
  | cons line more ih =>
    obtain ⟨⟨text, rfl⟩, others⟩ := List.forall_mem_cons.mp ands
    refine List.isChain_cons_cons.mpr ⟨?_, ih others (.inr rfl)⟩
    rcases begun with rfl | rfl <;> rfl

/-- In the documented order each line may come after the one before it. -/
theorem Documented.chain {text : String} (documented : Documented text) :
    ((lines text).tail.map fun line => (clause line).rank).IsChain (follows · ·) := by
  obtain ⟨cut, -, filter, sort, limit, ⟨own, rfl, -⟩⟩ := documented
  rename_i header loop source filters sorts limits
  have sorted : sorts.map (fun line => (clause line).rank) ∈ [[], [3]] := by
    rcases sort with rfl | ⟨line, rfl, _, rfl⟩ <;> simp
    rfl
  have limited : limits.map (fun line => (clause line).rank) ∈ [[], [4]] := by
    rcases limit with rfl | ⟨line, rfl, _, rfl⟩ <;> simp
    rfl
  have returned : ["RETURN ".toList ++ own].map (fun line => (clause line).rank) = [5] := rfl
  rw [cut, List.tail_cons, List.map_append, List.map_append, List.map_append, returned, List.append_assoc,
    List.append_assoc]
  have tail : ∀ before ∈ [[], [1], [2]], ∀ sorts ∈ [[], [3]], ∀ limits ∈ [[], [4]],
      (before ++ (sorts ++ (limits ++ [5]))).IsChain (follows · ·) := by decide
  rcases filter with rfl | ⟨line, more, rfl, ⟨text, rfl⟩, ands⟩
  · exact tail [] (by decide) _ sorted _ limited
  · refine chain_ands (fun n begun => tail [n] ?_ _ sorted _ limited) ands (.inl rfl)
    rcases begun with rfl | rfl <;> decide

theorem exists_eq_ok {ε α : Type} {x : Except ε α} (ok : x.isOk = true) : ∃ a, x = .ok a := by
  cases x with
  | error e => cases ok
  | ok a => exact ⟨a, rfl⟩

/-- A text that is a statement, but not in the documented order. -/
def Misplaced (text : String) : Prop :=
  (∃ s, ofText text = .ok s) ∧ ¬Documented text

/-- The order is not asked for: a limit may come before the filter, an AND after the sort order, and each clause again. -/
theorem misplaced_clauses_accepted :
    Misplaced "FOR i IN c\n LIMIT 1\n FILTER i.a == @x\n RETURN i" ∧
    Misplaced "FOR i IN c\n FILTER i.a == @x\n SORT i.a\n AND i.b == @y\n RETURN i" ∧
    Misplaced "FOR i IN c\n FILTER i.a == @x\n FILTER i.b == @y\n RETURN i" ∧
    Misplaced "FOR i IN c\n SORT i.a\n SORT i.b\n RETURN i" ∧
    Misplaced "FOR i IN c\n LIMIT 1\n LIMIT 2\n RETURN i" :=
  ⟨⟨exists_eq_ok (by decide +kernel), fun documented => absurd documented.chain (by decide +kernel)⟩,
    ⟨exists_eq_ok (by decide +kernel), fun documented => absurd documented.chain (by decide +kernel)⟩,
    ⟨exists_eq_ok (by decide +kernel), fun documented => absurd documented.chain (by decide +kernel)⟩,
    ⟨exists_eq_ok (by decide +kernel), fun documented => absurd documented.chain (by decide +kernel)⟩,
    ⟨exists_eq_ok (by decide +kernel), fun documented => absurd documented.chain (by decide +kernel)⟩⟩

end Statement

/-! ### Texts that are no statements -/

/-- A fault of the text alone, for which the store has one error number. -/
def QueryError.IsParse (e : QueryError) : Prop :=
  (Refusal.query e).code = ErrorCode.queryParse

/-- A reading whose errors are faults of the text alone. -/
def Judges {α : Type} (x : Except QueryError α) : Prop :=
  ∀ e, x = .error e → e.IsParse

namespace Judges

variable {α β : Type}

theorem ok (a : α) : Judges (.ok a) := fun _ => nofun

theorem error {e : QueryError} (fault : e.IsParse) : Judges (.error e : Except QueryError α) := by
  rintro _ ⟨⟩
  exact fault

theorem bind {x : Except QueryError α} {f : α → Except QueryError β} (first : Judges x) (next : ∀ a, Judges (f a)) :
    Judges (x >>= f) := by
  cases x with
  | error e => exact .error (first e rfl)
  | ok a => exact next a

theorem mapM {f : α → Except QueryError β} (each : ∀ a, Judges (f a)) (items : List α) : Judges (items.mapM f) := by
  induction items with
  | nil => exact .ok []
  | cons a rest ih =>
    rw [List.mapM_cons]
    exact .bind (each a) fun b => .bind ih fun bs => .ok (b :: bs)

end Judges

namespace Statement

theorem judges_readPath (loop text : List Char) : Judges (readPath loop text) := by
  unfold readPath
  split
  · split
    · exact .error rfl
    · split
      · exact .error rfl
      · exact .ok _
  · exact .error rfl

theorem judges_readOperand (text : List Char) : Judges (readOperand text) := by
  unfold readOperand
  split
  · exact .ok _
  · split
    · exact .ok _
    · exact .error rfl

theorem judges_readCondition (loop text : List Char) : Judges (readCondition loop text) := by
  unfold readCondition
  split
  · dsimp only
    split
    · exact .error rfl
    · exact .bind (judges_readPath loop _) fun _ => .bind (judges_readOperand _) fun _ => .ok _
  · exact .error rfl

theorem judges_readSortKey (loop text : List Char) : Judges (readSortKey loop text) := by
  unfold readSortKey
  dsimp only
  split
  · exact .bind (judges_readPath loop _) fun _ => .ok _
  · split
    · exact .bind (judges_readPath loop _) fun _ => .ok _
    · exact .error rfl
  · exact .error rfl

theorem judges_readNumber (text : List Char) : Judges (readNumber text) := by
  unfold readNumber
  split
  · exact .ok _
  · exact .error rfl

theorem judges_readLimit (text : List Char) : Judges (readLimit text) := by
  unfold readLimit
  split
  · exact .bind (judges_readNumber _) fun _ => .bind (judges_readNumber _) fun _ => .ok _
  · exact .bind (judges_readNumber _) fun _ => .ok _

theorem judges_readLoop (line : List Char) : Judges (readLoop line) := by
  unfold readLoop
  split
  · split
    · exact .ok _
    · exact .ok _
  · exact .error rfl

theorem judges_readClauses (loop : List Char) (s : Statement) (rest : List (List Char)) :
    Judges (readClauses loop s rest) := by
  induction rest generalizing s with
  | nil => exact .error rfl
  | cons line rest ih =>
    rw [readClauses.eq_def]
    dsimp only
    split
    · exact .bind (judges_readCondition loop _) fun _ => ih _
    · split
      · exact .error rfl
      · exact .bind (judges_readCondition loop _) fun _ => ih _
    · exact .bind (.mapM (judges_readSortKey loop) _) fun _ => ih _
    · exact .bind (judges_readLimit _) fun _ => ih _
    · split
      · exact .error rfl
      · split
        · exact .ok _
        · exact .error rfl
    · exact .error rfl

theorem judges_ofText (text : String) : Judges (ofText text) := by
  unfold ofText
  split
  · exact .error rfl
  · exact .bind (judges_readLoop _) fun (loop, _) => judges_readClauses loop _ _

end Statement
end Query

namespace Store

open Query.Statement (ofText Written Documented)

theorem execute_congr {text text' : String} (same : ofText text' = ofText text) (s : Store) (bindings : Bindings)
    (options : QueryOptions) : s.execute ⟨text', bindings, options⟩ = s.execute ⟨text, bindings, options⟩ := by
  have evaluated : s.evaluate ⟨text', bindings, options⟩ = s.evaluate ⟨text, bindings, options⟩ := by
    simp only [evaluate, same]
  simp only [execute, evaluated]

theorem execute_of_error {text : String} {e : Query.QueryError} (refused : ofText text = .error e) (s : Store)
    (bindings : Bindings) (options : QueryOptions) :
    s.execute ⟨text, bindings, options⟩ = (.error (.query e), s) := by
  have evaluated : s.evaluate ⟨text, bindings, options⟩ = .error (.query e) := by
    simp only [evaluate, refused]
    rfl
  simp only [execute, evaluated]

/-- The store runs the texts that are statements, each as one in the documented order is run. Every other text is
refused as no statement, and nothing changes. -/
theorem statements_judged (text : String) :
    (∀ statement, ofText text = .ok statement ↔ Written text statement) ∧
    (∀ statement, Written text statement → ∃ text', Documented text' ∧ Written text' statement ∧
      ∀ (s : Store) bindings options, s.execute ⟨text', bindings, options⟩ = s.execute ⟨text, bindings, options⟩) ∧
    ((∀ statement, ¬Written text statement) → ∃ e, (Refusal.query e).code = ErrorCode.queryParse ∧
      ∀ (s : Store) bindings options, s.execute ⟨text, bindings, options⟩ = (.error (.query e), s)) := by
  refine ⟨fun _ => Query.Statement.ofText_eq_ok, fun statement written => ?_, fun none => ?_⟩
  · obtain ⟨text', documented, rearranged⟩ := Query.Statement.exists_documented written
    refine ⟨text', documented, rearranged, execute_congr ?_⟩
    rw [Query.Statement.ofText_eq_ok.mpr rearranged, Query.Statement.ofText_eq_ok.mpr written]
  · cases read : ofText text with
    | ok statement => exact absurd (Query.Statement.ofText_eq_ok.mp read) (none statement)
    | error e => exact ⟨e, Query.Statement.judges_ofText text e read, execute_of_error read⟩

/-- A statement whose clauses stand anyhow is run as the one that has them in order; an AND before the first FILTER is
refused. -/
theorem scattered_statement_judged :
    (∃ statement,
      Written "FOR i IN c\n LIMIT 1\n SORT i.a\n FILTER i.a == @x\n LIMIT 0, 2\n AND i.b == @y\n RETURN i" statement ∧
      Written "FOR i IN c\n FILTER i.a == @x\n AND i.b == @y\n SORT i.a\n LIMIT 0, 2\n RETURN i" statement ∧
      ∃ text', Documented text' ∧ Written text' statement) ∧
    ∃ e, (Refusal.query e).code = ErrorCode.queryParse ∧ ∀ (s : Store) bindings options,
      s.execute ⟨"FOR i IN c\n AND i.a == @x\n FILTER i.b == @y\n RETURN i", bindings, options⟩ =
        (.error (.query e), s) := by
  refine ⟨?_, ?_⟩
  · obtain ⟨statement, scattered, ordered⟩ : ∃ statement,
        ofText "FOR i IN c\n LIMIT 1\n SORT i.a\n FILTER i.a == @x\n LIMIT 0, 2\n AND i.b == @y\n RETURN i" =
          .ok statement ∧
        ofText "FOR i IN c\n FILTER i.a == @x\n AND i.b == @y\n SORT i.a\n LIMIT 0, 2\n RETURN i" = .ok statement :=
      ⟨_, rfl, rfl⟩
    have written := ((statements_judged _).1 statement).mp scattered
    obtain ⟨text', documented, same, -⟩ := (statements_judged _).2.1 statement written
    exact ⟨statement, written, ((statements_judged _).1 statement).mp ordered, text', documented, same⟩
  · refine (statements_judged "FOR i IN c\n AND i.a == @x\n FILTER i.b == @y\n RETURN i").2.2 fun statement written => ?_
    have read := ((statements_judged _).1 statement).mpr written
    cases (rfl : ofText "FOR i IN c\n AND i.a == @x\n FILTER i.b == @y\n RETURN i" =
      .error .andWithoutFilter).symm.trans read

end Store
end RecordStore
