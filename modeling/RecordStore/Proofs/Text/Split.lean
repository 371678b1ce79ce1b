import RecordStore.Text.Split

/-!
# Pieces of cut texts
-/

namespace RecordStore
namespace Text

/-- Where a text has a second piece, its first piece ends at a cut. -/
theorem splitBy_cons_cons {cut : Char → Bool} {cs first second : List Char} {pieces : List (List Char)}
    (split : splitBy cut cs = first :: second :: pieces) :
    ∃ c rest, cs = first ++ c :: rest ∧ cut c = true ∧ splitBy cut rest = second :: pieces := by
  induction cs generalizing first with
  | nil => simp [splitBy] at split
  | cons c rest ih =>
    unfold splitBy at split
    split at split
    · rename_i isCut
      obtain ⟨rfl, later⟩ := List.cons.inj split
      exact ⟨c, rest, rfl, isCut, later⟩
    · split at split
      · simp at split
      · rename_i piece more later
        obtain ⟨rfl, rfl⟩ := List.cons.inj split
        obtain ⟨d, tail, rfl, isCut, final⟩ := ih later
        exact ⟨d, tail, rfl, isCut, final⟩

theorem splitFirst?_eq_some {mark : Char} {cs before after : List Char}
    (split : splitFirst? mark cs = some (before, after)) : cs = before ++ mark :: after := by
  induction cs generalizing before with
  | nil => simp [splitFirst?] at split
  | cons c rest ih =>
    unfold splitFirst? at split
    split at split
    · rename_i same
      subst same
      obtain ⟨rfl, rfl⟩ := Prod.mk.inj (Option.some.inj split)
      rfl
    · obtain ⟨⟨first, last⟩, later, joined⟩ := Option.map_eq_some_iff.mp split
      obtain ⟨rfl, rfl⟩ := Prod.mk.inj joined
      rw [ih later]
      rfl

theorem notMem_of_splitFirst? {mark : Char} {cs before after : List Char}
    (split : splitFirst? mark cs = some (before, after)) : mark ∉ before := by
  induction cs generalizing before with
  | nil => simp [splitFirst?] at split
  | cons c rest ih =>
    unfold splitFirst? at split
    split at split
    · obtain ⟨rfl, rfl⟩ := Prod.mk.inj (Option.some.inj split)
      exact List.not_mem_nil
    · rename_i different
      obtain ⟨⟨first, last⟩, later, joined⟩ := Option.map_eq_some_iff.mp split
      obtain ⟨rfl, rfl⟩ := Prod.mk.inj joined
      exact List.not_mem_cons_of_ne_of_not_mem (Ne.symm different) (ih later)

theorem splitFirst?_append {mark : Char} {before : List Char} (clean : mark ∉ before) (after : List Char) :
    splitFirst? mark (before ++ mark :: after) = some (before, after) := by
  induction before with
  | nil => simp [splitFirst?]
  | cons c rest ih =>
    obtain ⟨different, later⟩ := List.ne_and_not_mem_of_not_mem_cons clean
    rw [List.cons_append, splitFirst?, if_neg different.symm, ih later]
    rfl

theorem splitBy_of_clean {cut : Char → Bool} {cs : List Char} (clean : ∀ c ∈ cs, cut c = false) :
    splitBy cut cs = [cs] := by
  induction cs with
  | nil => rfl
  | cons c rest ih =>
    obtain ⟨here, later⟩ := List.forall_mem_cons.mp clean
    rw [splitBy, ih later, here]
    rfl

theorem splitBy_append {cut : Char → Bool} (before : List Char) {c : Char} (isCut : cut c = true) (after : List Char) :
    splitBy cut (before ++ c :: after) = splitBy cut before ++ splitBy cut after := by
  induction before with
  | nil => simp [splitBy, isCut]
  | cons d rest ih =>
    rw [List.cons_append, splitBy, splitBy, ih]
    split
    · rfl
    · cases pieces : splitBy cut rest with
      | nil => exact absurd pieces (splitBy_ne_nil cut rest)
      | cons piece more => rfl

theorem notMem_of_mem_splitBy {cut : Char → Bool} {cs piece : List Char} (listed : piece ∈ splitBy cut cs) :
    ∀ c ∈ piece, cut c = false := by
  induction cs generalizing piece with
  | nil =>
    obtain rfl := List.mem_singleton.mp listed
    exact fun _ here => absurd here List.not_mem_nil
  | cons d rest ih =>
    unfold splitBy at listed
    split at listed
    · rcases List.mem_cons.mp listed with rfl | later
      · exact fun _ here => absurd here List.not_mem_nil
      · exact ih later
    · rename_i solid
      split at listed
      · rename_i none
        exact absurd none (splitBy_ne_nil cut rest)
      · rename_i first pieces same
        rw [same] at ih
        rcases List.mem_cons.mp listed with rfl | later
        · exact List.forall_mem_cons.mpr ⟨Bool.not_eq_true _ ▸ solid, ih List.mem_cons_self⟩
        · exact ih (List.mem_cons_of_mem first later)

/-- Texts that were joined at a cut come apart there again; what followed the cut goes with the next text. -/
theorem splitBy_intercalate {cut : Char → Bool} {mark : Char} (isCut : cut mark = true) (gap first : List Char)
    (rest : List (List Char)) :
    splitBy cut ((mark :: gap).intercalate (first :: rest)) =
      splitBy cut first ++ rest.flatMap fun text => splitBy cut (gap ++ text) := by
  induction rest generalizing first with
  | nil => simp
  | cons second rest ih =>
    have joined : gap ++ (mark :: gap).intercalate (second :: rest) =
        (mark :: gap).intercalate ((gap ++ second) :: rest) := by
      cases rest <;> simp
    rw [List.intercalate_cons_cons, List.append_assoc, List.cons_append, splitBy_append _ isCut, joined, ih]
    rfl

theorem splitBy_intercalate_clean {cut : Char → Bool} {mark : Char} (isCut : cut mark = true) {gap first : List Char}
    {rest : List (List Char)} (cleanGap : ∀ c ∈ gap, cut c = false)
    (clean : ∀ text ∈ first :: rest, ∀ c ∈ text, cut c = false) :
    splitBy cut ((mark :: gap).intercalate (first :: rest)) = first :: rest.map (gap ++ ·) := by
  obtain ⟨cleanFirst, cleanRest⟩ := List.forall_mem_cons.mp clean
  rw [splitBy_intercalate isCut, splitBy_of_clean cleanFirst, List.singleton_append]
  refine congrArg (first :: ·) ?_
  induction rest with
  | nil => rfl
  | cons text rest ih =>
    obtain ⟨cleanText, cleanRest⟩ := List.forall_mem_cons.mp cleanRest
    have whole : ∀ c ∈ gap ++ text, cut c = false := fun c here =>
      (List.mem_append.mp here).elim (cleanGap c) (cleanText c)
    rw [List.flatMap_cons, splitBy_of_clean whole, ih (List.forall_mem_cons.mpr ⟨cleanFirst, cleanRest⟩) cleanRest]
    rfl

theorem forall_mem_intercalate {P : Char → Prop} {gap : List Char} (gaps : ∀ c ∈ gap, P c) {texts : List (List Char)}
    (all : ∀ text ∈ texts, ∀ c ∈ text, P c) : ∀ c ∈ gap.intercalate texts, P c := by
  induction texts with
  | nil => exact fun c here => absurd here List.not_mem_nil
  | cons text rest ih =>
    obtain ⟨first, later⟩ := List.forall_mem_cons.mp all
    cases rest with
    | nil => simpa using first
    | cons second rest =>
      intro c here
      rw [List.intercalate_cons_cons, List.mem_append, List.mem_append] at here
      rcases here with (here | here) | here
      · exact first c here
      · exact gaps c here
      · exact ih later c here

/-- A joined text ends with one of the texts that were joined. -/
theorem exists_intercalate_eq (gap : List Char) {texts : List (List Char)} (nonempty : texts ≠ []) :
    ∃ before, ∃ text ∈ texts, gap.intercalate texts = before ++ text := by
  induction texts with
  | nil => exact absurd rfl nonempty
  | cons text rest ih =>
    cases rest with
    | nil => exact ⟨[], text, List.mem_cons_self, by simp⟩
    | cons second rest =>
      obtain ⟨before, last, listed, ending⟩ := ih (List.cons_ne_nil _ _)
      refine ⟨text ++ gap ++ before, last, List.mem_cons_of_mem text listed, ?_⟩
      rw [List.intercalate_cons_cons, ending, List.append_assoc _ before]

/-! ### Words -/

theorem words_append (before after : List Char) : words (before ++ ' ' :: after) = words before ++ words after := by
  rw [words, splitBy_append before (by decide), List.filter_append]
  rfl

theorem words_of_solid {word : List Char} (nonempty : word ≠ []) (solid : ∀ c ∈ word, isBlank c = false) :
    words word = [word] := by
  rw [words, splitBy_of_clean solid]
  simp [nonempty]

theorem words_blanks (spaces : Nat) (cs : List Char) : words (List.replicate spaces ' ' ++ cs) = words cs := by
  induction spaces with
  | zero => rfl
  | succ n ih => exact (words_append [] _).trans ih

/-! ### Trimming -/

theorem dropWhile_blanks (spaces : Nat) (cs : List Char) :
    (List.replicate spaces ' ' ++ cs).dropWhile isBlank = cs.dropWhile isBlank := by
  induction spaces with
  | zero => rfl
  | succ n ih => exact ih

theorem dropWhile_of_solid {c : Char} (solid : isBlank c = false) (rest : List Char) :
    (c :: rest).dropWhile isBlank = c :: rest :=
  List.dropWhile_cons_of_neg (by simp [solid])

theorem trim_blanks (spaces : Nat) {cs : List Char} (start : cs.dropWhile isBlank = cs)
    (stop : cs.reverse.dropWhile isBlank = cs.reverse) : trim (List.replicate spaces ' ' ++ cs) = cs := by
  rw [trim, dropWhile_blanks, start, stop, List.reverse_reverse]

theorem dropWhile_append_of_solid {cs : List Char} (nonempty : cs ≠ []) (solid : ∀ c ∈ cs, isBlank c = false)
    (rest : List Char) : (cs ++ rest).dropWhile isBlank = cs ++ rest := by
  obtain ⟨c, others, rfl⟩ := List.exists_cons_of_ne_nil nonempty
  exact dropWhile_of_solid (solid c List.mem_cons_self) _

/-- A line that begins and ends with no blank is what is left of it when blanks stand before it. -/
theorem trim_line (spaces : Nat) {first : Char} (solidFirst : isBlank first = false) (body : List Char)
    {last : List Char} (nonempty : last ≠ []) (solidLast : ∀ c ∈ last, isBlank c = false) :
    trim (List.replicate spaces ' ' ++ first :: (body ++ last)) = first :: (body ++ last) := by
  refine trim_blanks spaces (dropWhile_of_solid solidFirst _) ?_
  rw [← List.cons_append, List.reverse_append]
  exact dropWhile_append_of_solid (List.reverse_ne_nil_iff.mpr nonempty)
    (fun c here => solidLast c (List.mem_reverse.mp here)) _

theorem trim_word (spaces : Nat) {word : List Char} (nonempty : word ≠ []) (solid : ∀ c ∈ word, isBlank c = false) :
    trim (List.replicate spaces ' ' ++ word) = word := by
  have start := dropWhile_append_of_solid nonempty solid []
  have stop := dropWhile_append_of_solid (List.reverse_ne_nil_iff.mpr nonempty)
    (fun c here => solid c (List.mem_reverse.mp here)) []
  rw [List.append_nil] at start stop
  exact trim_blanks spaces start stop

/-! ### Lines -/

/-- A text whose first character is no blank. -/
def Starts (cs : List Char) : Prop := ∃ c rest, cs = c :: rest ∧ isBlank c = false

/-- A text whose last character is no blank. -/
def Ends (cs : List Char) : Prop := ∃ before c, cs = before ++ [c] ∧ isBlank c = false

theorem Ends.append {cs : List Char} (ends : Ends cs) (before : List Char) : Ends (before ++ cs) := by
  obtain ⟨others, c, rfl, solid⟩ := ends
  exact ⟨before ++ others, c, (List.append_assoc _ _ _).symm, solid⟩

theorem Ends.of_append {before cs : List Char} (ends : Ends (before ++ cs)) (nonempty : cs ≠ []) : Ends cs := by
  obtain ⟨others, c, same, solid⟩ := ends
  have whole := List.dropLast_concat_getLast nonempty
  rw [← whole, ← List.append_assoc] at same
  obtain ⟨-, last⟩ := List.append_inj' same rfl
  exact ⟨cs.dropLast, c, by rw [← last, whole], solid⟩

theorem starts_dropWhile {cs : List Char} (nonempty : cs.dropWhile isBlank ≠ []) : Starts (cs.dropWhile isBlank) := by
  induction cs with
  | nil => exact absurd rfl nonempty
  | cons c rest ih =>
    cases solid : isBlank c with
    | true =>
      rw [List.dropWhile_cons_of_pos solid] at nonempty ⊢
      exact ih nonempty
    | false => exact ⟨c, rest, dropWhile_of_solid solid rest, solid⟩

theorem Starts.reverse {cs : List Char} (starts : Starts cs) : Ends cs.reverse := by
  obtain ⟨c, rest, rfl, solid⟩ := starts
  exact ⟨rest.reverse, c, List.reverse_cons, solid⟩

/-- A line as it stands in a text that was cut into lines and trimmed. -/
structure IsLine (line : List Char) : Prop where
  starts : Starts line
  ends : Ends line
  single : '\n' ∉ line

theorem mem_of_mem_trim {cs : List Char} {c : Char} (here : c ∈ trim cs) : c ∈ cs := by
  rw [trim, List.mem_reverse] at here
  have inner := List.dropWhile_subset _ here
  exact List.dropWhile_subset _ (List.mem_reverse.mp inner)

theorem starts_trim {cs : List Char} (nonempty : trim cs ≠ []) : Starts (trim cs) := by
  -- what is left once the beginning has been trimmed still has its blanks at the end
  obtain ⟨blanks, whole⟩ : ∃ blanks, cs.dropWhile isBlank = trim cs ++ blanks := by
    refine ⟨((cs.dropWhile isBlank).reverse.takeWhile isBlank).reverse, ?_⟩
    rw [trim, ← List.reverse_append, List.takeWhile_append_dropWhile, List.reverse_reverse]
  have inner : cs.dropWhile isBlank ≠ [] := by
    rw [whole]
    exact List.append_ne_nil_of_left_ne_nil nonempty blanks
  obtain ⟨c, rest, same, solid⟩ := starts_dropWhile inner
  obtain ⟨d, others, first⟩ := List.exists_cons_of_ne_nil nonempty
  rw [same, first] at whole
  obtain ⟨rfl, -⟩ := List.cons.inj whole
  exact ⟨c, others, first, solid⟩

theorem ends_trim {cs : List Char} (nonempty : trim cs ≠ []) : Ends (trim cs) :=
  (starts_dropWhile fun empty => nonempty (by rw [trim, empty]; rfl)).reverse

theorem trim_of_isLine {line : List Char} (isLine : IsLine line) : trim line = line := by
  obtain ⟨c, rest, starts, solid⟩ := isLine.starts
  obtain ⟨before, d, ends, solidEnd⟩ := isLine.ends
  refine trim_blanks 0 ?_ ?_
  · rw [starts, dropWhile_of_solid solid]
  · rw [ends, List.reverse_append]
    exact dropWhile_of_solid solidEnd _

end Text
end RecordStore
