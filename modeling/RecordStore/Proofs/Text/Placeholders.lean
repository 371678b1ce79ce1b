import Mathlib.Data.List.TakeWhile
import RecordStore.Text.Split

/-!
# Placeholders

A text asks for values under the names that follow its marks `@`. A name goes on for as long as there are letters,
digits and underscores, and a second mark right after the first one belongs to the name. Placeholders of a joined text
are those of its parts wherever no name can run on into the next part (`placeholders_append`).
-/

namespace RecordStore
namespace Text

/-- A character that names of placeholders may have. -/
def isNameChar (c : Char) : Bool := c.isAlphanum || c = '_'

def markedNames : List Char → List (List Char)
  | '@' :: '@' :: rest => ('@' :: rest.takeWhile isNameChar) :: markedNames rest
  | '@' :: rest => rest.takeWhile isNameChar :: markedNames rest
  | _ :: rest => markedNames rest
  | [] => []

/-- The names of the placeholders of a text, in the order in which they occur. -/
def placeholders (text : String) : List String :=
  (markedNames text.toList).map String.ofList

/-- No name runs on into the text, and none starts with a mark before it. -/
def Detached (cs : List Char) : Prop :=
  ∀ c ∈ cs.head?, isNameChar c = false ∧ c ≠ '@'

instance (cs : List Char) : Decidable (Detached cs) :=
  decidable_of_iff (cs.head?.all (fun c => !isNameChar c && c != '@') = true) (by simp [Detached, Option.all_eq_true])

theorem takeWhile_append_detached (before : List Char) {after : List Char} (detached : Detached after) :
    (before ++ after).takeWhile isNameChar = before.takeWhile isNameChar := by
  have stop : after.takeWhile isNameChar = [] := by
    cases after with
    | nil => rfl
    | cons c rest => exact List.takeWhile_cons_of_neg (by simp [detached c rfl])
  rw [List.takeWhile_append]
  split
  · rename_i whole
    rw [stop, List.append_nil, (List.takeWhile_prefix isNameChar).eq_of_length whole]
  · rfl

theorem markedNames_of_ne {c : Char} (unmarked : c ≠ '@') (rest : List Char) :
    markedNames (c :: rest) = markedNames rest := by
  have notMark (same : c = '@') : False := unmarked same
  rw [markedNames]
  · exact fun _ same => (notMark same).elim
  · exact notMark

theorem markedNames_mark {rest : List Char} (single : ∀ c ∈ rest.head?, c ≠ '@') :
    markedNames ('@' :: rest) = rest.takeWhile isNameChar :: markedNames rest := by
  rw [markedNames]
  rintro others rfl
  exact single '@' rfl rfl

theorem markedNames_append (before : List Char) {after : List Char} (detached : Detached after) :
    markedNames (before ++ after) = markedNames before ++ markedNames after := by
  induction before using markedNames.induct with
  | case1 rest ih => simp [markedNames, takeWhile_append_detached rest detached, ih]
  | case2 rest single ih =>
    have head : ∀ c ∈ rest.head?, c ≠ '@' := by
      rintro c here rfl
      obtain ⟨others, rfl⟩ := List.head?_eq_some_iff.mp here
      exact single others rfl
    have headBoth : ∀ c ∈ (rest ++ after).head?, c ≠ '@' := by
      cases rest with
      | nil => exact fun c here => (detached c here).2
      | cons c others => exact head
    rw [List.cons_append, markedNames_mark headBoth, markedNames_mark head, takeWhile_append_detached rest detached, ih]
    rfl
  | case3 c rest notDouble notMark ih =>
    have unmarked : c ≠ '@' := fun same => notMark same
    rw [List.cons_append, markedNames_of_ne unmarked, markedNames_of_ne unmarked, ih]
  | case4 => rfl

theorem markedNames_plain_append {before : List Char} (plain : '@' ∉ before) (after : List Char) :
    markedNames (before ++ after) = markedNames after := by
  induction before with
  | nil => rfl
  | cons c rest ih =>
    obtain ⟨unmarked, later⟩ := List.ne_and_not_mem_of_not_mem_cons plain
    rw [List.cons_append, markedNames_of_ne unmarked.symm, ih later]

/-! ### Placeholders of joined texts -/

theorem placeholders_append (before : String) {after : String} (detached : Detached after.toList) :
    placeholders (before ++ after) = placeholders before ++ placeholders after := by
  rw [placeholders, String.toList_append, markedNames_append _ detached, List.map_append]
  rfl

theorem placeholders_plain_append {before : String} (plain : '@' ∉ before.toList) (after : String) :
    placeholders (before ++ after) = placeholders after := by
  rw [placeholders, String.toList_append, markedNames_plain_append plain]
  rfl

theorem placeholders_plain {text : String} (plain : '@' ∉ text.toList) : placeholders text = [] := by
  have alone := placeholders_plain_append plain ""
  rwa [String.append_empty] at alone

theorem placeholders_mark {name : String} (named : ∀ c ∈ name.toList, isNameChar c = true) :
    placeholders ("@" ++ name) = [name] := by
  have unmarked : '@' ∉ name.toList := fun here => absurd (named '@' here) (by decide)
  have head : ∀ c ∈ name.toList.head?, c ≠ '@' := by
    rintro c here rfl
    exact unmarked (List.mem_of_mem_head? here)
  have none : markedNames name.toList = [] := by
    simpa [markedNames] using markedNames_plain_append unmarked []
  have marked : markedNames ("@" ++ name).toList = [name.toList] := by
    rw [String.toList_append]
    show markedNames ('@' :: name.toList) = _
    rw [markedNames_mark head, none, List.takeWhile_eq_self_iff.mpr named]
  rw [placeholders, marked, List.map_singleton, String.ofList_toList]

theorem placeholders_intercalate {gap : String} (plain : '@' ∉ gap.toList) (detached : Detached gap.toList)
    (nonempty : gap.toList ≠ []) (texts : List String) :
    placeholders (gap.intercalate texts) = texts.flatMap placeholders := by
  induction texts with
  | nil => rfl
  | cons text rest ih =>
    cases rest with
    | nil => simp
    | cons next rest =>
      have joined : Detached (gap ++ gap.intercalate (next :: rest)).toList := by
        rw [String.toList_append]
        obtain ⟨c, others, split⟩ := List.exists_cons_of_ne_nil nonempty
        rw [split] at detached ⊢
        exact detached
      rw [String.intercalate_cons_cons, String.append_assoc, placeholders_append _ joined,
        placeholders_plain_append plain, ih]
      rfl

end Text
end RecordStore
