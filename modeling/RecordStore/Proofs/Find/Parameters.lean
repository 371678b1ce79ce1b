import RecordStore.Find.Query
import RecordStore.Proofs.Query.Reading

/-!
# Parameters of find queries

Every name in the bindings of a find query is that of one `Parameter`, and different parameters have different names
(`name_injective`). So a parameter is bound to exactly what the clauses and sort keys say of it (`get?_bindings`).
-/

namespace RecordStore
namespace Find

open Query (Solid)

/-- What the parameters of a find query stand for. -/
inductive Parameter where
  /-- A segment of the path of a filter term. -/
  | field (term position : Nat)
  /-- The operand of an operator of a filter term. -/
  | operand (term : Nat) (op : Query.Operator)
  /-- A segment of the path of a sort key. -/
  | sort (number position : Nat)
  | collection
  deriving DecidableEq

namespace Parameter

def name : Parameter → String
  | field term position => segmentName ("field_" ++ toString term) position
  | operand term op => "field_" ++ toString term ++ "_" ++ op.token
  | sort number position => segmentName ("sort_" ++ toString number) position
  | collection => collectionName

theorem toList_toString (n : Nat) : (toString n).toList = Nat.toDigits 10 n :=
  Nat.toList_repr

theorem toDigits_injective {m n : Nat} (same : Nat.toDigits 10 m = Nat.toDigits 10 n) : m = n := by
  rw [← Nat.ofDigitChars_ten_toDigits (n := m), same, Nat.ofDigitChars_ten_toDigits]

theorem toList_segmentName (stem : String) (position : Nat) :
    (segmentName stem position).toList = stem.toList ++ '_' :: Nat.toDigits 10 position := by
  rw [segmentName, String.toList_append, String.toList_append, toList_toString, List.append_assoc]
  rfl

theorem append_underscore_inj {a b x y : List Char} (cleanA : '_' ∉ a) (cleanB : '_' ∉ b)
    (same : a ++ '_' :: x = b ++ '_' :: y) : a = b ∧ x = y := by
  have cutA := Text.splitFirst?_append cleanA x
  rw [same, Text.splitFirst?_append cleanB y] at cutA
  obtain ⟨rfl, rfl⟩ := Prod.mk.inj (Option.some.inj cutA)
  exact ⟨rfl, rfl⟩

/-- The number and the rest of a name can be told apart. -/
theorem numbered_inj {m n : Nat} {x y : List Char}
    (same : Nat.toDigits 10 m ++ '_' :: x = Nat.toDigits 10 n ++ '_' :: y) : m = n ∧ x = y := by
  obtain ⟨digits, rest⟩ := append_underscore_inj Nat.underscore_not_in_toDigits Nat.underscore_not_in_toDigits same
  exact ⟨toDigits_injective digits, rest⟩

theorem toList_field (term position : Nat) :
    (field term position).name.toList =
      "field_".toList ++ (Nat.toDigits 10 term ++ '_' :: Nat.toDigits 10 position) := by
  rw [name, toList_segmentName, String.toList_append, toList_toString, List.append_assoc]

theorem toList_operand (term : Nat) (op : Query.Operator) :
    (operand term op).name.toList = "field_".toList ++ (Nat.toDigits 10 term ++ '_' :: op.token.toList) := by
  rw [name, String.toList_append, String.toList_append, String.toList_append, toList_toString, List.append_assoc,
    List.append_assoc]
  rfl

theorem toList_sort (number position : Nat) :
    (sort number position).name.toList =
      "sort_".toList ++ (Nat.toDigits 10 number ++ '_' :: Nat.toDigits 10 position) := by
  rw [name, toList_segmentName, String.toList_append, toList_toString, List.append_assoc]

theorem token_ne_digits (op : Query.Operator) (n : Nat) : op.token.toList ≠ Nat.toDigits 10 n := by
  intro same
  have wordy : op.token.toList.any (fun c => !c.isDigit) = true :=
    (by decide +kernel : ∀ op ∈ Query.Operator.all, op.token.toList.any (fun c => !c.isDigit) = true) op op.mem_all
  obtain ⟨c, here, notDigit⟩ := List.any_eq_true.mp wordy
  have digit := Query.isDigit_of_mem_toDigits c (same ▸ here)
  simp [digit] at notDigit

theorem token_injective {op other : Query.Operator} (same : op.token = other.token) : op = other :=
  (by decide +kernel : ∀ op ∈ Query.Operator.all, ∀ other ∈ Query.Operator.all, op.token = other.token → op = other)
    op op.mem_all other other.mem_all same

theorem name_injective {p q : Parameter} (same : p.name = q.name) : p = q := by
  have chars := congrArg String.toList same
  cases p <;> cases q
  case field.field =>
    rw [toList_field, toList_field] at chars
    obtain ⟨rfl, digits⟩ := numbered_inj (List.append_cancel_left chars)
    rw [toDigits_injective digits]
  case field.operand =>
    rw [toList_field, toList_operand] at chars
    exact absurd (numbered_inj (List.append_cancel_left chars)).2.symm (token_ne_digits _ _)
  case operand.field =>
    rw [toList_field, toList_operand] at chars
    exact absurd (numbered_inj (List.append_cancel_left chars)).2 (token_ne_digits _ _)
  case operand.operand =>
    rw [toList_operand, toList_operand] at chars
    obtain ⟨rfl, token⟩ := numbered_inj (List.append_cancel_left chars)
    rw [token_injective (String.toList_injective token)]
  case sort.sort =>
    rw [toList_sort, toList_sort] at chars
    obtain ⟨rfl, digits⟩ := numbered_inj (List.append_cancel_left chars)
    rw [toDigits_injective digits]
  case collection.collection => rfl
  -- the other pairs differ in their first characters
  all_goals
    simp only [toList_field, toList_operand, toList_sort] at chars
    cases chars

end Parameter

/-! ### Texts without cuts -/

theorem solid_numbered {word last : List Char} (first : Solid word) (n : Nat) (second : Solid last) :
    Solid (word ++ (Nat.toDigits 10 n ++ '_' :: last)) :=
  first.append ((Query.solid_toDigits n).append (second.cons (by decide)).clean).clean

theorem solid_token (op : Query.Operator) : Solid op.token.toList :=
  (by decide +kernel : ∀ op ∈ Query.Operator.all, Solid op.token.toList) op op.mem_all

theorem solid_field (term position : Nat) : Solid (Parameter.field term position).name.toList := by
  rw [Parameter.toList_field]
  exact solid_numbered (by decide) term (Query.solid_toDigits position)

theorem solid_operand (term : Nat) (op : Query.Operator) : Solid (Parameter.operand term op).name.toList := by
  rw [Parameter.toList_operand]
  exact solid_numbered (by decide) term (solid_token op)

theorem solid_sort (number position : Nat) : Solid (Parameter.sort number position).name.toList := by
  rw [Parameter.toList_sort]
  exact solid_numbered (by decide) number (Query.solid_toDigits position)

/-! ### Bindings -/

theorem mem_bindSegments {stem name : String} {start : Nat} {segments : List String} {v : Value} :
    (name, v) ∈ bindSegments stem start segments ↔
      ∃ position segment, segments[position]? = some segment ∧ name = segmentName stem (start + position) ∧
        v = .string segment := by
  induction segments generalizing start with
  | nil => simp [bindSegments]
  | cons segment rest ih =>
    rw [bindSegments, List.mem_cons, ih]
    constructor
    · rintro (here | ⟨position, other, found, named, value⟩)
      · obtain ⟨rfl, rfl⟩ := Prod.mk.inj here
        exact ⟨0, segment, rfl, rfl, rfl⟩
      · exact ⟨position + 1, other, found, by rw [named]; congr 1; omega, value⟩
    · rintro ⟨position, other, found, rfl, rfl⟩
      cases position with
      | zero =>
        obtain rfl := Option.some.inj found
        exact .inl rfl
      | succ position => exact .inr ⟨position, other, found, by congr 1; omega, rfl⟩

/-- What the clauses and sort keys of a query say that a parameter is bound to. -/
def Binds (clauses : List Clause) (keys : List Placed) (collection : String) (d : Directory) :
    Parameter → Value → Prop
  | .field term position, v =>
    ∃ c ∈ clauses, c.term = term ∧ ∃ segment, c.segments[position]? = some segment ∧ v = .string segment
  | .operand term op, v => ∃ c ∈ clauses, c.term = term ∧ c.operator = op ∧ v = c.operand.resolve d
  | .sort number position, v =>
    ∃ k ∈ keys, k.number = number ∧ ∃ segment, k.segments[position]? = some segment ∧ v = .string segment
  | .collection, v => v = .string collection

def entries (clauses : List Clause) (keys : List Placed) (collection : String) (d : Directory) :
    List (String × Value) :=
  clauses.flatMap (·.bindings d) ++ keys.flatMap (·.bindings) ++ [(collectionName, .string collection)]

variable {clauses : List Clause} {keys : List Placed} {collection : String} {d : Directory}

theorem mem_entries {name : String} {v : Value} :
    (name, v) ∈ entries clauses keys collection d ↔
      ∃ p : Parameter, p.name = name ∧ Binds clauses keys collection d p v := by
  rw [entries, List.mem_append, List.mem_append, List.mem_flatMap, List.mem_flatMap, List.mem_singleton]
  constructor
  · rintro ((⟨c, listed, here⟩ | ⟨k, listed, here⟩) | here)
    · rw [Clause.bindings, List.mem_append, mem_bindSegments, List.mem_singleton] at here
      rcases here with ⟨position, segment, found, rfl, rfl⟩ | here
      · rw [Nat.zero_add]
        exact ⟨.field c.term position, rfl, c, listed, rfl, segment, found, rfl⟩
      · obtain ⟨rfl, rfl⟩ := Prod.mk.inj here
        exact ⟨.operand c.term c.operator, rfl, c, listed, rfl, rfl, rfl⟩
    · obtain ⟨position, segment, found, rfl, rfl⟩ := mem_bindSegments.mp here
      rw [Nat.zero_add]
      exact ⟨.sort k.number position, rfl, k, listed, rfl, segment, found, rfl⟩
    · obtain ⟨rfl, rfl⟩ := Prod.mk.inj here
      exact ⟨.collection, rfl, rfl⟩
  · rintro ⟨p, rfl, binds⟩
    cases p with
    | field term position =>
      obtain ⟨c, listed, rfl, segment, found, rfl⟩ := binds
      have named : (Parameter.field c.term position).name = segmentName c.stem (0 + position) := by
        rw [Nat.zero_add]
        rfl
      have here := mem_bindSegments.mpr ⟨position, segment, found, named, rfl⟩
      exact .inl (.inl ⟨c, listed, List.mem_append_left _ here⟩)
    | operand term op =>
      obtain ⟨c, listed, rfl, rfl, rfl⟩ := binds
      exact .inl (.inl ⟨c, listed, List.mem_append_right _ (List.mem_singleton.mpr rfl)⟩)
    | sort number position =>
      obtain ⟨k, listed, rfl, segment, found, rfl⟩ := binds
      have named : (Parameter.sort k.number position).name = segmentName k.stem (0 + position) := by
        rw [Nat.zero_add]
        rfl
      exact .inl (.inr ⟨k, listed, mem_bindSegments.mpr ⟨position, segment, found, named, rfl⟩⟩)
    | collection =>
      obtain rfl := binds
      exact .inr rfl

/-- Clauses of one term share its path and have operators of their own, and sort keys have numbers of their own. -/
structure Consistent (clauses : List Clause) (keys : List Placed) : Prop where
  segments : ∀ a ∈ clauses, ∀ b ∈ clauses, a.term = b.term → a.segments = b.segments
  operand : ∀ a ∈ clauses, ∀ b ∈ clauses, a.term = b.term → a.operator = b.operator → a.operand = b.operand
  keys : ∀ a ∈ keys, ∀ b ∈ keys, a.number = b.number → a.segments = b.segments

theorem Binds.unique (consistent : Consistent clauses keys) {p : Parameter} {v w : Value}
    (first : Binds clauses keys collection d p v) (second : Binds clauses keys collection d p w) : v = w := by
  cases p with
  | field term position =>
    obtain ⟨a, inA, rfl, segment, foundA, rfl⟩ := first
    obtain ⟨b, inB, same, other, foundB, rfl⟩ := second
    rw [consistent.segments b inB a inA same, foundA] at foundB
    rw [Option.some.inj foundB]
  | operand term op =>
    obtain ⟨a, inA, rfl, rfl, rfl⟩ := first
    obtain ⟨b, inB, same, alike, rfl⟩ := second
    rw [consistent.operand b inB a inA same alike]
  | sort number position =>
    obtain ⟨a, inA, rfl, segment, foundA, rfl⟩ := first
    obtain ⟨b, inB, same, other, foundB, rfl⟩ := second
    rw [consistent.keys b inB a inA same, foundA] at foundB
    rw [Option.some.inj foundB]
  | collection => exact first.trans second.symm

theorem get?_entries (consistent : Consistent clauses keys) {p : Parameter} {v : Value}
    (binds : Binds clauses keys collection d p v) :
    (Table.ofList (entries clauses keys collection d)).get? p.name = some v := by
  refine Table.get?_ofList (mem_entries.mpr ⟨p, rfl, binds⟩) fun other listed => ?_
  obtain ⟨q, same, bindsOther⟩ := mem_entries.mp listed
  obtain rfl := Parameter.name_injective same
  exact bindsOther.unique consistent binds

end Find
end RecordStore
