import RecordStore.Proofs.Value.Order

/-!
# Structural equality

`Value.same` is symmetric, and two lists that are made from one list are the same when they agree item by item. The
order of values is coarser: it finds values equal that are not the same, but for values that cannot be mistaken for
others (`same_of_compare_eq`).
-/

namespace RecordStore

theorem Number.same_comm (a b : Number) : a.same b = b.same a := by
  cases a <;> cases b <;> simp [Number.same, Bool.beq_comm]

namespace Value

mutual

theorem same_comm : ∀ a b : Value, same a b = same b a
  | .null, b => by cases b <;> rfl
  | .bool a, b => by cases b <;> simp [same, Bool.beq_comm]
  | .number a, b => by cases b <;> simp [same, Number.same_comm]
  | .string a, b => by cases b <;> simp [same, Bool.beq_comm]
  | .array as, b => by
    cases b with
    | array bs => exact sameItems_comm as bs
    | _ => rfl
  | .object as, b => by
    cases b with
    | object bs => exact sameFields_comm as bs
    | _ => rfl

theorem sameItems_comm : ∀ as bs : List Value, sameItems as bs = sameItems bs as
  | [], bs => by cases bs <;> rfl
  | a :: as, [] => rfl
  | a :: as, b :: bs => by
    rw [sameItems, sameItems, same_comm a b, sameItems_comm as bs]

theorem sameFields_comm : ∀ as bs : List (String × Value), sameFields as bs = sameFields bs as
  | [], bs => by cases bs <;> rfl
  | (k, a) :: as, [] => rfl
  | (k, a) :: as, (l, b) :: bs => by
    rw [sameFields, sameFields, same_comm a b, sameFields_comm as bs, Bool.beq_comm]

end

theorem same_of_sameItems_map {α : Type} {f g : α → Value} {items : List α}
    (same : sameItems (items.map f) (items.map g) = true) : ∀ x ∈ items, (f x).same (g x) = true := by
  induction items with
  | nil => simp
  | cons x rest ih =>
    rw [List.map_cons, List.map_cons, sameItems, Bool.and_eq_true] at same
    intro y listed
    rcases List.mem_cons.mp listed with rfl | later
    · exact same.1
    · exact ih same.2 y later

theorem lookup_null (path : List String) : Value.null.lookup path = .null := by
  induction path with
  | nil => rfl
  | cons segment rest ih => exact ih

/-! ### Equality in the order -/

/-- Values that only the same values are equal to in the order. Integers and floats are mistaken for each other, and
arrays and objects for those with a null added. -/
def Unmistakable : Value → Prop
  | .null | .bool _ | .string _ => True
  | .number (.float x) => ∀ n, (Binary64.ofInt n).key ≠ x.key
  | _ => False

theorem eq_of_compareText {a b : String} (equal : compareText a b = .eq) : a = b := by
  unfold compareText at equal
  split at equal
  · cases equal
  · split at equal
    · assumption
    · cases equal

theorem rank_eq_of_compare {a b : Value} (equal : a.compare b = .eq) : a.rank = b.rank := by
  by_contra different
  rw [compare_of_rank_ne different] at equal
  exact different (Std.LawfulEqOrd.eq_of_compare equal)

/-- Two values that are equal in the order to a value that cannot be mistaken are the same. -/
theorem same_of_compare_eq {a b v : Value} (clear : v.Unmistakable) (left : a.compare v = .eq)
    (right : b.compare v = .eq) : a.same b = true := by
  have rankA := rank_eq_of_compare left
  have rankB := rank_eq_of_compare right
  cases v with
  | null =>
    cases a <;> cases rankA
    cases b <;> cases rankB
    rfl
  | bool p =>
    cases a <;> cases rankA
    cases b <;> cases rankB
    rw [compare, Std.LawfulEqOrd.compare_eq_iff_eq] at left right
    simp [same, left, right]
  | string s =>
    cases a <;> cases rankA
    cases b <;> cases rankB
    simp [same, eq_of_compareText left, eq_of_compareText right]
  | number n =>
    cases n with
    | int n => exact clear.elim
    | float x =>
      cases a <;> cases rankA
      cases b <;> cases rankB
      rename_i m n
      rw [compare, Std.LawfulEqOrd.compare_eq_iff_eq] at left right
      cases m with
      | int m => exact absurd left (clear m)
      | float y =>
        cases n with
        | int n => exact absurd right (clear n)
        | float z => simpa [same, Number.same, Number.toBinary64] using left.trans right.symm
  | array => exact clear.elim
  | object => exact clear.elim

end Value
end RecordStore
