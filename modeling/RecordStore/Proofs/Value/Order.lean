import RecordStore.Value.Order
import Mathlib.Data.List.Dedup

/-!
# The order of values is a total preorder

On values whose objects list their attributes in ascending order, which is how documents are stored, `Value.compare`
is antisymmetric up to equality and transitive. Objects are compared like arrays over any list of names that covers
both (`compareFields_eq_items`), so both kinds rest on one argument about lists.
-/

namespace RecordStore

/-- Of two comparisons in ascending order the first strict one decides how the ends compare. -/
def Chains (ab bc ac : Ordering) : Prop :=
  ab.isLE → bc.isLE → ac = ab.then bc

namespace Chains

theorem and_then {ab bc ac ab' bc' ac' : Ordering} (first : Chains ab bc ac) (second : Chains ab' bc' ac') :
    Chains (ab.then ab') (bc.then bc') (ac.then ac') := by
  intro left right
  have heads := first (Ordering.isLE_left_of_isLE_then left) (Ordering.isLE_left_of_isLE_then right)
  subst heads
  cases ab with
  | lt => rfl
  | gt => cases left
  | eq =>
    cases bc with
    | lt => cases ab' <;> first | rfl | cases left
    | gt => cases right
    | eq => exact second left right

theorem of_ord {α : Type} [Ord α] [Std.TransOrd α] (a b c : α) : Chains (compare a b) (compare b c) (compare a c) := by
  intro left right
  cases ab : compare a b with
  | lt => exact Std.TransCmp.lt_of_lt_of_isLE ab right
  | eq => exact Std.TransCmp.congr_left ab
  | gt => simp [ab] at left

theorem isLE {ab bc ac : Ordering} (chains : Chains ab bc ac) (left : ab.isLE) (right : bc.isLE) : ac.isLE := by
  rw [chains left right]
  exact Ordering.isLE_then_iff_and.mpr ⟨left, .inr right⟩

end Chains

namespace Value

@[elab_as_elim]
theorem induct {P : Value → Prop} (null : P .null) (bool : ∀ b, P (.bool b)) (number : ∀ n, P (.number n))
    (string : ∀ s, P (.string s)) (array : ∀ items, (∀ v ∈ items, P v) → P (.array items))
    (object : ∀ fields : List (String × Value), (∀ entry ∈ fields, P entry.2) → P (.object fields)) (v : Value) :
    P v :=
  match v with
  | .null => null
  | .bool b => bool b
  | .number n => number n
  | .string s => string s
  | .array items =>
    array items fun w listed =>
      have : sizeOf w < sizeOf items := List.sizeOf_lt_of_mem listed
      induct null bool number string array object w
  | .object fields =>
    object fields fun entry listed =>
      have : sizeOf entry < sizeOf fields := List.sizeOf_lt_of_mem listed
      have : sizeOf entry.2 < sizeOf entry := by
        obtain ⟨name, w⟩ := entry
        simp only [Prod.mk.sizeOf_spec]
        omega
      induct null bool number string array object entry.2
termination_by sizeOf v

/-! ### Objects in order -/

mutual

/-- The attributes of all objects in a value are in ascending order. -/
def Ordered : Value → Prop
  | .array items => OrderedItems items
  | .object fields => fields.Pairwise (fun a b => a.1 < b.1) ∧ OrderedFields fields
  | _ => True

def OrderedItems : List Value → Prop
  | [] => True
  | v :: rest => v.Ordered ∧ OrderedItems rest

def OrderedFields : List (String × Value) → Prop
  | [] => True
  | (_, v) :: rest => v.Ordered ∧ OrderedFields rest

end

theorem orderedItems_iff {items : List Value} : OrderedItems items ↔ ∀ v ∈ items, v.Ordered := by
  induction items with
  | nil => simp [OrderedItems]
  | cons v rest ih => simp [OrderedItems, ih]

theorem orderedFields_iff {fields : List (String × Value)} :
    OrderedFields fields ↔ ∀ entry ∈ fields, entry.2.Ordered := by
  induction fields with
  | nil => simp [OrderedFields]
  | cons entry rest ih => simp [OrderedFields, ih]

theorem ordered_array {items : List Value} : (Value.array items).Ordered ↔ ∀ v ∈ items, v.Ordered := by
  rw [Ordered, orderedItems_iff]

theorem ordered_object {fields : List (String × Value)} :
    (Value.object fields).Ordered ↔
      fields.Pairwise (fun a b => a.1 < b.1) ∧ ∀ entry ∈ fields, entry.2.Ordered := by
  rw [Ordered, orderedFields_iff]

theorem ordered_null : Value.null.Ordered := by
  simp [Ordered]

/-! ### Kinds -/

theorem compare_of_rank_ne {a b : Value} (different : a.rank ≠ b.rank) :
    a.compare b = Ord.compare a.rank b.rank := by
  cases a <;> cases b <;> first | exact absurd rfl different | rfl

theorem rank_le_of_isLE {a b : Value} (below : (a.compare b).isLE) : a.rank ≤ b.rank := by
  by_cases same : a.rank = b.rank
  · exact Nat.le_of_eq same
  · rw [compare_of_rank_ne same] at below
    exact Nat.isLE_compare.mp below

theorem compare_of_rank_lt {a b : Value} (below : a.rank < b.rank) : a.compare b = .lt := by
  rw [compare_of_rank_ne (Nat.ne_of_lt below)]
  exact Nat.compare_eq_lt.mpr below

/-- Values of different kinds chain, whatever they are. -/
theorem chains_of_rank_ne {a b c : Value} (different : ¬(a.rank = b.rank ∧ b.rank = c.rank)) :
    Chains (a.compare b) (b.compare c) (a.compare c) := by
  intro left right
  have ab := rank_le_of_isLE left
  have bc := rank_le_of_isLE right
  have ac : a.compare c = .lt := compare_of_rank_lt (by omega)
  by_cases first : a.rank = b.rank
  · rw [ac, compare_of_rank_lt (show b.rank < c.rank by omega)]
    cases step : a.compare b with
    | lt | eq => rfl
    | gt => simp [step] at left
  · rw [ac, compare_of_rank_lt (show a.rank < b.rank by omega)]
    rfl

theorem chains_of_alike {a b c : Value}
    (alike : a.rank = b.rank → b.rank = c.rank → Chains (a.compare b) (b.compare c) (a.compare c)) :
    Chains (a.compare b) (b.compare c) (a.compare c) := by
  by_cases same : a.rank = b.rank ∧ b.rank = c.rank
  · exact alike same.1 same.2
  · exact chains_of_rank_ne same

theorem compare_null_null : Value.null.compare .null = .eq := rfl

theorem compare_null (v : Value) : Value.null.compare v = if v.isNull then .eq else .lt := by
  cases v <;> rfl

theorem compare_null_right (v : Value) : v.compare .null = againstMissing v := by
  cases v <;> rfl

theorem null_eq_swap (v : Value) : v.compare .null = (Value.null.compare v).swap := by
  cases v <;> rfl

theorem chains_null (b c : Value) : Chains (Value.null.compare b) (b.compare c) (Value.null.compare c) := by
  refine chains_of_alike fun first second => ?_
  cases b <;> cases first
  cases c <;> cases second
  exact fun _ _ => rfl

/-! ### Arrays -/

theorem compareItems_nil (ys : List Value) : compareItems [] ys = if ys.all isNull then .eq else .lt := by
  rw [compareItems]

/-- Arrays are compared by their first items and then by the others, with null for what is missing. -/
theorem compareItems_step (xs ys : List Value) :
    compareItems xs ys =
      ((xs.headD .null).compare (ys.headD .null)).then (compareItems xs.tail ys.tail) := by
  cases xs with
  | nil =>
    cases ys with
    | nil => rfl
    | cons y ys =>
      rw [compareItems_nil, List.headD_nil, List.headD_cons, compare_null, List.tail_nil, List.tail_cons,
        compareItems_nil, List.all_cons]
      cases y.isNull <;> rfl
  | cons x xs =>
    cases ys with
    | nil =>
      rw [compareItems, List.headD_cons, List.headD_nil, compare_null_right]
      rfl
    | cons y ys =>
      rw [compareItems]
      rfl

theorem headD_forall {P : Value → Prop} (null : P .null) {xs : List Value} (items : ∀ x ∈ xs, P x) :
    P (xs.headD .null) := by
  cases xs with
  | nil => exact null
  | cons x rest => exact items x List.mem_cons_self

theorem compareItems_eq_swap {xs : List Value}
    (items : ∀ x ∈ xs, ∀ b : Value, b.Ordered → b.compare x = (x.compare b).swap) {ys : List Value}
    (ordered : ∀ y ∈ ys, y.Ordered) : compareItems ys xs = (compareItems xs ys).swap := by
  suffices bounded : ∀ n xs ys, xs.length ≤ n → ys.length ≤ n →
      (∀ x ∈ xs, ∀ b : Value, b.Ordered → b.compare x = (x.compare b).swap) → (∀ y ∈ ys, y.Ordered) →
      compareItems ys xs = (compareItems xs ys).swap from
    bounded (xs.length + ys.length) xs ys (Nat.le_add_right _ _) (Nat.le_add_left _ _) items ordered
  intro n
  induction n with
  | zero =>
    intro xs ys shortX shortY _ _
    rw [List.length_eq_zero_iff.mp (Nat.le_zero.mp shortX), List.length_eq_zero_iff.mp (Nat.le_zero.mp shortY)]
    rfl
  | succ n ih =>
    intro xs ys shortX shortY items ordered
    have heads := headD_forall (fun b _ => null_eq_swap b) items _ (headD_forall ordered_null ordered)
    have tails := ih xs.tail ys.tail (by simp; omega) (by simp; omega)
      (fun x listed => items x (List.mem_of_mem_tail listed)) fun y listed => ordered y (List.mem_of_mem_tail listed)
    rw [compareItems_step ys xs, compareItems_step xs ys, heads, tails, Ordering.swap_then]

theorem chains_compareItems {xs : List Value}
    (items : ∀ x ∈ xs, ∀ b c : Value, b.Ordered → c.Ordered → Chains (x.compare b) (b.compare c) (x.compare c))
    {ys zs : List Value} (orderedY : ∀ y ∈ ys, y.Ordered) (orderedZ : ∀ z ∈ zs, z.Ordered) :
    Chains (compareItems xs ys) (compareItems ys zs) (compareItems xs zs) := by
  suffices bounded : ∀ n xs ys zs, xs.length ≤ n → ys.length ≤ n → zs.length ≤ n →
      (∀ x ∈ xs, ∀ b c : Value, b.Ordered → c.Ordered → Chains (x.compare b) (b.compare c) (x.compare c)) →
      (∀ y ∈ ys, y.Ordered) → (∀ z ∈ zs, z.Ordered) →
      Chains (compareItems xs ys) (compareItems ys zs) (compareItems xs zs) from
    bounded (xs.length + ys.length + zs.length) xs ys zs (by omega) (by omega) (by omega) items orderedY orderedZ
  intro n
  induction n with
  | zero =>
    intro xs ys zs shortX shortY shortZ _ _ _
    rw [List.length_eq_zero_iff.mp (Nat.le_zero.mp shortX), List.length_eq_zero_iff.mp (Nat.le_zero.mp shortY),
      List.length_eq_zero_iff.mp (Nat.le_zero.mp shortZ)]
    exact fun _ _ => rfl
  | succ n ih =>
    intro xs ys zs shortX shortY shortZ items orderedY orderedZ
    have heads := headD_forall (fun b c _ _ => chains_null b c) items _ _
      (headD_forall ordered_null orderedY) (headD_forall ordered_null orderedZ)
    have tails := ih xs.tail ys.tail zs.tail (by simp; omega) (by simp; omega) (by simp; omega)
      (fun x listed => items x (List.mem_of_mem_tail listed)) (fun y listed => orderedY y (List.mem_of_mem_tail listed))
      fun z listed => orderedZ z (List.mem_of_mem_tail listed)
    rw [compareItems_step xs ys, compareItems_step ys zs, compareItems_step xs zs]
    exact heads.and_then tails

/-! ### Objects -/

def valueAt (fields : List (String × Value)) (name : String) : Value :=
  (Table.get? fields name).getD .null

theorem valueAt_cons (k : String) (v : Value) (rest : List (String × Value)) (name : String) :
    valueAt ((k, v) :: rest) name = if k = name then v else valueAt rest name := by
  unfold valueAt
  rw [Table.get?_cons]
  split <;> rfl

theorem ne_of_lt {a b : String} (lt : a < b) : a ≠ b := by
  rintro rfl
  exact String.lt_irrefl a lt

theorem valueAt_of_lt {fields : List (String × Value)} {name : String} (above : ∀ entry ∈ fields, name < entry.1) :
    valueAt fields name = .null := by
  induction fields with
  | nil => rfl
  | cons entry rest ih =>
    obtain ⟨k, v⟩ := entry
    rw [valueAt_cons, if_neg (ne_of_lt (above (k, v) List.mem_cons_self)).symm]
    exact ih fun entry listed => above entry (List.mem_cons_of_mem _ listed)

theorem fieldsBelow_cons {name k : String} (y : Value) (ys : List (String × Value)) (notBelow : ¬k < name) :
    fieldsBelow name ((k, y) :: ys) = [] := by
  unfold fieldsBelow
  rw [List.takeWhile_cons_of_neg (by simpa using notBelow)]

theorem fieldsFrom_cons {name k : String} (y : Value) (ys : List (String × Value)) (notBelow : ¬k < name) :
    fieldsFrom name ((k, y) :: ys) = (k, y) :: ys := by
  unfold fieldsFrom
  rw [List.dropWhile_cons_of_neg (by simpa using notBelow)]

theorem compareFields_same (name : String) (x y : Value) (xs ys : List (String × Value)) :
    compareFields ((name, x) :: xs) ((name, y) :: ys) = (x.compare y).then (compareFields xs ys) := by
  have notBelow := String.lt_irrefl name
  rw [compareFields, fieldsBelow_cons y ys notBelow, fieldsFrom_cons y ys notBelow]
  simp [allMissing]

/-- An attribute that comes before all of the other object is compared with null. -/
theorem compareFields_left {name : String} (x : Value) (xs : List (String × Value)) {ys : List (String × Value)}
    (above : ∀ entry ∈ ys, name < entry.1) :
    compareFields ((name, x) :: xs) ys = (x.compare .null).then (compareFields xs ys) := by
  rw [compareFields, compare_null_right]
  cases ys with
  | nil => rfl
  | cons entry rest =>
    obtain ⟨k, y⟩ := entry
    have lt : name < k := above (k, y) List.mem_cons_self
    rw [fieldsBelow_cons y rest (String.lt_asymm lt), fieldsFrom_cons y rest (String.lt_asymm lt)]
    simp [allMissing, (ne_of_lt lt).symm]

theorem compareFields_right {name : String} (y : Value) (ys : List (String × Value)) {xs : List (String × Value)}
    (above : ∀ entry ∈ xs, name < entry.1) :
    compareFields xs ((name, y) :: ys) = (Value.null.compare y).then (compareFields xs ys) := by
  rw [compare_null]
  cases xs with
  | nil =>
    rw [compareFields, compareFields, allMissing, allMissing, List.all_cons]
    cases y.isNull <;> rfl
  | cons entry rest =>
    obtain ⟨k, x⟩ := entry
    have lt : decide (name < k) = true := decide_eq_true (above (k, x) List.mem_cons_self)
    have below : fieldsBelow k ((name, y) :: ys) = (name, y) :: fieldsBelow k ys := List.takeWhile_cons_of_pos lt
    have later : fieldsFrom k ((name, y) :: ys) = fieldsFrom k ys := List.dropWhile_cons_of_pos lt
    rw [compareFields, compareFields, below, later, allMissing, allMissing, List.all_cons]
    cases y.isNull <;> rfl

/-- Attributes whose names are among some in ascending order begin with the first of these, or do without it. -/
theorem covered_cases {name : String} {names : List String} (ascending : (name :: names).Pairwise (· < ·))
    {fields : List (String × Value)} (ordered : fields.Pairwise fun a b => a.1 < b.1)
    (covered : ∀ entry ∈ fields, entry.1 ∈ name :: names) :
    (∃ v rest, fields = (name, v) :: rest ∧ ∀ entry ∈ rest, entry.1 ∈ names) ∨ ∀ entry ∈ fields, entry.1 ∈ names := by
  cases fields with
  | nil => exact .inr fun _ listed => absurd listed List.not_mem_nil
  | cons entry rest =>
    obtain ⟨k, v⟩ := entry
    have later : ∀ other ∈ rest, name ≤ k → other.1 ∈ names := by
      intro other listed le
      refine (List.mem_cons.mp (covered other (List.mem_cons_of_mem _ listed))).resolve_left fun same => le ?_
      exact same ▸ List.rel_of_pairwise_cons ordered listed
    rcases List.mem_cons.mp (covered (k, v) List.mem_cons_self) with same | member
    · obtain rfl : k = name := same
      exact .inl ⟨v, rest, rfl, fun other listed => later other listed (String.lt_irrefl k)⟩
    · refine .inr fun other listed => ?_
      rcases List.mem_cons.mp listed with rfl | listed
      · exact member
      · exact later other listed (String.lt_asymm (List.rel_of_pairwise_cons ascending member))

theorem map_valueAt_cons {name : String} {names : List String} (ascending : (name :: names).Pairwise (· < ·))
    (v : Value) (rest : List (String × Value)) : names.map (valueAt ((name, v) :: rest)) = names.map (valueAt rest) := by
  refine List.map_congr_left fun other listed => ?_
  rw [valueAt_cons, if_neg (ne_of_lt (List.rel_of_pairwise_cons ascending listed))]

/-- Objects are compared like the arrays of their values at any names that cover both. -/
theorem compareFields_eq_items {names : List String} (ascending : names.Pairwise (· < ·))
    {xs ys : List (String × Value)} (orderedX : xs.Pairwise fun a b => a.1 < b.1)
    (orderedY : ys.Pairwise fun a b => a.1 < b.1) (coveredX : ∀ entry ∈ xs, entry.1 ∈ names)
    (coveredY : ∀ entry ∈ ys, entry.1 ∈ names) :
    compareFields xs ys = compareItems (names.map (valueAt xs)) (names.map (valueAt ys)) := by
  induction names generalizing xs ys with
  | nil =>
    rw [List.eq_nil_iff_forall_not_mem.mpr fun entry listed => absurd (coveredX entry listed) List.not_mem_nil,
      List.eq_nil_iff_forall_not_mem.mpr fun entry listed => absurd (coveredY entry listed) List.not_mem_nil]
    rfl
  | cons name names ih =>
    have later := List.Pairwise.of_cons ascending
    have above {fields : List (String × Value)} (covered : ∀ entry ∈ fields, entry.1 ∈ names) :
        ∀ entry ∈ fields, name < entry.1 :=
      fun entry listed => List.rel_of_pairwise_cons ascending (covered entry listed)
    rw [List.map_cons, List.map_cons, compareItems]
    rcases covered_cases ascending orderedX coveredX with ⟨x, tailX, rfl, inX⟩ | inX <;>
      rcases covered_cases ascending orderedY coveredY with ⟨y, tailY, rfl, inY⟩ | inY
    · rw [compareFields_same, ih later orderedX.of_cons orderedY.of_cons inX inY, map_valueAt_cons ascending,
        map_valueAt_cons ascending, valueAt_cons, valueAt_cons, if_pos rfl, if_pos rfl]
    · rw [compareFields_left x tailX (above inY), ih later orderedX.of_cons orderedY inX inY,
        map_valueAt_cons ascending, valueAt_cons, if_pos rfl, valueAt_of_lt (above inY)]
    · rw [compareFields_right y tailY (above inX), ih later orderedX orderedY.of_cons inX inY,
        map_valueAt_cons ascending, valueAt_cons, if_pos rfl, valueAt_of_lt (above inX)]
    · rw [ih later orderedX orderedY inX inY, valueAt_of_lt (above inX), valueAt_of_lt (above inY), compare_null_null]
      rfl

/-- Some objects are covered by names in ascending order. -/
theorem exists_cover (objects : List (List (String × Value))) :
    ∃ names : List String, names.Pairwise (· < ·) ∧ ∀ fields ∈ objects, ∀ entry ∈ fields, entry.1 ∈ names := by
  let names := objects.flatMap (·.map Prod.fst)
  refine ⟨names.dedup.mergeSort, ?_, fun fields here entry listed => ?_⟩
  · have upwards : names.dedup.mergeSort.Pairwise (· ≤ ·) := by
      refine (List.pairwise_mergeSort (fun a b c ab bc => ?_) (fun a b => ?_) names.dedup).imp of_decide_eq_true
      · exact decide_eq_true (String.le_trans (of_decide_eq_true ab) (of_decide_eq_true bc))
      · simpa using String.le_total a b
    have distinct : names.dedup.mergeSort.Nodup := (List.mergeSort_perm _ _).nodup_iff.mpr names.nodup_dedup
    refine (upwards.and distinct).imp fun {a b} between => ?_
    exact Decidable.not_not.mp fun notLt => between.2 (String.le_antisymm between.1 (String.not_lt.mp notLt))
  · refine List.mem_mergeSort.mpr (List.mem_dedup.mpr (List.mem_flatMap.mpr ⟨fields, here, ?_⟩))
    exact List.mem_map_of_mem listed

theorem valueAt_cases {P : Value → Prop} (null : P .null) {fields : List (String × Value)}
    (entries : ∀ entry ∈ fields, P entry.2) (name : String) : P (valueAt fields name) := by
  unfold valueAt
  cases found : Table.get? fields name with
  | none => exact null
  | some v => exact entries (name, v) (Table.mem_of_get? found)

theorem valueAt_forall {P : Value → Prop} (null : P .null) {fields : List (String × Value)}
    (entries : ∀ entry ∈ fields, P entry.2) (names : List String) : ∀ v ∈ names.map (valueAt fields), P v := by
  intro v listed
  obtain ⟨name, -, rfl⟩ := List.mem_map.mp listed
  exact valueAt_cases null entries name

/-! ### The laws -/

theorem rank_eq_array {items : List Value} {b : Value} (same : (Value.array items).rank = b.rank) :
    ∃ others, b = .array others := by
  cases b <;> first | exact ⟨_, rfl⟩ | cases same

theorem rank_eq_object {fields : List (String × Value)} {b : Value} (same : (Value.object fields).rank = b.rank) :
    ∃ others, b = .object others := by
  cases b <;> first | exact ⟨_, rfl⟩ | cases same

theorem compare_eq_swap {a b : Value} (orderedA : a.Ordered) (orderedB : b.Ordered) :
    b.compare a = (a.compare b).swap := by
  induction a using induct generalizing b with
  | null => exact null_eq_swap b
  | bool p =>
    cases b with
    | bool q => exact (Std.OrientedOrd.eq_swap : Ord.compare q p = _)
    | _ => rfl
  | number m =>
    cases b with
    | number n => exact (Std.OrientedOrd.eq_swap : Ord.compare n.toBinary64.key m.toBinary64.key = _)
    | _ => rfl
  | string s =>
    cases b with
    | string t => exact (Std.OrientedOrd.eq_swap : Ord.compare t s = _)
    | _ => rfl
  | array xs ih =>
    by_cases same : (Value.array xs).rank = b.rank
    · obtain ⟨ys, rfl⟩ := rank_eq_array same
      have items := ordered_array.mp orderedA
      exact compareItems_eq_swap (fun x listed c => ih x listed (items x listed)) (ordered_array.mp orderedB)
    · rw [compare_of_rank_ne same, compare_of_rank_ne (Ne.symm same)]
      exact Std.OrientedCmp.eq_swap
  | object xs ih =>
    by_cases same : (Value.object xs).rank = b.rank
    · obtain ⟨ys, rfl⟩ := rank_eq_object same
      obtain ⟨upX, entriesX⟩ := ordered_object.mp orderedA
      obtain ⟨upY, entriesY⟩ := ordered_object.mp orderedB
      -- the objects may have different attributes; at names that cover both they compare like arrays
      obtain ⟨names, ascending, covers⟩ := exists_cover [xs, ys]
      have coverX := covers xs (by simp)
      have coverY := covers ys (by simp)
      rw [compare, compare, compareFields_eq_items ascending upY upX coverY coverX,
        compareFields_eq_items ascending upX upY coverX coverY]
      exact compareItems_eq_swap
        (valueAt_forall (fun b _ => null_eq_swap b)
          (fun entry listed c => ih entry listed (entriesX entry listed)) names)
        (valueAt_forall ordered_null entriesY names)
    · rw [compare_of_rank_ne same, compare_of_rank_ne (Ne.symm same)]
      exact Std.OrientedCmp.eq_swap

theorem chains {a b c : Value} (orderedA : a.Ordered) (orderedB : b.Ordered) (orderedC : c.Ordered) :
    Chains (a.compare b) (b.compare c) (a.compare c) := by
  induction a using induct generalizing b c with
  | null => exact chains_null b c
  | bool p =>
    refine chains_of_alike fun first second => ?_
    cases b <;> cases first
    cases c <;> cases second
    exact .of_ord p _ _
  | number m =>
    refine chains_of_alike fun first second => ?_
    cases b <;> cases first
    cases c <;> cases second
    exact .of_ord m.toBinary64.key _ _
  | string s =>
    refine chains_of_alike fun first second => ?_
    cases b <;> cases first
    cases c <;> cases second
    exact .of_ord s _ _
  | array xs ih =>
    refine chains_of_alike fun first second => ?_
    obtain ⟨ys, rfl⟩ := rank_eq_array first
    obtain ⟨zs, rfl⟩ := rank_eq_array second
    have items := ordered_array.mp orderedA
    exact chains_compareItems (fun x listed c d => ih x listed (items x listed)) (ordered_array.mp orderedB)
      (ordered_array.mp orderedC)
  | object xs ih =>
    refine chains_of_alike fun first second => ?_
    obtain ⟨ys, rfl⟩ := rank_eq_object first
    obtain ⟨zs, rfl⟩ := rank_eq_object second
    obtain ⟨upX, entriesX⟩ := ordered_object.mp orderedA
    obtain ⟨upY, entriesY⟩ := ordered_object.mp orderedB
    obtain ⟨upZ, entriesZ⟩ := ordered_object.mp orderedC
    obtain ⟨names, ascending, covers⟩ := exists_cover [xs, ys, zs]
    have coverX := covers xs (by simp)
    have coverY := covers ys (by simp)
    have coverZ := covers zs (by simp)
    rw [compare, compare, compare, compareFields_eq_items ascending upX upY coverX coverY,
      compareFields_eq_items ascending upY upZ coverY coverZ, compareFields_eq_items ascending upX upZ coverX coverZ]
    exact chains_compareItems
      (valueAt_forall (fun b c _ _ => chains_null b c) (fun entry listed c d => ih entry listed (entriesX entry listed))
        names)
      (valueAt_forall ordered_null entriesY names) (valueAt_forall ordered_null entriesZ names)

/-! ### Values within values -/

theorem ordered_lookup {v : Value} (ordered : v.Ordered) (path : List String) : (v.lookup path).Ordered := by
  induction path generalizing v with
  | nil => exact ordered
  | cons segment rest ih =>
    unfold lookup
    split
    · exact ih (valueAt_cases ordered_null (ordered_object.mp ordered).2 segment)
    · exact ih ordered_null

end Value
end RecordStore
