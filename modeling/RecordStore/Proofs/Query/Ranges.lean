import RecordStore.Proofs.Query.Sorting

/-!
# Sorting and ranges

Sorting by an attribute puts the documents where range conditions on it say that they are: around any value, those
below it, those equal to it and those above it, in this order or the opposite one. This holds because the order of
values is a total preorder (`sort_around`).
-/

namespace RecordStore

/-! ### Lists that ascend past a point -/

/-- A list on which no item that lies above a point comes before one that does not, nor one that lies below it after
one that does not. -/
def AscendsPast {α : Type} (side : α → Ordering) (items : List α) : Prop :=
  items.Pairwise fun a b => (side a = .gt → side b = .gt) ∧ (side b = .lt → side a = .lt)

theorem AscendsPast.eq_append {α : Type} {side : α → Ordering} {items : List α} (ascends : AscendsPast side items) :
    items = items.filter (side · == .lt) ++ items.filter (side · == .eq) ++ items.filter (side · == .gt) := by
  induction items with
  | nil => rfl
  | cons a rest ih =>
    obtain ⟨first, later⟩ := List.pairwise_cons.mp ascends
    have split := ih later
    have none (o : Ordering) (other : ∀ b ∈ rest, side b ≠ o) : rest.filter (side · == o) = [] := by
      simpa using other
    cases place : side a with
    | lt =>
      simp only [List.filter_cons, place]
      exact congrArg (a :: ·) split
    | eq =>
      have below := none .lt fun b listed lt => by simp [(first b listed).2 lt] at place
      simp only [List.filter_cons, place, below] at split ⊢
      exact congrArg (a :: ·) split
    | gt =>
      have above : ∀ b ∈ rest, side b = .gt := fun b listed => (first b listed).1 place
      have below := none .lt fun b listed lt => by simp [above b listed] at lt
      have same := none .eq fun b listed eq => by simp [above b listed] at eq
      simp only [List.filter_cons, place, below, same] at split ⊢
      exact congrArg (a :: ·) split

/-! ### A value among ordered ones -/

theorem Value.compare_self {a : Value} (ordered : a.Ordered) : a.compare a = .eq := by
  have swapped := Value.compare_eq_swap ordered ordered
  cases self : a.compare a <;> simp [self] at swapped ⊢

/-- What comes after a value above a point is above it too, and what comes before one below it is below it. -/
theorem Value.passes {a b x : Value} (orderedA : a.Ordered) (orderedB : b.Ordered) (orderedX : x.Ordered)
    (upward : (a.compare b).isLE) :
    (a.compare x = .gt → b.compare x = .gt) ∧ (b.compare x = .lt → a.compare x = .lt) := by
  constructor
  · intro above
    have below : x.compare a = .lt := by rw [Value.compare_eq_swap orderedA orderedX, above]; rfl
    have past := Value.chains orderedX orderedA orderedB (by rw [below]; rfl) upward
    rw [below] at past
    rw [Value.compare_eq_swap orderedX orderedB, past]
    rfl
  · intro below
    rw [Value.chains orderedA orderedB orderedX upward (by rw [below]; rfl), below]
    cases between : a.compare b with
    | lt => rfl
    | eq => rfl
    | gt => simp [between] at upward

theorem Value.same_side {a b x : Value} (orderedA : a.Ordered) (orderedB : b.Ordered) (orderedX : x.Ordered)
    (same : a.compare x = .eq) : a.compare b = .eq ↔ b.compare x = .eq := by
  constructor
  · intro tie
    have back : b.compare a = .eq := by rw [Value.compare_eq_swap orderedA orderedB, tie]; rfl
    rw [Value.chains orderedB orderedA orderedX (by rw [back]; rfl) (by rw [same]; rfl), back, same]
    rfl
  · intro tie
    have back : x.compare b = .eq := by rw [Value.compare_eq_swap orderedB orderedX, tie]; rfl
    rw [Value.chains orderedA orderedX orderedB (by rw [same]; rfl) (by rw [back]; rfl), same, back]
    rfl

namespace Query

/-- On which side of a value a document lies, in the direction of a key. -/
def Key.side (k : Key) (x document : Value) : Ordering :=
  let o := (document.lookup k.path).compare x
  if k.descending then o.swap else o

theorem Key.stablySorted (k : Key) {documents : List Value} (ordered : ∀ document ∈ documents, document.Ordered) :
    StablySorted (Key.compareAll [k]) documents (Key.sort [k] documents) :=
  (Key.stablySorted_iff ordered).mpr rfl

theorem Key.ascendsPast_sort (k : Key) {documents : List Value} (ordered : ∀ document ∈ documents, document.Ordered)
    {x : Value} (orderedX : x.Ordered) : AscendsPast (k.side x) (Key.sort [k] documents) := by
  have stably := k.stablySorted ordered
  have within : ∀ a ∈ Key.sort [k] documents, (a.lookup k.path).Ordered := fun a listed =>
    Value.ordered_lookup (ordered a (stably.perm.mem_iff.mp listed)) k.path
  refine stably.ascending.imp_of_mem fun {a b} inA inB notAbove => ?_
  have orderedA := within a inA
  have orderedB := within b inB
  simp only [Key.compareAll, Ordering.then_eq, Key.compare] at notAbove
  unfold Key.side
  cases direction : k.descending with
  | false =>
    simp only [direction, Bool.false_eq_true, if_false] at notAbove ⊢
    exact Value.passes orderedA orderedB orderedX (Ordering.isLE_iff_ne_gt.mpr notAbove)
  | true =>
    simp only [direction, if_true, ← Value.compare_eq_swap orderedA orderedB] at notAbove ⊢
    obtain ⟨above, below⟩ := Value.passes orderedB orderedA orderedX (Ordering.isLE_iff_ne_gt.mpr notAbove)
    simpa only [Ordering.swap_eq_gt, Ordering.swap_eq_lt] using And.intro below above

/-! ### Statements -/

/-- The statement with one more condition, which compares an attribute with a value. -/
def Statement.ranged (s : Statement) (path : List Term) (c : Comparison) (x : Value) : Statement :=
  { s with conditions := s.conditions ++ [⟨path, .compare c, .literal x⟩] }

/-- The documents whose attribute compares with a value as asked. -/
def Comparison.range (c : Comparison) (path : List String) (x : Value) (documents : List Value) : List Value :=
  documents.filter fun document => c.holds (document.lookup path) x

section Unsorted

variable {s : Statement} {documents : List Value} {bindings : Bindings} {whole : Evaluation}

theorem tests_of_evaluate (unsorted : s.sort = []) (unlimited : s.limit = none)
    (evaluated : s.evaluate documents bindings = .ok whole) :
    ∃ tests : List Test, s.conditions.mapM (·.resolve bindings) = .ok tests ∧
      whole = ⟨documents.filter fun document => tests.all (·.holds document),
        (documents.filter fun document => tests.all (·.holds document)).length⟩ := by
  unfold Statement.evaluate at evaluated
  cases resolved : s.conditions.mapM (·.resolve bindings) with
  | error e =>
    rw [resolved] at evaluated
    cases evaluated
  | ok tests =>
    simp only [resolved, unsorted, unlimited, List.mapM_nil, bind, Except.bind, pure, Except.pure, Key.sort_nil,
      Statement.slice] at evaluated
    exact ⟨tests, rfl, (Except.ok.inj evaluated).symm⟩

/-- Sorting by one more key gives the documents of the unsorted statement in the order of the key. -/
theorem evaluate_sorted {k : SortKey} {path : List String} (unsorted : s.sort = []) (unlimited : s.limit = none)
    (evaluated : s.evaluate documents bindings = .ok whole) (resolves : Term.resolvePath k.path bindings = .ok path) :
    { s with sort := [k] }.evaluate documents bindings =
      .ok ⟨Key.sort [⟨path, k.descending⟩] whole.items, whole.fullCount⟩ := by
  obtain ⟨tests, resolved, rfl⟩ := tests_of_evaluate unsorted unlimited evaluated
  simp only [Statement.evaluate, resolved, unlimited, List.mapM_cons, List.mapM_nil, SortKey.resolve, resolves, bind,
    Except.bind, pure, Except.pure, Statement.slice]

theorem evaluate_ranged {terms : List Term} {path : List String} (unsorted : s.sort = []) (unlimited : s.limit = none)
    (evaluated : s.evaluate documents bindings = .ok whole) (resolves : Term.resolvePath terms bindings = .ok path)
    (c : Comparison) (x : Value) :
    (s.ranged terms c x).evaluate documents bindings =
      .ok ⟨c.range path x whole.items, (c.range path x whole.items).length⟩ := by
  obtain ⟨tests, resolved, rfl⟩ := tests_of_evaluate unsorted unlimited evaluated
  have last : (Condition.mk terms (.compare c) (.literal x)).resolve bindings = .ok ⟨path, .compare c, x⟩ := by
    simp only [Condition.resolve, resolves, Term.resolve, bind, Except.bind, pure, Except.pure]
  have kept : (documents.filter fun document => (tests ++ [Test.mk path (.compare c) x]).all (·.holds document)) =
      c.range path x (documents.filter fun document => tests.all (·.holds document)) := by
    rw [Comparison.range, List.filter_filter]
    refine List.filter_congr fun document _ => ?_
    rw [List.all_append, Bool.and_comm, List.all_cons, List.all_nil, Bool.and_true]
    rfl
  simp only [Statement.evaluate, Statement.ranged, unsorted, unlimited, List.mapM_append, resolved, List.mapM_cons,
    List.mapM_nil, last, bind, Except.bind, pure, Except.pure, Statement.slice, Key.sort_nil, kept]

end Unsorted

/-- Documents whose attribute equals a value stand in a sorted list as they stood before. -/
theorem range_eq_sort (k : Key) {documents : List Value} (ordered : ∀ document ∈ documents, document.Ordered)
    {x : Value} (orderedX : x.Ordered) :
    Comparison.eq.range k.path x (Key.sort [k] documents) = Comparison.eq.range k.path x documents := by
  have stably := k.stablySorted ordered
  by_cases found : ∃ v ∈ documents, (v.lookup k.path).compare x = .eq
  · obtain ⟨v, listed, same⟩ := found
    -- the documents equal to the value are the ties of the one found
    have ties : ∀ document ∈ documents,
        Comparison.eq.holds (document.lookup k.path) x = (Key.compareAll [k] v document == .eq) := by
      intro document here
      have tied := Value.same_side (Value.ordered_lookup (ordered v listed) k.path)
        (Value.ordered_lookup (ordered document here) k.path) orderedX same
      rw [Bool.eq_iff_iff, Comparison.holds, Comparison.accepts, beq_iff_eq, beq_iff_eq, ← tied]
      simp only [Key.compareAll, Ordering.then_eq, Key.compare]
      split <;> simp
    unfold Comparison.range
    rw [List.filter_congr ties, ← stably.stable v listed]
    exact List.filter_congr fun document here => ties document (stably.perm.mem_iff.mp here)
  · have none (list : List Value) (within : ∀ v ∈ list, v ∈ documents) : Comparison.eq.range k.path x list = [] := by
      refine List.filter_eq_nil_iff.mpr fun v here holds => found ⟨v, within v here, ?_⟩
      simpa [Comparison.holds, Comparison.accepts] using holds
    rw [none documents fun _ listed => listed, none _ fun v here => stably.perm.mem_iff.mp here]

/-- The documents in the order of a key are those below a value, those equal to it as they stood, and those above it,
or the other way round. -/
theorem sort_eq_append (k : Key) {documents : List Value} (ordered : ∀ document ∈ documents, document.Ordered)
    {x : Value} (orderedX : x.Ordered) :
    ∃ lower upper : List Value,
      lower.Perm (Comparison.lt.range k.path x documents) ∧ upper.Perm (Comparison.gt.range k.path x documents) ∧
      Key.sort [k] documents =
        if k.descending then upper ++ Comparison.eq.range k.path x documents ++ lower
        else lower ++ Comparison.eq.range k.path x documents ++ upper := by
  have stably := k.stablySorted ordered
  have parts := (k.ascendsPast_sort ordered orderedX).eq_append
  have group (c : Comparison) : (c.range k.path x (Key.sort [k] documents)).Perm (c.range k.path x documents) :=
    stably.perm.filter _
  refine ⟨_, _, group .lt, group .gt, ?_⟩
  rw [← range_eq_sort k ordered orderedX]
  cases direction : k.descending with
  | false =>
    simp only [Key.side, direction, Bool.false_eq_true, if_false] at parts ⊢
    exact parts
  | true =>
    have turned (o p : Ordering) : (o.swap == p) = (o == p.swap) := by cases o <;> cases p <;> rfl
    simp only [Key.side, direction, if_true, turned] at parts ⊢
    exact parts

/-- The order of values is a total preorder, and sorting agrees with ranges: around any value the sorted documents are
those below it, those equal to it and those above it, in the direction of the key, each document once, and ties as
they are stored. Objects list their attributes by name, as they are stored. -/
theorem sort_around :
    (∀ a b c : Value, a.Ordered → b.Ordered → c.Ordered →
      a.compare a = .eq ∧ b.compare a = (a.compare b).swap ∧ Chains (a.compare b) (b.compare c) (a.compare c)) ∧
    ∀ (s : Statement) (k : SortKey) (path : List String) (documents : List Value) (bindings : Bindings)
      (whole : Evaluation) (x : Value), s.sort = [] → s.limit = none → s.evaluate documents bindings = .ok whole →
      Term.resolvePath k.path bindings = .ok path → (∀ document ∈ documents, document.Ordered) → x.Ordered →
      ∃ sorted below same above : Evaluation, ∃ lower upper : List Value,
        { s with sort := [k] }.evaluate documents bindings = .ok sorted ∧
        (s.ranged k.path .lt x).evaluate documents bindings = .ok below ∧
        (s.ranged k.path .eq x).evaluate documents bindings = .ok same ∧
        (s.ranged k.path .gt x).evaluate documents bindings = .ok above ∧
        lower.Perm below.items ∧ upper.Perm above.items ∧
        sorted.items =
          (if k.descending then upper ++ same.items ++ lower else lower ++ same.items ++ upper) ∧
        sorted.items.Perm whole.items ∧ sorted.fullCount = whole.fullCount ∧
        whole.items.Sublist documents ∧ same.items.Sublist documents := by
  refine ⟨fun a b c orderedA orderedB orderedC =>
    ⟨Value.compare_self orderedA, Value.compare_eq_swap orderedA orderedB,
      Value.chains orderedA orderedB orderedC⟩, ?_⟩
  intro s k path documents bindings whole x unsorted unlimited evaluated resolves ordered orderedX
  have kept : whole.items.Sublist documents := by
    obtain ⟨tests, -, rfl⟩ := tests_of_evaluate unsorted unlimited evaluated
    exact List.filter_sublist
  have orderedKept : ∀ document ∈ whole.items, document.Ordered := fun document listed =>
    ordered document (kept.subset listed)
  obtain ⟨lower, upper, below, above, sorted⟩ := sort_eq_append ⟨path, k.descending⟩ orderedKept orderedX
  have asked := evaluate_ranged unsorted unlimited evaluated resolves
  exact ⟨_, _, _, _, lower, upper, evaluate_sorted unsorted unlimited evaluated resolves, asked .lt x, asked .eq x,
    asked .gt x, below, above, sorted, List.mergeSort_perm _ _, rfl, kept, List.filter_sublist.trans kept⟩

/-- People of all kinds of ages, the oldest first: around the age of one are two people, and no order is lost between
values of different kinds. -/
theorem mixed_ages_around :
    let one : Value := .number (.float (Binary64.ofInt 1))
    let person (name : String) (age : Value) : Value := .object [("age", age), ("name", .string name)]
    let documents := [person "Ada" (.array []), person "Bo" (.ofNat 2), person "Cy" .null, person "Dee" one,
      person "Eve" (.string "1"), person "Flo" (.ofNat 1), person "Gus" (.array [.null])]
    let bindings : Bindings := Table.ofList [("sort_0_0", .string "age")]
    let s : Statement := { source := .literal (.string "people") }
    (Value.array [.null]).compare (.array []) = ((Value.array []).compare (.array [.null])).swap ∧
      ∃ (sorted : Evaluation) (older : List Value),
        { s with sort := [⟨[.parameter "sort_0_0"], true⟩] }.evaluate documents bindings = .ok sorted ∧
        older.Perm [person "Ada" (.array []), person "Bo" (.ofNat 2), person "Eve" (.string "1"),
          person "Gus" (.array [.null])] ∧
        sorted.items = older ++ [person "Dee" one, person "Flo" (.ofNat 1)] ++ [person "Cy" .null] := by
  intro one person documents bindings s
  have plain (name : String) {age : Value} (ordered : age.Ordered) : (person name age).Ordered := by
    have names : "age" < "name" := by decide
    refine Value.ordered_object.mpr ⟨List.pairwise_pair.mpr names, ?_⟩
    simp [ordered, Value.Ordered]
  have ordered : ∀ document ∈ documents, document.Ordered := by
    simp only [documents, List.forall_mem_cons]
    refine ⟨plain _ ?_, plain _ ?_, plain _ ?_, plain _ ?_, plain _ ?_, plain _ ?_, plain _ ?_, by simp⟩ <;>
      simp [one, Value.ofNat, Value.Ordered, Value.OrderedItems]
  have whole : s.evaluate documents bindings = .ok ⟨documents, 7⟩ := by
    change Except.ok (Evaluation.mk (Key.sort [] documents) 7) = _
    rw [Key.sort_nil]
  have resolves : Term.resolvePath [.parameter "sort_0_0"] bindings = .ok ["age"] := rfl
  have ranged := evaluate_ranged rfl rfl whole resolves
  obtain ⟨sorted, below, same, above, lower, upper, evaluated, asked, equal, past, first, last, items, -⟩ :=
    sort_around.2 s ⟨[.parameter "sort_0_0"], true⟩ ["age"] documents bindings _ (.ofNat 1) rfl rfl whole resolves
      ordered (by simp [Value.ofNat, Value.Ordered])
  obtain rfl := Except.ok.inj ((ranged .lt (.ofNat 1)).symm.trans asked)
  obtain rfl := Except.ok.inj ((ranged .eq (.ofNat 1)).symm.trans equal)
  obtain rfl := Except.ok.inj ((ranged .gt (.ofNat 1)).symm.trans past)
  obtain rfl : lower = [person "Cy" .null] := List.perm_singleton.mp first
  refine ⟨(sort_around.1 _ _ (.array []) ?_ ?_ ?_).2.1, sorted, upper, evaluated, last, items⟩ <;>
    simp [Value.Ordered, Value.OrderedItems]

end Query
end RecordStore
