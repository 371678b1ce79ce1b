import RecordStore.Proofs.Value.Order
import RecordStore.Query.Evaluation
import Mathlib.Data.List.Perm.Basic

/-!
# Stable sorting

`StablySorted` says what a stable sort is, without an algorithm: the same items, in ascending order, and ties as they
stood. For an order that is a total preorder there is exactly one such list, and `Key.sort` gives it for documents.
-/

namespace RecordStore

/-- A list sorted stably: its items in ascending order, those that compare as equal in the order they had. -/
structure StablySorted {α : Type} (cmp : α → α → Ordering) (items sorted : List α) : Prop where
  perm : sorted.Perm items
  ascending : sorted.Pairwise fun a b => cmp a b ≠ .gt
  stable : ∀ v ∈ items, sorted.filter (cmp v · == .eq) = items.filter (cmp v · == .eq)

namespace StablySorted

variable {α : Type} {cmp : α → α → Ordering}

theorem not_gt_self [Std.TransCmp cmp] (a : α) : cmp a a ≠ .gt := by
  have self : cmp a a = .eq := Std.ReflCmp.compare_self
  simp [self]

/-- Lists in ascending order with the same items, and in each class of ties the same sequence, are the same. -/
theorem eq_of_ascending [Std.TransCmp cmp] {xs ys : List α} (perm : xs.Perm ys)
    (upX : xs.Pairwise fun a b => cmp a b ≠ .gt) (upY : ys.Pairwise fun a b => cmp a b ≠ .gt)
    (ties : ∀ v ∈ xs, xs.filter (cmp v · == .eq) = ys.filter (cmp v · == .eq)) : xs = ys := by
  induction xs generalizing ys with
  | nil => exact perm.symm.eq_nil.symm
  | cons x xs ih =>
    cases ys with
    | nil => exact perm.eq_nil
    | cons y ys =>
      obtain ⟨belowX, upX⟩ := List.pairwise_cons.mp upX
      obtain ⟨belowY, upYs⟩ := List.pairwise_cons.mp upY
      have xy : cmp x y ≠ .gt := by
        rcases List.mem_cons.mp (perm.mem_iff.mpr List.mem_cons_self) with same | later
        · exact same ▸ not_gt_self y
        · exact belowX y later
      have yx : cmp y x ≠ .gt := by
        rcases List.mem_cons.mp (perm.mem_iff.mp List.mem_cons_self) with same | later
        · exact same ▸ not_gt_self x
        · exact belowY x later
      have tie : cmp x y = .eq := by
        have swapped : cmp y x = (cmp x y).swap := Std.OrientedCmp.eq_swap
        cases between : cmp x y with
        | eq => rfl
        | lt => simp [swapped, between] at yx
        | gt => exact absurd between xy
      have heads := ties x List.mem_cons_self
      rw [List.filter_cons_of_pos (by simp [Std.ReflCmp.compare_self]),
        List.filter_cons_of_pos (by simp [tie])] at heads
      obtain rfl : x = y := (List.cons.inj heads).1
      refine congrArg (x :: ·) (ih perm.cons_inv upX upYs fun v listed => ?_)
      have whole := ties v (List.mem_cons_of_mem x listed)
      rw [List.filter_cons, List.filter_cons] at whole
      split at whole
      · exact (List.cons.inj whole).2
      · exact whole

theorem unique [Std.TransCmp cmp] {items xs ys : List α} (first : StablySorted cmp items xs)
    (second : StablySorted cmp items ys) : xs = ys :=
  eq_of_ascending (first.perm.trans second.perm.symm) first.ascending second.ascending fun v listed => by
    have known := first.perm.mem_iff.mp listed
    rw [first.stable v known, second.stable v known]

theorem mergeSort [Std.TransCmp cmp] (items : List α) :
    StablySorted cmp items (items.mergeSort fun a b => cmp a b != .gt) := by
  have trans : ∀ a b c, (cmp a b != .gt) = true → (cmp b c != .gt) = true → (cmp a c != .gt) = true := by
    intro a b c ab bc
    rw [bne_iff_ne] at ab bc ⊢
    exact Ordering.isLE_iff_ne_gt.mp
      (Std.TransCmp.isLE_trans (Ordering.isLE_iff_ne_gt.mpr ab) (Ordering.isLE_iff_ne_gt.mpr bc))
  have total : ∀ a b, (cmp a b != .gt || cmp b a != .gt) = true := by
    intro a b
    rw [(Std.OrientedCmp.eq_swap : cmp b a = _)]
    cases cmp a b <;> rfl
  have perm := List.mergeSort_perm items fun a b => cmp a b != .gt
  refine ⟨perm, (List.pairwise_mergeSort trans total items).imp bne_iff_ne.mp, fun v listed => ?_⟩
  -- the ties of `v` are in ascending order already, so sorting keeps them as a sublist
  have tied : (items.filter (cmp v · == .eq)).Pairwise fun a b => (cmp a b != .gt) = true := by
    refine List.pairwise_of_forall_mem_list fun a inA b inB => ?_
    have va : cmp v a = .eq := by simpa using (List.mem_filter.mp inA).2
    have vb : cmp v b = .eq := by simpa using (List.mem_filter.mp inB).2
    rw [← Std.TransCmp.congr_left va, vb]
    rfl
  have kept := (List.sublist_mergeSort trans total tied List.filter_sublist).filter (cmp v · == .eq)
  rw [List.filter_filter] at kept
  simp only [Bool.and_self] at kept
  exact (kept.eq_of_length (perm.filter _).length_eq.symm).symm

theorem iff_mergeSort [Std.TransCmp cmp] {items sorted : List α} :
    StablySorted cmp items sorted ↔ sorted = items.mergeSort fun a b => cmp a b != .gt := by
  constructor
  · exact fun stably => stably.unique (mergeSort items)
  · rintro rfl
    exact mergeSort items

theorem map_iff {β : Type} {f : β → α} (injective : Function.Injective f) {items sorted : List β} :
    StablySorted cmp (items.map f) (sorted.map f) ↔ StablySorted (fun a b => cmp (f a) (f b)) items sorted := by
  have ties (v : β) (list : List β) :
      (list.map f).filter (cmp (f v) · == .eq) = (list.filter fun w => cmp (f v) (f w) == .eq).map f :=
    List.filter_map
  constructor
  · rintro ⟨perm, ascending, stable⟩
    refine ⟨(List.map_perm_map_iff injective).mp perm, List.pairwise_map.mp ascending, fun v listed => ?_⟩
    have mapped := stable (f v) (List.mem_map_of_mem listed)
    rw [ties, ties] at mapped
    exact List.map_injective_iff.mpr injective mapped
  · rintro ⟨perm, ascending, stable⟩
    refine ⟨perm.map f, List.pairwise_map.mpr ascending, fun w listed => ?_⟩
    obtain ⟨v, here, rfl⟩ := List.mem_map.mp listed
    rw [ties, ties, stable v here]

end StablySorted

/-! ### Sort keys -/

namespace Query
namespace Key

/-- A document as it is stored, with the attributes of its objects in order. -/
abbrev Stored := { document : Value // document.Ordered }

theorem transCmp (k : Key) : Std.TransCmp fun a b : Stored => k.compare a b where
  eq_swap {a b} := by
    have swapped := Value.compare_eq_swap (Value.ordered_lookup b.2 k.path) (Value.ordered_lookup a.2 k.path)
    simp only [compare]
    split
    · rw [swapped]
    · exact swapped
  isLE_trans {a b c} left right := by
    have ordered (document : Stored) := Value.ordered_lookup document.2 k.path
    cases direction : k.descending with
    | false =>
      simp only [compare, direction, Bool.false_eq_true, if_false] at left right ⊢
      exact (Value.chains (ordered a) (ordered b) (ordered c)).isLE left right
    | true =>
      simp only [compare, direction, if_true, ← Value.compare_eq_swap (ordered _) (ordered _)] at left right ⊢
      exact (Value.chains (ordered c) (ordered b) (ordered a)).isLE right left

theorem transCmp_all (keys : List Key) : Std.TransCmp fun a b : Stored => compareAll keys a b := by
  induction keys with
  | nil => exact { eq_swap := rfl, isLE_trans := fun _ _ => rfl }
  | cons k rest ih =>
    have := k.transCmp
    exact inferInstanceAs (Std.TransCmp (compareLex (fun a b : Stored => k.compare a b) fun a b => compareAll rest a b))

theorem sort_nil (documents : List Value) : sort [] documents = documents :=
  List.mergeSort_of_pairwise (List.pairwise_of_forall fun _ _ => rfl)

/-- The documents in the order of some keys are the one list of them that is sorted stably. -/
theorem stablySorted_iff {keys : List Key} {documents sorted : List Value}
    (ordered : ∀ document ∈ documents, document.Ordered) :
    StablySorted (compareAll keys) documents sorted ↔ sorted = sort keys documents := by
  have := transCmp_all keys
  obtain ⟨items, rfl⟩ : ∃ items : List Stored, documents = items.map Subtype.val :=
    ⟨documents.attachWith _ ordered, by simp⟩
  have sorts : sort keys (items.map Subtype.val) =
      (items.mergeSort fun a b => compareAll keys a b != .gt).map Subtype.val :=
    (List.map_mergeSort (f := Subtype.val) (l := items) fun _ _ _ _ => rfl).symm
  rw [sorts]
  constructor
  · intro stably
    obtain ⟨others, rfl⟩ : ∃ others : List Stored, sorted = others.map Subtype.val :=
      ⟨sorted.attachWith _ fun v listed => ordered v (stably.perm.mem_iff.mp listed), by simp⟩
    rw [StablySorted.iff_mergeSort.mp ((StablySorted.map_iff Subtype.val_injective).mp stably)]
  · rintro rfl
    exact (StablySorted.map_iff Subtype.val_injective).mpr (.mergeSort items)

end Key
end Query
end RecordStore
