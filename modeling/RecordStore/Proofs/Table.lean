import Mathlib.Order.Basic
import RecordStore.Table

/-!
# Entries of tables

A table made of a list shows the last entry of a key (`get?_ofList_append`). Writing keeps the entries of a table in
ascending order (`ascending_set`), so that a table has every key once and tables with the same value under every key are
the same (`Ascending.ext`).
-/

namespace RecordStore
namespace Table

variable {α : Type}

def Ascending (t : Table α) : Prop := t.Pairwise fun a b => a.1 < b.1

theorem mem_keys_set (t : Table α) (key other : String) (value : α) :
    other ∈ (t.set key value).keys ↔ other = key ∨ other ∈ t.keys := by
  induction t with
  | nil => simp [set, keys]
  | cons entry rest ih =>
    obtain ⟨k, v⟩ := entry
    unfold set
    split
    · rename_i same
      simp [keys, same]
    · split
      · simp [keys]
      · simp only [keys, List.map_cons, List.mem_cons] at ih ⊢
        rw [ih]
        exact or_left_comm

theorem mem_of_mem_set {t : Table α} {key : String} {value : α} {entry : String × α}
    (listed : entry ∈ t.set key value) : entry = (key, value) ∨ entry ∈ t := by
  induction t with
  | nil => exact .inl (List.mem_singleton.mp listed)
  | cons first rest ih =>
    obtain ⟨k, v⟩ := first
    unfold set at listed
    split at listed
    · exact (List.mem_cons.mp listed).imp_right (List.mem_cons_of_mem _)
    · split at listed
      · exact List.mem_cons.mp listed
      · rcases List.mem_cons.mp listed with same | later
        · exact .inr (same ▸ List.mem_cons_self)
        · exact (ih later).imp_right (List.mem_cons_of_mem _)

theorem has_set (t : Table α) (key other : String) (value : α) :
    (t.set key value).has other = (key == other || t.has other) := by
  unfold has
  rw [get?_set]
  by_cases same : key = other <;> simp [same]

theorem has_erase (t : Table α) (key other : String) : (t.erase key).has other = (key != other && t.has other) := by
  unfold has
  by_cases same : key = other
  · simp [same]
  · simp [get?_erase_of_ne t same, same]

theorem has_modify (t : Table α) (key other : String) (f : α → α) : (t.modify key f).has other = t.has other := by
  unfold has
  rw [get?_modify]
  split
  · exact Option.isSome_map
  · rfl

@[simp] theorem erase_set_self (t : Table α) (key : String) (value : α) :
    (t.set key value).erase key = t.erase key := by
  unfold erase
  induction t with
  | nil => simp [set]
  | cons entry rest ih =>
    obtain ⟨k, v⟩ := entry
    unfold set
    split
    · rename_i same
      simp [same]
    · split
      · simp
      · simp only [List.filter_cons, ih]

@[simp] theorem erase_erase_self (t : Table α) (key : String) : (t.erase key).erase key = t.erase key := by
  simp [erase, List.filter_filter]

theorem erase_eq_self {t : Table α} {key : String} (absent : t.has key = false) : t.erase key = t := by
  refine List.filter_eq_self.mpr fun entry stored => ?_
  induction t with
  | nil => cases stored
  | cons first rest ih =>
    rw [has_eq_false, get?_cons] at absent
    split at absent
    · cases absent
    · rename_i different
      rcases List.mem_cons.mp stored with rfl | later
      · simpa using different
      · exact ih (has_eq_false.mpr absent) later

theorem mem_keys_ofList (entries : List (String × α)) (key : String) :
    key ∈ (ofList entries).keys ↔ key ∈ entries.map Prod.fst := by
  suffices general : ∀ t : Table α,
      key ∈ (entries.foldl (fun t entry => t.set entry.1 entry.2) t).keys ↔ key ∈ t.keys ∨ key ∈ entries.map Prod.fst from
    (general []).trans (or_iff_right List.not_mem_nil)
  induction entries with
  | nil => exact fun t => (or_iff_left List.not_mem_nil).symm
  | cons entry rest ih =>
    intro t
    rw [List.foldl_cons, ih, mem_keys_set, List.map_cons, List.mem_cons, or_comm (a := key = entry.1), or_assoc]

@[simp] theorem get?_ofList_nil (key : String) : (ofList ([] : List (String × α))).get? key = none := rfl

theorem get?_foldl_set (entries : List (String × α)) (t : Table α) (key : String) :
    (entries.foldl (fun t entry => t.set entry.1 entry.2) t).get? key =
      ((ofList entries).get? key).or (t.get? key) := by
  induction entries generalizing t with
  | nil => rfl
  | cons entry rest ih =>
    rw [ofList, List.foldl_cons, List.foldl_cons, ih, ih (set [] entry.1 entry.2), get?_set, get?_set, Option.or_assoc]
    split <;> rfl

/-- Of two lists of entries the second one goes over the first. -/
theorem get?_ofList_append (entries others : List (String × α)) (key : String) :
    (ofList (entries ++ others)).get? key = ((ofList others).get? key).or ((ofList entries).get? key) := by
  rw [ofList, List.foldl_append, get?_foldl_set]
  rfl

theorem get?_ofList_cons (field : String) (value : α) (rest : List (String × α)) (key : String) :
    (ofList ((field, value) :: rest)).get? key =
      ((ofList rest).get? key).or (if field = key then some value else none) :=
  get?_ofList_append [(field, value)] rest key

theorem ascending_set {t : Table α} (ascending : t.Ascending) (key : String) (value : α) :
    (t.set key value).Ascending := by
  induction t with
  | nil => exact List.pairwise_singleton _ _
  | cons entry rest ih =>
    obtain ⟨k, v⟩ := entry
    obtain ⟨above, later⟩ := List.pairwise_cons.mp ascending
    unfold set
    split
    · rename_i same
      subst same
      exact List.pairwise_cons.mpr ⟨above, later⟩
    · rename_i different
      split
      · rename_i before
        refine List.pairwise_cons.mpr ⟨fun other listed => ?_, ascending⟩
        rcases List.mem_cons.mp listed with rfl | here
        · exact before
        · exact String.lt_trans before (above other here)
      · rename_i notBefore
        refine List.pairwise_cons.mpr ⟨fun other listed => ?_, ih later⟩
        rcases (mem_keys_set rest key other.1 value).mp (List.mem_map_of_mem listed) with same | old
        · rw [same]
          exact Std.lt_of_le_of_ne (String.not_lt.mp notBefore) different
        · obtain ⟨entry, here, same⟩ := List.mem_map.mp old
          exact same ▸ above entry here

theorem ascending_ofList (entries : List (String × α)) : (ofList entries).Ascending := by
  suffices general : ∀ t : Table α, t.Ascending →
      (entries.foldl (fun t entry => t.set entry.1 entry.2) t).Ascending from general [] .nil
  induction entries with
  | nil => exact fun t ascending => ascending
  | cons entry rest ih => exact fun t ascending => ih _ (ascending_set ascending entry.1 entry.2)

theorem Ascending.nodup_keys {t : Table α} (ascending : t.Ascending) : t.keys.Nodup := by
  refine List.pairwise_map.mpr (List.Pairwise.imp ?_ ascending)
  intro a b below same
  exact String.lt_irrefl _ (same ▸ below)

theorem ascending_erase {t : Table α} (ascending : t.Ascending) (key : String) : (t.erase key).Ascending :=
  List.Pairwise.filter _ ascending

theorem Ascending.get?_rest {key : String} {value : α} {rest : Table α}
    (ascending : Ascending ((key, value) :: rest)) : rest.get? key = none := by
  cases found : rest.get? key with
  | none => rfl
  | some other => exact absurd ((List.pairwise_cons.mp ascending).1 _ (mem_of_get? found)) (String.lt_irrefl key)

/-- Ascending tables that show the same under every key are the same. -/
theorem Ascending.ext {t u : Table α} (first : t.Ascending) (second : u.Ascending)
    (same : ∀ key, t.get? key = u.get? key) : t = u := by
  induction t generalizing u with
  | nil =>
    cases u with
    | nil => rfl
    | cons entry rest =>
      obtain ⟨k, v⟩ := entry
      simpa [get?_cons] using same k
  | cons entry rest ih =>
    obtain ⟨k, v⟩ := entry
    cases u with
    | nil => simpa [get?_cons] using same k
    | cons other more =>
      obtain ⟨l, w⟩ := other
      obtain ⟨above, later⟩ := List.pairwise_cons.mp first
      obtain ⟨above', later'⟩ := List.pairwise_cons.mp second
      have here := same k
      have there := same l
      rw [get?_cons, get?_cons, if_pos rfl] at here there
      -- each head is found on the other side, so that neither can stand above the other one
      by_cases head : l = k
      · subst head
        rw [if_pos rfl] at here
        obtain rfl := Option.some.inj here
        refine congrArg ((l, v) :: ·) (ih later later' fun key => ?_)
        by_cases at_head : l = key
        · rw [← at_head, first.get?_rest, second.get?_rest]
        · simpa [get?_cons, at_head] using same key
      · rw [if_neg head] at here
        rw [if_neg (Ne.symm head)] at there
        have below : l < k := above' _ (mem_of_get? here.symm)
        have below' : k < l := above _ (mem_of_get? there)
        exact absurd (String.lt_trans below below') (String.lt_irrefl l)

end Table
end RecordStore
