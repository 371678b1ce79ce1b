/-!
# Tables

A table is a map from strings to values, kept as a list of entries in ascending order of the keys.
Reading takes the first entry of a key; writing replaces it in place or puts the entry where its key
belongs. So the order in which attributes were written never shows.
-/

namespace RecordStore

/-- Entries in ascending order of their keys, at most one for each key. -/
abbrev Table (α : Type) := List (String × α)

namespace Table

variable {α β : Type}

def get? : Table α → String → Option α
  | [], _ => none
  | (k, v) :: rest, key => if k = key then some v else get? rest key

/-- Stores a value under a key, replacing the value that was there. -/
def set : Table α → String → α → Table α
  | [], key, value => [(key, value)]
  | (k, v) :: rest, key, value =>
    if k = key then (key, value) :: rest
    else if key < k then (key, value) :: (k, v) :: rest
    else (k, v) :: set rest key value

def erase (t : Table α) (key : String) : Table α :=
  t.filter fun entry => entry.1 ≠ key

def has (t : Table α) (key : String) : Bool :=
  (t.get? key).isSome

def keys (t : Table α) : List String :=
  t.map Prod.fst

def values (t : Table α) : List α :=
  t.map Prod.snd

/-- Stores every entry of a list in turn, so that a repeated key keeps its last value. -/
def ofList (entries : List (String × α)) : Table α :=
  entries.foldl (fun t entry => t.set entry.1 entry.2) []

/-- Stores every entry of the second table over the first. -/
def merge (t : Table α) (other : Table α) : Table α :=
  other.foldl (fun t entry => t.set entry.1 entry.2) t

def modify (t : Table α) (key : String) (f : α → α) : Table α :=
  t.map fun entry => if entry.1 = key then (entry.1, f entry.2) else entry

@[simp] theorem get?_nil (key : String) : get? ([] : Table α) key = none := rfl

theorem get?_cons (k : String) (v : α) (rest : Table α) (key : String) :
    get? ((k, v) :: rest) key = if k = key then some v else get? rest key := rfl

@[simp] theorem get?_set_self (t : Table α) (key : String) (value : α) :
    (t.set key value).get? key = some value := by
  induction t with
  | nil => simp [set, get?]
  | cons entry rest ih =>
    obtain ⟨k, v⟩ := entry
    unfold set
    split
    · simp [get?]
    · split
      · simp [get?]
      · rename_i different _
        simp [get?, different, ih]

theorem get?_set_of_ne (t : Table α) {key other : String} (value : α) (different : key ≠ other) :
    (t.set key value).get? other = t.get? other := by
  induction t with
  | nil => simp [set, get?, different]
  | cons entry rest ih =>
    obtain ⟨k, v⟩ := entry
    unfold set
    split
    · rename_i same
      subst same
      simp [get?, different]
    · split
      · simp [get?, different]
      · simp [get?, ih]

@[simp] theorem get?_erase_self (t : Table α) (key : String) : (t.erase key).get? key = none := by
  induction t with
  | nil => rfl
  | cons entry rest ih =>
    obtain ⟨k, v⟩ := entry
    by_cases same : k = key
    · simpa [erase, same] using ih
    · simpa [erase, same, get?] using ih

theorem get?_erase_of_ne (t : Table α) {key other : String} (different : key ≠ other) :
    (t.erase key).get? other = t.get? other := by
  induction t with
  | nil => rfl
  | cons entry rest ih =>
    obtain ⟨k, v⟩ := entry
    by_cases same : k = key
    · subst same
      simpa [erase, get?, different] using ih
    · by_cases hit : k = other
      · simp [erase, get?, hit, Ne.symm different]
      · simpa [erase, same, get?, hit] using ih

theorem get?_set (t : Table α) (key other : String) (value : α) :
    (t.set key value).get? other = if key = other then some value else t.get? other := by
  split
  · rename_i same
    subst same
    exact get?_set_self t key value
  · rename_i different
    exact get?_set_of_ne t value different

theorem get?_modify (t : Table α) (key other : String) (f : α → α) :
    (t.modify key f).get? other = if key = other then (t.get? other).map f else t.get? other := by
  induction t with
  | nil => simp [modify]
  | cons entry rest ih =>
    obtain ⟨k, v⟩ := entry
    have step : modify ((k, v) :: rest) key f =
        (k, if k = key then f v else v) :: modify rest key f := by
      simp only [modify, List.map_cons]
      split <;> rfl
    rw [step, get?_cons, get?_cons]
    by_cases hit : k = other
    · subst hit
      by_cases same : k = key
      · simp [same]
      · simp [same, Ne.symm same]
    · simpa [hit] using ih

theorem has_eq_false {t : Table α} {key : String} : t.has key = false ↔ t.get? key = none := by
  simp [has]

theorem mem_of_get? {t : Table α} {key : String} {value : α} (found : t.get? key = some value) :
    (key, value) ∈ t := by
  induction t with
  | nil => simp at found
  | cons entry rest ih =>
    obtain ⟨k, v⟩ := entry
    rw [get?_cons] at found
    split at found
    · rename_i same
      obtain rfl := Option.some.inj found
      simp [same]
    · exact List.mem_cons_of_mem _ (ih found)

theorem mem_values_of_get? {t : Table α} {key : String} {value : α} (found : t.get? key = some value) :
    value ∈ t.values :=
  List.mem_map_of_mem (f := Prod.snd) (mem_of_get? found)

theorem mem_values_set {t : Table α} {key : String} (fresh : t.get? key = none) (value other : α) :
    other ∈ (t.set key value).values ↔ other = value ∨ other ∈ t.values := by
  induction t with
  | nil => simp [set, values]
  | cons entry rest ih =>
    obtain ⟨k, v⟩ := entry
    rw [get?_cons] at fresh
    split at fresh
    · cases fresh
    · rename_i different
      unfold set
      rw [if_neg different]
      split
      · simp [values]
      · have later := ih fresh
        simp only [values, List.map_cons, List.mem_cons] at later ⊢
        rw [later]
        exact or_left_comm

/-- In a table made from a list, a key has the value that all entries of the key agree on. -/
theorem get?_ofList {entries : List (String × α)} {key : String} {value : α} (listed : (key, value) ∈ entries)
    (only : ∀ other, (key, other) ∈ entries → other = value) : (ofList entries).get? key = some value := by
  suffices general : ∀ t : Table α, t.get? key = some value ∨ (key, value) ∈ entries →
      (entries.foldl (fun t entry => t.set entry.1 entry.2) t).get? key = some value from
    general [] (.inr listed)
  clear listed
  induction entries with
  | nil => exact fun t found => found.resolve_right List.not_mem_nil
  | cons entry rest ih =>
    obtain ⟨k, v⟩ := entry
    intro t found
    refine ih (fun other later => only other (List.mem_cons_of_mem _ later)) (t.set k v) ?_
    by_cases same : k = key
    · subst same
      obtain rfl := only v List.mem_cons_self
      exact .inl (get?_set_self t k v)
    · rw [get?_set_of_ne t v same]
      refine found.imp id fun here => (List.mem_cons.mp here).resolve_left ?_
      rintro ⟨⟩
      exact same rfl

end Table

end RecordStore
