import RecordStore.Store.Documents

/-!
# What writes do to a collection

`insert_cases`, `replace_cases` and `delete_cases` say once what each of these operations can come to: the reason to
refuse leaves the collections as they were, and a success has passed every check of its `Checked` structure and
leads to one state. Later modules reason from these and never open the operations.
-/

namespace RecordStore

/-! ### Stamped documents -/

namespace Store

@[simp] theorem text?_key_stamp (name key : String) (rev : Nat) (document : Document) :
    (stamp name key rev document).text? Attribute.key = some key := by
  unfold stamp
  rw [Document.text?_setText_of_ne _ _ (by decide), Document.text?_setText_of_ne _ _ (by decide),
    Document.text?_setText_self]

@[simp] theorem text?_id_stamp (name key : String) (rev : Nat) (document : Document) :
    (stamp name key rev document).text? Attribute.id = some (idOf name key) := by
  unfold stamp
  rw [Document.text?_setText_of_ne _ _ (by decide), Document.text?_setText_self]

@[simp] theorem text?_rev_stamp (name key : String) (rev : Nat) (document : Document) :
    (stamp name key rev document).text? Attribute.rev = some (revision rev) := by
  unfold stamp
  rw [Document.text?_setText_self]

theorem get?_stamp_of_ne (name key : String) (rev : Nat) (document : Document) {field : String}
    (notKey : field ≠ Attribute.key) (notId : field ≠ Attribute.id) (notRev : field ≠ Attribute.rev) :
    (stamp name key rev document).get? field = document.get? field := by
  unfold stamp Document.setText
  rw [Table.get?_set_of_ne _ _ notRev.symm, Table.get?_set_of_ne _ _ notId.symm,
    Table.get?_set_of_ne _ _ notKey.symm]

@[simp] theorem ofDocument_stamp (name key : String) (rev : Nat) (document : Document) :
    Header.ofDocument (stamp name key rev document) = ⟨idOf name key, key, revision rev⟩ := by
  simp [Header.ofDocument]

end Store

/-! ### Entries of a collection -/

namespace Collection

theorem mem_of_find? {c : Collection} {key : String} {document : Document}
    (found : c.find? key = some document) : (key, document) ∈ c.documents := by
  unfold find? at found
  obtain ⟨before, after, split, -⟩ := List.lookup_eq_some_iff.mp found
  rw [split]
  simp

theorem find?_of_mem {c : Collection} (keyed : c.keys.Nodup) {entry : String × Document}
    (stored : entry ∈ c.documents) : c.find? entry.1 = some entry.2 := by
  obtain ⟨options, documents, indexes⟩ := c
  simp only [keys, find?] at *
  induction documents with
  | nil => exact absurd stored List.not_mem_nil
  | cons first rest ih =>
    rw [List.map_cons, List.nodup_cons] at keyed
    rcases List.mem_cons.mp stored with rfl | later
    · exact List.lookup_cons_self
    · have different : entry.1 ≠ first.1 := fun same => keyed.1 (same ▸ List.mem_map_of_mem later)
      rw [List.lookup_cons, beq_false_of_ne different]
      exact ih keyed.2 later

theorem hasKey_eq_false {c : Collection} {key : String} :
    c.hasKey key = false ↔ ∀ entry ∈ c.documents, entry.1 ≠ key := by
  simp [hasKey]

theorem hasKey_iff {c : Collection} {key : String} :
    c.hasKey key = true ↔ ∃ document, (key, document) ∈ c.documents := by
  simp [hasKey]

theorem map_fst_replaceFirst (key : String) (document : Document) (documents : List (String × Document)) :
    (replaceFirst key document documents).map Prod.fst = documents.map Prod.fst := by
  induction documents with
  | nil => rfl
  | cons entry rest ih =>
    obtain ⟨k, d⟩ := entry
    unfold replaceFirst
    split
    · rename_i same
      simp [same]
    · simp [ih]

@[simp] theorem keys_put (c : Collection) (key : String) (document : Document) :
    (c.put key document).keys = c.keys :=
  map_fst_replaceFirst key document c.documents

@[simp] theorem keys_push (c : Collection) (key : String) (document : Document) :
    (c.push key document).keys = c.keys ++ [key] := by
  simp [push, keys]

theorem mem_replaceFirst {key : String} {document : Document} {documents : List (String × Document)}
    (keyed : (documents.map Prod.fst).Nodup) {entry : String × Document}
    (stored : entry ∈ replaceFirst key document documents) :
    entry = (key, document) ∨ entry ∈ documents ∧ entry.1 ≠ key := by
  induction documents with
  | nil => simp [replaceFirst] at stored
  | cons first rest ih =>
    obtain ⟨k, d⟩ := first
    rw [List.map_cons, List.nodup_cons] at keyed
    unfold replaceFirst at stored
    split at stored
    · rename_i same
      subst same
      rcases List.mem_cons.mp stored with same | later
      · exact .inl same
      · refine .inr ⟨List.mem_cons_of_mem _ later, fun same => keyed.1 ?_⟩
        exact List.mem_map.mpr ⟨_, later, same⟩
    · rename_i different
      rcases List.mem_cons.mp stored with same | later
      · subst same
        exact .inr ⟨List.mem_cons_self, different⟩
      · rcases ih keyed.2 later with same | ⟨old, other⟩
        · exact .inl same
        · exact .inr ⟨List.mem_cons_of_mem _ old, other⟩

theorem mem_put {c : Collection} (keyed : c.keys.Nodup) {key : String} {document : Document}
    {entry : String × Document} (stored : entry ∈ (c.put key document).documents) :
    entry = (key, document) ∨ entry ∈ c.documents ∧ entry.1 ≠ key :=
  mem_replaceFirst keyed stored

theorem mem_of_mem_put {c : Collection} {key : String} {document : Document} {entry : String × Document}
    (stored : entry ∈ (c.put key document).documents) : entry = (key, document) ∨ entry ∈ c.documents := by
  obtain ⟨options, documents, indexes⟩ := c
  simp only [put] at *
  induction documents with
  | nil => simp [replaceFirst] at stored
  | cons first rest ih =>
    obtain ⟨k, d⟩ := first
    unfold replaceFirst at stored
    split at stored
    · rename_i same
      subst same
      exact (List.mem_cons.mp stored).imp id (List.mem_cons_of_mem _)
    · rcases List.mem_cons.mp stored with same | later
      · exact .inr (same ▸ List.mem_cons_self)
      · exact (ih later).imp id (List.mem_cons_of_mem _)

theorem find?_push_self {c : Collection} {key : String} (free : c.hasKey key = false) (document : Document) :
    (c.push key document).find? key = some document := by
  have absent : c.documents.lookup key = none := by
    rw [List.lookup_eq_none_iff]
    intro entry stored
    exact bne_iff_ne.mpr (Ne.symm (hasKey_eq_false.mp free entry stored))
  simp [push, find?, List.lookup_append, absent]

theorem find?_push_of_find? {c : Collection} {key other : String} {document stored : Document}
    (found : c.find? other = some stored) : (c.push key document).find? other = some stored := by
  unfold find? at *
  simp [push, List.lookup_append, found]

theorem find?_push_of_ne (c : Collection) {key other : String} (different : other ≠ key) (document : Document) :
    (c.push key document).find? other = c.find? other := by
  simp [push, find?, List.lookup_append, List.lookup_cons, beq_false_of_ne different]

theorem find?_put_self {c : Collection} {key : String} {stored : Document} (found : c.find? key = some stored)
    (document : Document) : (c.put key document).find? key = some document := by
  obtain ⟨options, documents, indexes⟩ := c
  simp only [put, find?] at *
  induction documents with
  | nil => simp at found
  | cons entry rest ih =>
    obtain ⟨k, d⟩ := entry
    unfold replaceFirst
    split
    · simp
    · rename_i different
      rw [List.lookup_cons, beq_false_of_ne (Ne.symm different)] at *
      exact ih found

theorem remove_sublist (c : Collection) (key : String) : (c.remove key).documents.Sublist c.documents :=
  List.eraseP_sublist

theorem mem_remove_of_ne {c : Collection} {key : String} {entry : String × Document}
    (stored : entry ∈ c.documents) (different : entry.1 ≠ key) : entry ∈ (c.remove key).documents := by
  unfold remove
  rw [List.mem_eraseP_of_neg (by simpa using different)]
  exact stored

theorem find?_remove_of_ne (c : Collection) {key other : String} (different : other ≠ key) :
    (c.remove key).find? other = c.find? other := by
  obtain ⟨options, documents, indexes⟩ := c
  simp only [remove, find?]
  induction documents with
  | nil => rfl
  | cons first rest ih =>
    obtain ⟨k, d⟩ := first
    by_cases same : k = key
    · subst same
      simp [List.lookup_cons, beq_false_of_ne different]
    · simp [same, List.lookup_cons, ih]

theorem hasKey_remove {c : Collection} (keyed : c.keys.Nodup) (key : String) :
    (c.remove key).hasKey key = false := by
  obtain ⟨options, documents, indexes⟩ := c
  simp only [keys, remove, hasKey_eq_false] at *
  induction documents with
  | nil => simp
  | cons first rest ih =>
    obtain ⟨k, d⟩ := first
    rw [List.map_cons, List.nodup_cons] at keyed
    by_cases same : k = key
    · subst same
      simp only [List.eraseP_cons, decide_true, cond_true]
      intro entry later same
      exact keyed.1 (List.mem_map.mpr ⟨_, later, same⟩)
    · simp only [List.eraseP_cons, same, decide_false, cond_false]
      intro entry member
      rcases List.mem_cons.mp member with rfl | later
      · exact same
      · exact ih keyed.2 entry later

theorem remove_push {c : Collection} {key : String} (free : c.hasKey key = false) (document : Document) :
    (c.push key document).remove key = c := by
  have none : ∀ entry ∈ c.documents, ¬decide (entry.1 = key) = true := fun entry stored => by
    simpa using hasKey_eq_false.mp free entry stored
  simp [push, remove, List.eraseP_append_right _ none]

theorem find?_eq_none_of_hasKey {c : Collection} {key : String} (free : c.hasKey key = false) : c.find? key = none := by
  unfold find?
  rw [List.lookup_eq_none_iff]
  intro entry stored
  exact bne_iff_ne.mpr (Ne.symm (hasKey_eq_false.mp free entry stored))

end Collection

/-! ### Inserting -/

namespace Store

theorem toString_injective {m n : Nat} (same : toString m = toString n) : m = n := by
  have digits : Nat.toDigits 10 m = Nat.toDigits 10 n := by
    simpa [Nat.toList_repr] using congrArg String.toList same
  rw [← Nat.ofDigitChars_ten_toDigits (n := m), digits, Nat.ofDigitChars_ten_toDigits]

theorem lt_nextFree (taken : List String) (steps n : Nat) : n < nextFree taken steps n := by
  induction steps generalizing n with
  | zero => simp [nextFree]
  | succ steps ih =>
    unfold nextFree
    split
    · exact Nat.lt_trans (Nat.lt_succ_self n) (ih (n + 1))
    · exact Nat.lt_succ_self n

/-- What an insert has checked before it stores a document under a key. The number is where the counter of keys
stands afterwards. -/
structure InsertChecked (s : Store) (name : String) (c : Collection) (key : String) (n : Nat)
    (document : Document) : Prop where
  present : s.collections.get? name = some c
  ends : missingEndpoint? c document = none
  choice : keyChoice name c document = .assigned ∧ n = s.nextKey c ∧ key = toString n ∨
    keyChoice name c document = .given key ∧ n = s.keyCounter
  free : c.hasKey key = false
  clear : c.clash? document key = none

theorem get?_key_of_assigned {name : String} {c : Collection} {document : Document}
    (choice : keyChoice name c document = .assigned) :
    document.get? Attribute.key = none ∨ document.get? Attribute.key = some .null := by
  unfold keyChoice at choice
  split at choice
  · exact .inl ‹_›
  · exact .inr ‹_›
  · repeat' split at choice
    all_goals cases choice

theorem get?_key_of_given {name key : String} {c : Collection} {document : Document}
    (choice : keyChoice name c document = .given key) :
    document.get? Attribute.key = some (.string key) := by
  unfold keyChoice at choice
  split at choice
  · cases choice
  · cases choice
  · rename_i value _ found
    split at choice
    · cases choice
    · split at choice
      · split at choice
        · cases choice
          exact found
        · cases choice
      · cases choice

/-- The key attribute that an inserted document brought: nothing, null, or the key. -/
theorem InsertChecked.keyed {s : Store} {name key : String} {c : Collection} {n : Nat} {document : Document}
    (checked : s.InsertChecked name c key n document) :
    document.get? Attribute.key = none ∨ document.get? Attribute.key = some .null ∨
      document.get? Attribute.key = some (.string key) := by
  rcases checked.choice with ⟨choice, -, -⟩ | ⟨choice, -⟩
  · exact (get?_key_of_assigned choice).imp id .inl
  · exact .inr (.inr (get?_key_of_given choice))

def inserted (s : Store) (name : String) (c : Collection) (key : String) (n : Nat) (document : Document) :
    Store :=
  { s.setCollection name (c.push key (stamp name key (s.revCounter + 1) document)) with
    keyCounter := n, revCounter := s.revCounter + 1 }

theorem insertAt_cases (s : Store) (name : String) (c : Collection) (key : String) (document : Document) :
    (∃ r, s.insertAt name c key document = (.error r, s)) ∨
      c.hasKey key = false ∧ c.clash? document key = none ∧
        s.insertAt name c key document = (.ok ⟨idOf name key, key, revision (s.revCounter + 1)⟩,
          s.inserted name c key s.keyCounter document) := by
  unfold insertAt
  split
  · exact .inl ⟨_, rfl⟩
  · rename_i free
    split
    · exact .inl ⟨_, rfl⟩
    · rename_i clear
      refine .inr ⟨by simpa using free, clear, ?_⟩
      simp [inserted, setCollection]

/-- An insert is refused and has used up numbers of keys at most, or it stores the document under a free key. -/
theorem insert_cases (s : Store) (name : String) (document : Document) :
    (∃ r n, s.keyCounter ≤ n ∧ s.insert name document = (.error r, { s with keyCounter := n })) ∨
      ∃ c key n, s.InsertChecked name c key n document ∧
        s.insert name document = (.ok ⟨idOf name key, key, revision (s.revCounter + 1)⟩,
          s.inserted name c key n document) := by
  have unchanged : ∀ (outcome : Outcome Header) (r : Refusal), outcome = (.error r, s) →
      ∃ r n, s.keyCounter ≤ n ∧ outcome = (.error r, { s with keyCounter := n }) :=
    fun _ r refused => ⟨r, s.keyCounter, Nat.le_refl _, refused⟩
  unfold insert
  cases present : s.collections.get? name with
  | none => exact .inl (unchanged _ _ rfl)
  | some c =>
    dsimp only
    cases ends : missingEndpoint? c document with
    | some field => exact .inl (unchanged _ _ rfl)
    | none =>
      dsimp only
      cases choice : keyChoice name c document with
      | refused r => exact .inl (unchanged _ _ rfl)
      | given key =>
        rcases s.insertAt_cases name c key document with ⟨r, refused⟩ | ⟨free, clear, stored⟩
        · exact .inl (unchanged _ r refused)
        · exact .inr ⟨c, key, s.keyCounter, ⟨present, ends, .inr ⟨choice, rfl⟩, free, clear⟩, stored⟩
      | assigned =>
        rcases insertAt_cases { s with keyCounter := s.nextKey c } name c (toString (s.nextKey c)) document with
          ⟨r, refused⟩ | ⟨free, clear, stored⟩
        · exact .inl ⟨r, s.nextKey c, Nat.le_of_lt (lt_nextFree _ _ _), refused⟩
        · exact .inr ⟨c, _, s.nextKey c, ⟨present, ends, .inl ⟨choice, rfl, rfl⟩, free, clear⟩, stored⟩

/-! ### Replacing -/

/-- What a replacement has checked before it takes the place of the document that was stored. -/
structure ReplaceChecked (s : Store) (name : String) (c : Collection) (key : String) (stored document : Document) :
    Prop where
  keyed : document.text? Attribute.key = some key
  present : s.collections.get? name = some c
  ends : missingEndpoint? c document = none
  found : c.find? key = some stored
  current : isStale (presentedRev? document) stored = false
  clear : c.clash? document key = none

def replaced (s : Store) (name : String) (c : Collection) (key : String) (document : Document) : Store :=
  { s.setCollection name (c.put key (stamp name key (s.revCounter + 1) document)) with
    revCounter := s.revCounter + 1 }

/-- A replacement is refused and changes nothing, or it puts the document in the place of the one with its key. -/
theorem replace_cases (s : Store) (name : String) (document : Document) :
    (∃ r, s.replace name document = (.error r, s)) ∨
      ∃ c key stored, s.ReplaceChecked name c key stored document ∧
        s.replace name document = (.ok ⟨idOf name key, key, revision (s.revCounter + 1)⟩,
          s.replaced name c key document) := by
  unfold replace
  cases keyed : (document.text? Attribute.key).filter fun key => key ≠ "" with
  | none => exact .inl ⟨_, rfl⟩
  | some key =>
    dsimp only
    cases present : s.collections.get? name with
    | none => exact .inl ⟨_, rfl⟩
    | some c =>
      dsimp only
      cases ends : missingEndpoint? c document with
      | some field => exact .inl ⟨_, rfl⟩
      | none =>
        dsimp only
        cases found : c.find? key with
        | none => exact .inl ⟨_, rfl⟩
        | some stored =>
          dsimp only
          split
          · exact .inl ⟨_, rfl⟩
          · rename_i current
            cases clear : c.clash? document key with
            | some index => exact .inl ⟨_, rfl⟩
            | none =>
              have named : document.text? Attribute.key = some key := (Option.filter_eq_some_iff.mp keyed).1
              refine .inr ⟨c, key, stored, ⟨named, present, ends, found, by simpa using current, clear⟩, ?_⟩
              simp [replaced, setCollection]

/-! ### Deleting -/

/-- What a deletion has checked before it removes a document. -/
structure DeleteChecked (s : Store) (name : String) (c : Collection) (key : String) (rev : Option String)
    (stored : Document) : Prop where
  present : s.collections.get? name = some c
  found : c.find? key = some stored
  current : isStale (rev.filter fun rev => rev ≠ "") stored = false

/-- A deletion is refused or finds nothing, and changes nothing, or it removes the document with the key. -/
theorem delete_cases (s : Store) (name key : String) (rev : Option String) (ignoreMissing : Bool) :
    (∃ r, s.delete name key rev ignoreMissing = (.error r, s)) ∨
      s.delete name key rev ignoreMissing = (.ok false, s) ∨
      ∃ c stored, s.DeleteChecked name c key rev stored ∧
        s.delete name key rev ignoreMissing = (.ok true, s.setCollection name (c.remove key)) := by
  unfold delete
  cases present : s.collections.get? name with
  | none => exact .inl ⟨_, rfl⟩
  | some c =>
    dsimp only
    cases found : c.find? key with
    | none =>
      cases ignoreMissing
      · exact .inl ⟨_, rfl⟩
      · exact .inr (.inl rfl)
    | some stored =>
      dsimp only
      split
      · exact .inl ⟨_, rfl⟩
      · rename_i current
        exact .inr (.inr ⟨c, stored, ⟨present, found, by simpa using current⟩, rfl⟩)

end Store
end RecordStore
