import RecordStore.Client.Lock
import RecordStore.Proofs.Query.Sorting
import RecordStore.Proofs.Record.Stamp
import RecordStore.Proofs.Store.Keys
import RecordStore.Proofs.Store.Uniqueness

/-!
# Collections of locks

A collection that only lock backends write to holds locks under keys that the store has assigned, and its unique index
keeps their names apart (`LockCollection`). The three requests of a backend are described on such a collection: an
insert adds a lock of a name that was free, the query of a release finds the one lock of a name, and a deletion removes
the lock under its key.
-/

namespace RecordStore

namespace LockBackend

def nameIndex : IndexSpec := ⟨["name"], true, false, none⟩

def lockDocument (name : String) (expires : Nat) : Document :=
  LockDocument.attributes ⟨⟨none, ""⟩, name, expires⟩

/-- An entry of a collection that is a lock of some name. -/
def IsLock (collection name : String) (entry : String × Document) : Prop :=
  ∃ rev expires, entry.2 = Store.stamp collection entry.1 rev (lockDocument name expires)

theorem lockDocument_eq (name : String) (expires : Nat) :
    lockDocument name expires = [("expiresAt", .ofNat expires), ("name", .string name)] := by
  have order : ¬"name" < "expiresAt" := by decide
  simp [lockDocument, LockDocument.attributes, Table.ofList, Table.set, order]

theorem get?_lockDocument_key (name : String) (expires : Nat) :
    (lockDocument name expires).get? Attribute.key = none := by
  rw [lockDocument_eq]
  rfl

namespace IsLock

variable {collection name : String} {entry : String × Document}

theorem text?_name (lock : IsLock collection name entry) : entry.2.text? "name" = some name := by
  obtain ⟨rev, expires, written⟩ := lock
  have named : entry.2.get? "name" = some (.string name) := by
    rw [written, Store.get?_stamp_of_ne _ _ _ _ (by decide) (by decide) (by decide), lockDocument_eq]
    rfl
  simp [Document.text?, named, Value.asString?]

theorem lookup_name (lock : IsLock collection name entry) : (Value.object entry.2).lookup ["name"] = .string name := by
  rw [Store.lookup_cons, Document.get?_of_text? lock.text?_name]
  rfl

theorem decode (lock : IsLock collection name entry) :
    ∃ l, LockDocument.decode (.object entry.2) = some l ∧ l.stamp.key = some entry.1 := by
  have named := lock.text?_name
  obtain ⟨rev, expires, written⟩ := lock
  have stamped : Stamp.ofDocument? entry.2 = some ⟨some entry.1, Store.revision rev⟩ := by
    rw [written]
    exact Stamp.ofDocument?_of_texts (Store.text?_key_stamp ..) (Store.text?_rev_stamp ..)
  have expiring : entry.2.get? "expiresAt" = some (.ofNat expires) := by
    rw [written, Store.get?_stamp_of_ne _ _ _ _ (by decide) (by decide) (by decide), lockDocument_eq]
    rfl
  refine ⟨⟨⟨some entry.1, Store.revision rev⟩, name, expires⟩, ?_, rfl⟩
  simp [LockDocument.decode, Value.asObject?, stamped, named, expiring, Value.ofNat, Value.asNat?]

theorem values? {index : IndexSpec} (alike : index.alike nameIndex = true) (lock : IsLock collection name entry) :
    index.values? entry.2 = some [.string name] := by
  obtain ⟨fields, -, sparse⟩ : index.fields = ["name"] ∧ index.unique = true ∧ index.sparse = false := by
    simpa [IndexSpec.alike, nameIndex, and_assoc] using alike
  have path : IndexSpec.path "name" = ["name"] := by decide
  simp [IndexSpec.values?, fields, sparse, path, lock.lookup_name]

end IsLock

theorem values?_lockDocument {index : IndexSpec} (alike : index.alike nameIndex = true) (name : String)
    (expires : Nat) : index.values? (lockDocument name expires) = some [.string name] := by
  obtain ⟨fields, -, sparse⟩ : index.fields = ["name"] ∧ index.unique = true ∧ index.sparse = false := by
    simpa [IndexSpec.alike, nameIndex, and_assoc] using alike
  have path : IndexSpec.path "name" = ["name"] := by decide
  simp [IndexSpec.values?, fields, sparse, path, lockDocument_eq, Value.lookup, Table.get?]

theorem unique_of_alike {index : IndexSpec} (alike : index.alike nameIndex = true) : index.unique = true := by
  obtain ⟨-, unique, -⟩ : index.fields = ["name"] ∧ index.unique = true ∧ index.sparse = false := by
    simpa [IndexSpec.alike, nameIndex, and_assoc] using alike
  exact unique

/-- What only lock backends have written to: locks under keys that are numbers up to some number, with names that the
index on names keeps apart. -/
structure LockCollection (collection : String) (numbers : Nat) (c : Collection) : Prop where
  keyed : c.keys.Nodup
  locks : ∀ entry ∈ c.documents, ∃ name, IsLock collection name entry
  numbered : ∀ entry ∈ c.documents, ∃ n ≤ numbers, entry.1 = toString n
  single : c.documents.Pairwise fun a b => a.2.text? "name" ≠ b.2.text? "name"
  indexes : ∀ index ∈ c.indexes, index.alike nameIndex = true

namespace LockCollection

variable {collection name : String} {numbers : Nat} {c : Collection}

theorem mono (locks : LockCollection collection numbers c) {more : Nat} (later : numbers ≤ more) :
    LockCollection collection more c := by
  refine { locks with numbered := fun entry stored => ?_ }
  obtain ⟨n, small, key⟩ := locks.numbered entry stored
  exact ⟨n, Nat.le_trans small later, key⟩

theorem remove (locks : LockCollection collection numbers c) (key : String) :
    LockCollection collection numbers (c.remove key) where
  keyed := locks.keyed.sublist ((c.remove_sublist key).map Prod.fst)
  locks entry stored := locks.locks entry ((c.remove_sublist key).subset stored)
  numbered entry stored := locks.numbered entry ((c.remove_sublist key).subset stored)
  single := locks.single.sublist (c.remove_sublist key)
  indexes := locks.indexes

theorem addIndex (locks : LockCollection collection numbers c) :
    LockCollection collection numbers { c with indexes := c.indexes ++ [nameIndex] } := by
  refine ⟨locks.keyed, locks.locks, locks.numbered, locks.single, fun index listed => ?_⟩
  rcases List.mem_append.mp listed with before | added
  · exact locks.indexes index before
  · obtain rfl := List.mem_singleton.mp added
    decide

theorem filter_name (locks : LockCollection collection numbers c) {entry : String × Document}
    (stored : entry ∈ c.documents) (lock : IsLock collection name entry) :
    c.documents.filter (fun other => other.2.text? "name" == some name) = [entry] := by
  obtain ⟨before, after, split⟩ := List.append_of_mem stored
  have apart := locks.single
  rw [split, List.pairwise_append] at apart
  obtain ⟨-, later, earlier⟩ := apart
  rw [List.pairwise_cons] at later
  have none : ∀ others : List (String × Document), (∀ other ∈ others, other.2.text? "name" ≠ some name) →
      others.filter (fun other => other.2.text? "name" == some name) = [] := by
    intro others different
    rw [List.filter_eq_nil_iff]
    intro other listed
    simpa using different other listed
  rw [split, List.filter_append, List.filter_cons_of_pos (by simp [lock.text?_name]), none before, none after]
  · rfl
  · intro other listed same
    exact later.1 other listed (lock.text?_name.trans same.symm)
  · intro other listed same
    exact earlier other listed entry List.mem_cons_self (same.trans lock.text?_name.symm)

theorem eq_of_name (locks : LockCollection collection numbers c) {entry other : String × Document}
    (stored : entry ∈ c.documents) (here : other ∈ c.documents) (lock : IsLock collection name entry)
    (same : IsLock collection name other) : other = entry := by
  have among : other ∈ c.documents.filter fun d => d.2.text? "name" == some name := by
    simp [here, same.text?_name]
  rw [locks.filter_name stored lock] at among
  exact List.mem_singleton.mp among

end LockCollection

end LockBackend

/-! ### Requests for locks -/

namespace Store

open LockBackend

variable {s : Store} {collection name : String} {c : Collection}

theorem name_ne_of_clear {expires : Nat} {key : String}
    (indexed : ∃ index ∈ c.indexes, index.alike nameIndex = true)
    (clear : c.clash? (lockDocument name expires) key = none) {entry : String × Document}
    (stored : entry ∈ c.documents) (other : entry.1 ≠ key) : ¬IsLock collection name entry := by
  intro lock
  obtain ⟨index, listed, alike⟩ := indexed
  have apart := clash_of_clear clear listed (unique_of_alike alike) stored other
  simp [IndexSpec.clash, values?_lockDocument alike, lock.values? alike, Value.sameItems, Value.same] at apart

/-- An insert of a lock is refused and has used up numbers at most, or it adds a lock of a name that was free, under a
new number. -/
theorem insert_lock (present : s.collections.get? collection = some c)
    (locks : LockCollection collection s.keyCounter c)
    (indexed : ∃ index ∈ c.indexes, index.alike nameIndex = true) (name : String) (expires : Nat) :
    (∃ r n, s.keyCounter ≤ n ∧
        s.insert collection (lockDocument name expires) = (.error r, { s with keyCounter := n })) ∨
      ∃ n document t, s.keyCounter < n ∧ c.options.kind = .document ∧
        IsLock collection name (toString n, document) ∧ LockCollection collection n (c.push (toString n) document) ∧
        s.insert collection (lockDocument name expires) =
          (.ok ⟨idOf collection (toString n), toString n, revision (s.revCounter + 1)⟩, t) ∧
        t.collections = s.collections.set collection (c.push (toString n) document) ∧ t.keyCounter = n := by
  rcases s.insert_cases collection (lockDocument name expires) with refused | ⟨c', key, n, checked, stored⟩
  · exact .inl refused
  obtain rfl : c = c' := Option.some.inj (present.symm.trans checked.present)
  obtain ⟨rfl, rfl⟩ : n = s.nextKey c ∧ key = toString (s.nextKey c) := by
    rcases checked.choice with ⟨-, rfl, rfl⟩ | ⟨given, -⟩
    · exact ⟨rfl, rfl⟩
    · have brought := get?_key_of_given given
      rw [get?_lockDocument_key] at brought
      cases brought
  have new := s.lt_nextKey c
  have lock : IsLock collection name
      (toString (s.nextKey c), stamp collection (toString (s.nextKey c)) (s.revCounter + 1) (lockDocument name expires)) :=
    ⟨s.revCounter + 1, expires, rfl⟩
  refine .inr ⟨s.nextKey c, _, _, new, ?_, lock, ?_, stored, rfl, rfl⟩
  · have ends := checked.ends
    unfold missingEndpoint? at ends
    split at ends
    · rw [lockDocument_eq] at ends
      cases ends
    · cases kind : c.options.kind
      · rfl
      · contradiction
  · have later := locks.mono (Nat.le_of_lt new)
    refine ⟨?_, ?_, ?_, ?_, locks.indexes⟩
    · rw [Collection.keys_push, List.nodup_append]
      refine ⟨locks.keyed, List.pairwise_singleton _ _, ?_⟩
      rintro other used _ isNew rfl
      obtain ⟨entry, here, rfl⟩ := List.mem_map.mp used
      exact Collection.hasKey_eq_false.mp checked.free entry here (List.mem_singleton.mp isNew)
    · intro entry here
      rcases List.mem_append.mp here with before | isNew
      · exact later.locks entry before
      · obtain rfl := List.mem_singleton.mp isNew
        exact ⟨name, lock⟩
    · intro entry here
      rcases List.mem_append.mp here with before | isNew
      · exact later.numbered entry before
      · obtain rfl := List.mem_singleton.mp isNew
        exact ⟨_, Nat.le_refl _, rfl⟩
    · refine List.pairwise_append.mpr ⟨locks.single, List.pairwise_singleton _ _, ?_⟩
      intro entry here new isNew same
      obtain rfl := List.mem_singleton.mp isNew
      obtain ⟨other, named⟩ := locks.locks entry here
      obtain rfl : other = name := Option.some.inj (named.text?_name.symm.trans (same.trans lock.text?_name))
      exact name_ne_of_clear indexed checked.clear here (Collection.hasKey_eq_false.mp checked.free entry here) named

/-- In a collection of documents a lock is inserted under an assigned key. -/
theorem insert_lock_eq (present : s.collections.get? collection = some c) (plain : c.options.kind = .document)
    (name : String) (expires : Nat) :
    s.insert collection (lockDocument name expires) = { s with keyCounter := s.nextKey c }.insertAt collection c
      (toString (s.nextKey c)) (lockDocument name expires) := by
  have ends : missingEndpoint? c (lockDocument name expires) = none := by simp [missingEndpoint?, plain]
  have choice : keyChoice collection c (lockDocument name expires) = .assigned := by
    simp [keyChoice, get?_lockDocument_key]
  unfold insert
  simp only [present, ends, choice]

theorem insert_free_lock (present : s.collections.get? collection = some c)
    (locks : LockCollection collection s.keyCounter c) (plain : c.options.kind = .document)
    (free : ∀ entry ∈ c.documents, ¬IsLock collection name entry) (expires : Nat) :
    ∃ header t, s.insert collection (lockDocument name expires) = (.ok header, t) := by
  have clear : c.clash? (lockDocument name expires) (toString (s.nextKey c)) = none := by
    refine List.find?_eq_none.mpr fun index listed => ?_
    have alike := locks.indexes index listed
    simp only [Bool.and_eq_true, List.any_eq_true, not_and]
    rintro - ⟨entry, stored, -, clash⟩
    obtain ⟨other, lock⟩ := locks.locks entry stored
    have different : name ≠ other := fun same => free entry stored (same ▸ lock)
    simp [IndexSpec.clash, values?_lockDocument alike, lock.values? alike, Value.sameItems, Value.same, different] at clash
  rw [insert_lock_eq present plain, insertAt, nextKey_free, if_neg Bool.false_ne_true, clear]
  exact ⟨_, _, rfl⟩

theorem insert_held_lock (present : s.collections.get? collection = some c) (plain : c.options.kind = .document)
    (indexed : ∃ index ∈ c.indexes, index.alike nameIndex = true) {entry : String × Document}
    (stored : entry ∈ c.documents) (lock : IsLock collection name entry) (expires : Nat) :
    ∃ fields, s.insert collection (lockDocument name expires) =
      (.error (.notUnique collection fields), { s with keyCounter := s.nextKey c }) := by
  have other := Collection.hasKey_eq_false.mp (s.nextKey_free c) entry stored
  rw [insert_lock_eq present plain, insertAt, nextKey_free, if_neg Bool.false_ne_true]
  cases clash : c.clash? (lockDocument name expires) (toString (s.nextKey c)) with
  | some index => exact ⟨index.fields, rfl⟩
  | none => exact absurd lock (name_ne_of_clear indexed clash stored other)

theorem insert_edge_lock (present : s.collections.get? collection = some c) (edges : c.options.kind ≠ .document)
    (name : String) (expires : Nat) :
    s.insert collection (lockDocument name expires) = (.error (.badEndpoint Attribute.source), s) := by
  have kind : c.options.kind = .edge := by
    cases kind : c.options.kind
    · exact absurd kind edges
    · rfl
  have ends : missingEndpoint? c (lockDocument name expires) = some Attribute.source := by
    rw [missingEndpoint?, if_pos kind, lockDocument_eq]
    rfl
  unfold insert
  simp only [present, ends]

theorem compareText_beq_eq (a b : String) : (Value.compareText a b == .eq) = (some a == some b) := by
  unfold Value.compareText
  by_cases same : a = b
  · subst same
    simp
  · split <;> simp [same]

def holdersStatement : Query.Statement :=
  { source := .parameter "@collection"
    conditions := [⟨[.literal (.string "name")], .compare .eq, .parameter "name"⟩] }

theorem ofText_holders (collection name : String) :
    Query.Statement.ofText (holdersQuery collection name).text = .ok holdersStatement := by
  dsimp only [holdersQuery, holdersStatement]
  rfl

theorem collection_holders (collection name : String) :
    holdersStatement.collection (holdersQuery collection name).bindings = .ok collection := rfl

theorem holds_name {entry : String × Document} {other : String} (lock : IsLock collection other entry) (name : String) :
    (⟨["name"], .compare .eq, .string name⟩ : Query.Test).holds (.object entry.2) =
      (entry.2.text? "name" == some name) := by
  simp only [Query.Test.holds, lock.lookup_name, lock.text?_name]
  exact compareText_beq_eq other name

/-- The query of a release gives the documents of the locks of a name. -/
theorem evaluate_holders (present : s.collections.get? collection = some c)
    (locks : LockCollection collection s.keyCounter c) (name : String) :
    ∃ fullCount, s.evaluate (holdersQuery collection name) =
      .ok ⟨(c.documents.filter fun entry => entry.2.text? "name" == some name).map fun entry => .object entry.2,
        fullCount⟩ := by
  have kept : (c.contents.map Value.object).filter
        (fun document => (⟨["name"], .compare .eq, .string name⟩ : Query.Test).holds document) =
      (c.documents.filter fun entry => entry.2.text? "name" == some name).map fun entry => .object entry.2 := by
    rw [Collection.contents, List.map_map, List.filter_map]
    refine congrArg _ (List.filter_congr fun entry stored => ?_)
    obtain ⟨other, lock⟩ := locks.locks entry stored
    exact holds_name lock name
  have operand : (holdersQuery collection name).bindings.get? "name" = some (.string name) := rfl
  have answered : holdersStatement.evaluate (c.contents.map .object) (holdersQuery collection name).bindings =
      .ok ⟨(c.documents.filter fun entry => entry.2.text? "name" == some name).map fun entry => .object entry.2,
        (c.documents.filter fun entry => entry.2.text? "name" == some name).length⟩ := by
    simp only [holdersStatement, Query.Statement.evaluate, Query.Condition.resolve, Query.Term.resolvePath,
      Query.Term.resolveName, Query.Term.resolve, operand, List.mapM_cons, List.mapM_nil, pure, Except.pure, bind,
      Except.bind, Query.Key.sort_nil, Query.Statement.slice, List.all_cons, List.all_nil, Bool.and_true, kept,
      List.length_map]
  refine ⟨(c.documents.filter fun entry => entry.2.text? "name" == some name).length, ?_⟩
  unfold evaluate
  simp only [ofText_holders, collection_holders, Except.mapError, bind, Except.bind, present, answered]

/-- The query of a release finds the one lock of a name, and no cursor is opened for it. -/
theorem execute_holders (present : s.collections.get? collection = some c)
    (locks : LockCollection collection s.keyCounter c) {entry : String × Document} (stored : entry ∈ c.documents)
    (lock : IsLock collection name entry) :
    s.execute (holdersQuery collection name) = (.ok ⟨none, [.object entry.2], false, none, none⟩, s) := by
  obtain ⟨fullCount, evaluated⟩ := evaluate_holders present locks name
  rw [locks.filter_name stored lock] at evaluated
  unfold execute
  rw [evaluated]
  have whole : ∀ n, [Value.object entry.2].drop (max n 1) = [] ∧
      [Value.object entry.2].take (max n 1) = [.object entry.2] := by
    intro n
    obtain ⟨m, size⟩ : ∃ m, max n 1 = m + 1 := ⟨max n 1 - 1, by omega⟩
    simp [size]
  simp [whole, holdersQuery]

theorem delete_lock (present : s.collections.get? collection = some c)
    (locks : LockCollection collection s.keyCounter c) {entry : String × Document} (stored : entry ∈ c.documents) :
    s.delete collection entry.1 none true = (.ok true, s.setCollection collection (c.remove entry.1)) := by
  simp [delete, present, Collection.find?_of_mem locks.keyed stored, isStale]

end Store
end RecordStore
