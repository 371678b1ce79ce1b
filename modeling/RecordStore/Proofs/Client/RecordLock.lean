import RecordStore.Proofs.Client.Exclusion
import RecordStore.Proofs.Client.Saving
import RecordStore.Sample.Vertices

/-!
# Locked records

A client that loads a record under its lock has the lock exactly if it has got the record: whatever goes wrong after the
lock has been taken, it is given back before the error is told (`locked_iff_ok`). While the client has the lock nobody
else gets it, and once it has been given back the collection of locks is what it was.
-/

namespace RecordStore

def Store.SameCollections (s t : Store) : Prop :=
  ∀ name, t.collections.get? name = s.collections.get? name

namespace LockBackend

variable {collection name : String} {w : World} {s : Store} {c : Collection}

/-! ### A backend that acts alone -/

theorem tryInsert_run (plain : w.store = ⟨s, []⟩) (collection name : String) :
    (tryInsert collection name).run w =
      match s.insert collection (lockDocument name (w.clock / 1000 + timeToLive)) with
      | (.ok _, t) => (some (.ok true), { w with store := ⟨t, []⟩ })
      | (.error r, t) =>
        (some (if r.error.hasCode ErrorCode.uniqueConstraintViolated || r.error.hasCode ErrorCode.conflict
          then .ok false else .error (.store r.error)), { w with store := ⟨t, []⟩ }) := by
  have time : (Program.ofAction .now).run w = (some w.clock, w) := rfl
  have requested := Program.request_run plain (.insert collection (lockDocument name (w.clock / 1000 + timeToLive)))
  simp only [lockDocument, Store.answer, Store.reply] at requested
  rw [tryInsert, Program.run_bind, time]
  dsimp only
  rw [Program.run_bind, requested, ← lockDocument]
  rcases s.insert collection (lockDocument name (w.clock / 1000 + timeToLive)) with ⟨r | header, t⟩
  · dsimp only [Except.mapError]
    split <;> rfl
  · rfl

theorem acquire_run {result : Except ClientError Bool} {w' : World} (pollDelay : Nat) (block : Bool)
    (tried : (tryInsert collection name).run w = (some result, w')) (settled : block = true → result ≠ .ok false) :
    ((overStore collection pollDelay).acquire name block).run w = (some result, w') := by
  cases block with
  | false => exact tried
  | true =>
    obtain ⟨tries, patience⟩ : ∃ tries, w.store.patience = tries + 1 := ⟨_, rfl⟩
    have waits : ((overStore collection pollDelay).acquire name true).run w =
        (insertWithin collection name w.store.patience).run w := rfl
    rw [waits, patience, insertWithin, Program.run_bind, tried]
    have settled := settled rfl
    rcases result with e | _ | _
    · rfl
    · contradiction
    · rfl

/-- A lock that is stored is given back by deleting it. -/
theorem release_run (plain : w.store = ⟨s, []⟩) (present : s.collections.get? collection = some c)
    (locks : LockCollection collection s.keyCounter c) {entry : String × Document} (stored : entry ∈ c.documents)
    (lock : IsLock collection name entry) (pollDelay : Nat) :
    ((overStore collection pollDelay).release name).run w =
      (some (.ok ()), { w with store := ⟨s.setCollection collection (c.remove entry.1), []⟩ }) := by
  obtain ⟨l, read, keyed⟩ := lock.decode
  have found : w.answer (.store (.execute (holdersQuery collection name))) =
      (.ok ⟨none, [.object entry.2], false, none, none⟩, w) := by
    rw [World.answer_plain plain]
    simp only [Store.answer, Store.reply, Store.execute_holders present locks stored lock, Except.mapError, ← plain]
  have deleted : w.answer (.store (.delete collection entry.1 none true)) =
      (.ok true, { w with store := ⟨s.setCollection collection (c.remove entry.1), []⟩ }) := by
    rw [World.answer_plain plain]
    simp only [Store.answer, Store.reply, Store.delete_lock present locks stored, Except.mapError]
  simp only [release, Program.andThen, Program.requestOr, Program.request, Program.ofAction, Program.bind,
    Program.run_act, found, Except.mapError, toListAndDrop_single read]
  simp only [deleteAll, keyed, Program.andThen, Program.requestOr, Program.request, Program.ofAction, Program.bind,
    Program.run_act]
  rw [show w.answer .patience = (w.store.patience, w) from rfl]
  simp only [deleted, Except.mapError]
  rfl

def Free (collection name : String) (s : Store) : Prop :=
  ∀ key document, s.document? collection key = some document → document.text? "name" ≠ some name

/-- One more document is stored than before, a lock of a name, and no other collection is changed. -/
structure Takes (collection name : String) (s t : Store) : Prop where
  stored : ∃ c key document, s.collections.get? collection = some c ∧ document.text? "name" = some name ∧
    t.collections.get? collection = some (c.push key document)
  elsewhere : ∀ other, other ≠ collection → t.collections.get? other = s.collections.get? other

/-- One document that was stored before is removed, a lock of a name, and no other collection is changed. -/
structure GivesBack (collection name : String) (s t : Store) : Prop where
  removed : ∃ c key document, s.collections.get? collection = some c ∧ (key, document) ∈ c.documents ∧
    document.text? "name" = some name ∧ t.collections.get? collection = some (c.remove key)
  elsewhere : ∀ other, other ≠ collection → t.collections.get? other = s.collections.get? other

/-- A state of the store in which a collection is one of locks. -/
structure LocksAt (collection : String) (s : Store) (c : Collection) : Prop where
  present : s.collections.get? collection = some c
  locks : LockCollection collection s.keyCounter c
  indexed : ∃ index ∈ c.indexes, index.alike nameIndex = true

namespace LocksAt

theorem unused (at_ : LocksAt collection s c) (free : Free collection name s) :
    ∀ entry ∈ c.documents, ¬IsLock collection name entry := by
  intro entry stored lock
  refine free entry.1 entry.2 ?_ lock.text?_name
  rw [document?_eq at_.present, Collection.find?_of_mem at_.locks.keyed stored]

theorem tryInsert_held (at_ : LocksAt collection s c) (plain : w.store = ⟨s, []⟩) (documents : c.options.kind = .document)
    {entry : String × Document} (stored : entry ∈ c.documents) (lock : IsLock collection name entry) :
    ∃ n, s.keyCounter ≤ n ∧
      (tryInsert collection name).run w = (some (.ok false), { w with store := ⟨{ s with keyCounter := n }, []⟩ }) := by
  obtain ⟨fields, refused⟩ := Store.insert_held_lock at_.present documents at_.indexed stored lock
    (w.clock / 1000 + timeToLive)
  exact ⟨_, Nat.le_of_lt (s.lt_nextKey c), by rw [tryInsert_run plain, refused]; rfl⟩

theorem tryInsert_edges (at_ : LocksAt collection s c) (plain : w.store = ⟨s, []⟩)
    (edges : c.options.kind ≠ .document) (name : String) :
    ∃ e, (tryInsert collection name).run w = (some (.error e), w) := by
  refine ⟨.store (Refusal.badEndpoint Attribute.source).error, ?_⟩
  rw [tryInsert_run plain, Store.insert_edge_lock at_.present edges]
  simp only [← plain]
  rfl

end LocksAt

/-- The store after a lock has been taken that nobody had: a new document of the name stands behind the others. -/
structure Grown (collection name : String) (s : Store) (c : Collection) (key : String) (document : Document)
    (t : Store) : Prop where
  before : s.collections.get? collection = some c
  fresh : c.hasKey key = false
  lock : IsLock collection name (key, document)
  now : LocksAt collection t (c.push key document)
  elsewhere : ∀ other, other ≠ collection → t.collections.get? other = s.collections.get? other

namespace Grown

variable {key : String} {document : Document} {t : Store}

theorem takes (grown : Grown collection name s c key document t) : Takes collection name s t :=
  ⟨⟨c, key, document, grown.before, grown.lock.text?_name, grown.now.present⟩, grown.elsewhere⟩

/-- Without the new document the collections are the old ones. -/
theorem undone (grown : Grown collection name s c key document t) :
    s.SameCollections (t.setCollection collection ((c.push key document).remove key)) := by
  intro other
  by_cases same : other = collection
  · subst same
    rw [grown.before]
    exact (Table.get?_set_self _ _ _).trans (congrArg some (Collection.remove_push grown.fresh document))
  · rw [← grown.elsewhere other same]
    exact Table.get?_set_of_ne _ _ (Ne.symm same)

end Grown

theorem LocksAt.tryInsert_free (at_ : LocksAt collection s c) (plain : w.store = ⟨s, []⟩)
    (documents : c.options.kind = .document) (free : Free collection name s) :
    ∃ key document t, (tryInsert collection name).run w = (some (.ok true), { w with store := ⟨t, []⟩ }) ∧
      Grown collection name s c key document t := by
  obtain ⟨header, t, inserted⟩ := Store.insert_free_lock at_.present at_.locks documents (at_.unused free)
    (w.clock / 1000 + timeToLive)
  rcases Store.insert_lock at_.present at_.locks at_.indexed name (w.clock / 1000 + timeToLive) with
    ⟨r, n, -, refused⟩ | ⟨n, document, t', new, -, lock, grown, done, set, counter⟩
  · cases inserted.symm.trans refused
  · obtain rfl : t = t' := (Prod.mk.inj (inserted.symm.trans done)).2
    refine ⟨toString n, document, t, by rw [tryInsert_run plain, inserted],
      at_.present, ?_, lock, ⟨?_, counter ▸ grown, at_.indexed⟩, fun other different => ?_⟩
    · refine Collection.hasKey_eq_false.mpr fun entry stored same => ?_
      obtain ⟨m, small, number⟩ := at_.locks.numbered entry stored
      have := Store.toString_injective (number.symm.trans same)
      omega
    · rw [set, Table.get?_set_self]
    · rw [set, Table.get?_set_of_ne _ _ different.symm]

end LockBackend

theorem LockGuard.drop_run {g : LockGuard} (unreleased : g.released = false) {w w' : World}
    {result : Except ClientError Unit} (released : g.release.run w = (some result, w')) :
    g.drop.run w = (some (), w') := by
  rw [drop, unreleased, if_neg Bool.false_ne_true, Program.run_bind, released]
  rfl

namespace NamedLock

open LockBackend

variable {collection name : String} {w : World} {s : Store} {c : Collection} (pollDelay : Nat)

theorem tryAcquire_held (at_ : LocksAt collection s c) (plain : w.store = ⟨s, []⟩) (documents : c.options.kind = .document)
    {entry : String × Document} (stored : entry ∈ c.documents) (lock : IsLock collection name entry) :
    ∃ w', (NamedLock.mk (.overStore collection pollDelay) name).tryAcquire.run w = (some (.ok none), w') ∧
      s.SameCollections w'.store.store := by
  obtain ⟨n, -, tried⟩ := at_.tryInsert_held plain documents stored lock
  have acquired := acquire_run pollDelay false tried (absurd · Bool.false_ne_true)
  refine ⟨{ w with store := ⟨{ s with keyCounter := n }, []⟩ }, ?_, fun _ => rfl⟩
  simp only [tryAcquire, Program.mapOk, Program.run_bind, acquired]
  rfl

/-- A lock that is free can be taken unless its collection is one of edges, and what was taken can be given back as if it
had not been. -/
theorem acquire_free (at_ : LocksAt collection s c) (plain : w.store = ⟨s, []⟩) (free : Free collection name s) :
    (c.options.kind ≠ .document ∧ ∃ e,
      (NamedLock.mk (.overStore collection pollDelay) name).acquire.run w = (some (.error e), w)) ∨
    ∃ key document t w', (NamedLock.mk (.overStore collection pollDelay) name).acquire.run w =
        (some (.ok ⟨.overStore collection pollDelay, name, false⟩), w') ∧
      ((overStore collection pollDelay).acquire name true).run w = (some (.ok true), w') ∧ w'.store = ⟨t, []⟩ ∧
      Grown collection name s c key document t ∧
      ∃ w'', (LockGuard.mk (.overStore collection pollDelay) name false).drop.run w' = (some (), w'') ∧
        s.SameCollections w''.store.store := by
  by_cases documents : c.options.kind = .document
  · obtain ⟨key, document, t, tried, grown⟩ := at_.tryInsert_free plain documents free
    have acquired := acquire_run pollDelay true tried fun _ same => by cases same
    have released := release_run (w := { w with store := ⟨t, []⟩ }) rfl grown.now.present grown.now.locks
      (List.mem_append_right _ List.mem_cons_self) grown.lock pollDelay
    refine .inr ⟨key, document, t, _, ?_, acquired, rfl, grown, _, LockGuard.drop_run rfl released, grown.undone⟩
    simp only [acquire, Program.andThen, Program.run_bind, acquired]
    rfl
  · obtain ⟨e, tried⟩ := at_.tryInsert_edges plain documents name
    have acquired := acquire_run pollDelay true tried fun _ same => by cases same
    refine .inl ⟨documents, e, ?_⟩
    simp only [acquire, Program.andThen, Program.run_bind, acquired]
    rfl

end NamedLock

/-! ### A lock in a system of errands -/

namespace LockSystem

open LockBackend

variable {collection name : String} {σ τ : LockSystem} {phase : Nat → LockPhase} {w : World} {guard : LockGuard}

/-- A system can lead to another one: errands make moves, and others do whatever they want to do with the rest of the
store. -/
inductive Leads (collection : String) (σ : LockSystem) : LockSystem → Prop where
  | refl : Leads collection σ σ
  | step {τ : LockSystem} (before : Leads collection σ τ) (m : LockMove) (spares : τ.Spares collection m) :
      Leads collection σ (τ.step collection m)
  | others {τ : LockSystem} (before : Leads collection σ τ) (requests : List Request)
      (spares : τ.store.Spares collection requests) (w : World) (left : w.store = ⟨τ.store.afterAll requests, []⟩) :
      Leads collection σ ⟨w, τ.errands⟩

theorem Sound.leads (sound : Sound collection phase σ) (leads : Leads collection σ τ) :
    ∃ phase', Sound collection phase' τ := by
  induction leads with
  | refl => exact ⟨phase, sound⟩
  | step before m spares ih =>
    obtain ⟨phase', sound'⟩ := ih
    exact sound'.step m spares
  | @others τ before requests spares w left ih =>
    obtain ⟨phase', sound'⟩ := ih
    have store : LockSystem.store ⟨w, τ.errands⟩ = τ.store.afterAll requests := by rw [LockSystem.store, left]
    exact ⟨phase', store ▸ left, store ▸ sound'.locks.stay (.of_spares spares), sound'.errands, sound'.outside⟩

/-- The system with one more errand, which has taken a lock and stored it under a key. -/
def joined (σ : LockSystem) (w : World) (guard : LockGuard) (key : String) : LockSystem :=
  ⟨w, σ.errands ++ [{ program := .done (.holding guard), document := some key }]⟩

theorem Sound.prepared (sound : Sound collection phase σ) {i : Nat} {e : Errand} {backend : LockBackend}
    (there : σ.errands[i]? = some e) (ready : e.program = .done (.ready backend)) : Indexed collection σ.store := by
  have rests := (sound.errands i e there).follows
  rw [ready] at rests
  refine sound.locks.indexed i ?_
  rw [rests.1]
  nofun

theorem Sound.locksAt (sound : Sound collection phase σ) (indexed : Indexed collection σ.store) :
    ∃ c, LocksAt collection σ.store c := by
  obtain ⟨c, present, index⟩ := indexed
  exact ⟨c, present, sound.locks.tidy c present, index⟩

/-- A client that takes a lock alone joins the others. -/
theorem Sound.taken (sound : Sound collection phase σ) (indexed : Indexed collection σ.store) {pollDelay : Nat}
    (acquired : ((overStore collection pollDelay).acquire name true).run σ.world = (some (.ok true), w)) :
    ∃ key phase', Sound collection phase' (σ.joined w ⟨.overStore collection pollDelay, name, false⟩ key) := by
  have away : Locks collection (Function.update phase σ.errands.length (.away name)) σ.store :=
    sound.locks.step (.of_same rfl (Nat.le_refl _)) (.keyless rfl fun _ => indexed)
  obtain ⟨x, t, left, ⟨key, rfl⟩, locks, -⟩ := run_granted (i := σ.errands.length) away sound.plain
    (by rw [Function.update_self]; exact acquire_follows pollDelay name true) acquired
  rw [Function.update_idem] at locks
  have phased : Phased (Errand.Sound collection) .outside σ.errands phase := ⟨sound.errands, sound.outside⟩
  obtain ⟨errands, outside⟩ := phased.concat (x := .holding name key)
    (a := { program := .done (.holding ⟨.overStore collection pollDelay, name, false⟩), document := some key })
    ⟨rfl, fun _ _ => nofun, key, pollDelay, rfl, rfl⟩
  have store : LockSystem.store (σ.joined w ⟨.overStore collection pollDelay, name, false⟩ key) = t := by
    rw [LockSystem.store, joined, left]
  exact ⟨key, _, store ▸ left, store ▸ locks, errands, outside⟩

/-- The lock of a guard is held in a system: nobody else gets it, and it can be given back, which removes nothing but its
document. If the collection of locks is still as it was after the lock had been taken, it is then as it was before. -/
structure Holds (collection : String) (guard : LockGuard) (before after : Store) (σ : LockSystem) : Prop where
  refused : ∃ w, (NamedLock.mk guard.backend guard.name).tryAcquire.run σ.world = (some (.ok none), w) ∧
    σ.store.SameCollections w.store.store
  returned : ∃ w, guard.release.run σ.world = (some (.ok ()), w) ∧ guard.drop.run σ.world = (some (), w) ∧
    GivesBack collection guard.name σ.store w.store.store ∧
    (σ.store.collections.get? collection = after.collections.get? collection →
      w.store.store.collections.get? collection = before.collections.get? collection)

theorem Sound.holds (sound : Sound collection phase σ) {i : Nat} {pollDelay : Nat}
    (held : σ.guard? i = some ⟨.overStore collection pollDelay, name, false⟩) {before after : Store} {c : Collection}
    {key : String} {document : Document} (grown : Grown collection name before c key document after) :
    Holds collection ⟨.overStore collection pollDelay, name, false⟩ before after σ := by
  obtain ⟨e, key', document', -, here, -, found, lock⟩ := sound.holding held
  obtain ⟨d, present, documents⟩ := sound.locks.ofDocuments i key' (by rw [here]; rfl)
  obtain ⟨d', at_⟩ := sound.locksAt (sound.locks.indexed i (by rw [here]; nofun))
  obtain rfl : d = d' := Option.some.inj (present.symm.trans at_.present)
  have stored := Collection.mem_of_find? ((document?_eq present key').symm.trans found)
  have released := release_run sound.plain present at_.locks stored lock pollDelay
  refine ⟨NamedLock.tryAcquire_held pollDelay at_ sound.plain documents stored lock, _, released,
    LockGuard.drop_run rfl released, ⟨⟨d, key', document', present, stored, lock.text?_name, Table.get?_set_self _ _ _⟩,
      fun other different => Table.get?_set_of_ne _ _ different.symm⟩, fun untouched => ?_⟩
  -- names are unique, so that the document that was found is the one that was added
  obtain rfl : c.push key document = d := Option.some.inj ((untouched.trans grown.now.present).symm.trans present)
  obtain ⟨rfl, rfl⟩ := Prod.mk.inj
    (at_.locks.eq_of_name stored (List.mem_append_right _ List.mem_cons_self) lock grown.lock)
  rw [grown.before]
  exact (Table.get?_set_self _ _ _).trans (congrArg some (Collection.remove_push grown.fresh _))

/-- A client has taken the lock of a guard: one document has been stored, and whatever errands do from then on, nobody
else gets the lock until the guard is released or dropped. -/
structure Guarded (collection : String) (σ : LockSystem) (w : World) (guard : LockGuard) : Prop where
  takes : Takes collection guard.name σ.store w.store.store
  holds : ∃ key, ∀ τ, Leads collection (σ.joined w guard key) τ → τ.guard? σ.errands.length = some guard →
    Holds collection guard σ.store w.store.store τ

end LockSystem

namespace RecordCollection

open LockBackend

variable {ρ : Type} [Record ρ] {c : RecordCollection ρ} {key locks : String} {pollDelay : Nat} {w : World} {s t : Store}
  {σ : LockSystem}

omit [Record ρ] in
theorem acquire_eq (configured : c.db.config.lockBackend = some (.overStore locks pollDelay)) (key : String) :
    c.acquire key = (NamedLock.mk (.overStore locks pollDelay) (c.lockName key)).acquire := by
  rw [acquire, lock, configured]

/-- How a call that locks a record has left a system: with the lock of the record if it has answered with its guard, and
with the collections as they were otherwise. -/
def Leaves (c : RecordCollection ρ) (locks : String) (pollDelay : Nat) (key : String) (σ : LockSystem) (w : World) :
    Except ClientError LockGuard → Prop
  | .error _ => σ.store.SameCollections w.store.store
  | .ok guard => guard = ⟨.overStore locks pollDelay, c.lockName key, false⟩ ∧ LockSystem.Guarded locks σ w guard

omit [Record ρ] in
/-- A lock that is free is taken and can be given back at once, unless its collection is one of edges. -/
theorem acquire_cases {phase : Nat → LockPhase} (sound : LockSystem.Sound locks phase σ)
    (indexed : Indexed locks σ.store) (configured : c.db.config.lockBackend = some (.overStore locks pollDelay))
    (free : Free locks (c.lockName key) σ.store) :
    (¬OfDocuments locks σ.store ∧ ∃ e, (c.acquire key).run σ.world = (some (.error e), σ.world)) ∨
    ∃ guard w t, (c.acquire key).run σ.world = (some (.ok guard), w) ∧ Leaves c locks pollDelay key σ w (.ok guard) ∧
      w.store = ⟨t, []⟩ ∧ (∀ other, other ≠ locks → t.collections.get? other = σ.store.collections.get? other) ∧
      ∃ w', guard.drop.run w = (some (), w') ∧ σ.store.SameCollections w'.store.store := by
  obtain ⟨l, at_⟩ := sound.locksAt indexed
  rw [acquire_eq configured]
  rcases NamedLock.acquire_free pollDelay at_ sound.plain free with
    ⟨edges, failed⟩ | ⟨own, document, t, w, taken, acquired, left, grown, dropped⟩
  · refine .inl ⟨?_, failed⟩
    rintro ⟨l', present, documents⟩
    obtain rfl : l = l' := Option.some.inj (at_.present.symm.trans present)
    exact edges documents
  · have after : w.store.store = t := by rw [left]
    obtain ⟨entry, phase', joined⟩ := sound.taken indexed acquired
    refine .inr ⟨_, w, t, taken, ⟨rfl, ?_, entry, fun τ leads held => ?_⟩, left, grown.elsewhere, dropped⟩
    · rw [after]
      exact grown.takes
    · obtain ⟨phase'', later⟩ := joined.leads leads
      exact later.holds held (after ▸ grown)

theorem lockAndLoad_leaves {phase : Nat → LockPhase} (sound : LockSystem.Sound locks phase σ)
    (indexed : Indexed locks σ.store) (configured : c.db.config.lockBackend = some (.overStore locks pollDelay))
    (separate : c.name ≠ locks) (free : Free locks (c.lockName key) σ.store) :
    ∃ result w, (c.lockAndLoad key).run σ.world = (some result, w) ∧
      Leaves c locks pollDelay key σ w (result.map Prod.snd) ∧
      (OfDocuments locks σ.store → result.map Prod.fst = c.loaded key σ.store) := by
  rcases acquire_cases sound indexed configured free with
    ⟨edges, e, failed⟩ | ⟨guard, w, t, taken, leaves, left, elsewhere, w', dropped, same⟩
  · refine ⟨.error e, σ.world, ?_, fun _ => rfl, fun documents => absurd documents edges⟩
    rw [lockAndLoad, Program.andThen, Program.run_bind, failed]
    rfl
  have found := load_run (c := c) left key
  rw [loaded_congr (elsewhere c.name separate)] at found
  rw [lockAndLoad, Program.andThen, Program.run_bind, taken]
  dsimp only
  rw [Program.run_bind, found]
  cases c.loaded key σ.store with
  | error e =>
    refine ⟨.error e, w', ?_, same, fun _ => rfl⟩
    dsimp only
    rw [Program.run_bind, dropped]
    rfl
  | ok r => exact ⟨.ok (r, guard), w, rfl, leaves, fun _ => rfl⟩

theorem lockAndReload_leaves {phase : Nat → LockPhase} (sound : LockSystem.Sound locks phase σ)
    (indexed : Indexed locks σ.store) (configured : c.db.config.lockBackend = some (.overStore locks pollDelay))
    (separate : c.name ≠ locks) {r : ρ} (keyed : Record.key r = some key) (free : Free locks (c.lockName key) σ.store) :
    ∃ result r' w, (c.lockAndReload r).run σ.world = (some (result, r'), w) ∧
      Leaves c locks pollDelay key σ w result ∧ (result.isOk = false → r' = r) ∧
      (OfDocuments locks σ.store → result.map (fun _ => r') = c.loaded key σ.store) := by
  have asked : ∀ action, keyFor action r = .ok key := fun action => by rw [keyFor, keyed]
  rw [lockAndReload, asked]
  dsimp only
  rw [Program.run_bind]
  rcases acquire_cases sound indexed configured free with
    ⟨edges, e, failed⟩ | ⟨guard, w, t, taken, leaves, left, elsewhere, w', dropped, same⟩
  · rw [failed]
    exact ⟨.error e, r, σ.world, rfl, fun _ => rfl, fun _ => rfl, fun documents => absurd documents edges⟩
  have found := load_run (c := c) left key
  rw [loaded_congr (elsewhere c.name separate)] at found
  rw [taken]
  dsimp only
  rw [Program.run_bind, reload, asked]
  dsimp only
  rw [Program.run_bind, found]
  cases c.loaded key σ.store with
  | error e =>
    refine ⟨.error e, r, w', ?_, same, fun _ => rfl, fun _ => rfl⟩
    dsimp only [Program.run_done]
    rw [Program.run_bind, dropped]
    rfl
  | ok r' => exact ⟨.ok guard, r', w, rfl, leaves, nofun, fun _ => rfl⟩

/-- A record is locked exactly if locking and loading it has succeeded. A client finds the lock of a record free, in any
state that others and errands over a collection of locks have led to after one of these has prepared it. If the record
cannot be loaded, all collections are what they were, and a record that was to be loaded again is unchanged. Otherwise
the client has got what is stored, and it has the lock. -/
theorem locked_iff_ok (configured : c.db.config.lockBackend = some (.overStore locks pollDelay))
    (separate : c.name ≠ locks) {start : LockSystem} (reachable : LockSystem.Reachable locks start)
    (leads : LockSystem.Leads locks start σ)
    (ready : ∃ (i : Nat) (e : Errand) (backend : LockBackend),
      σ.errands[i]? = some e ∧ e.program = .done (.ready backend)) :
    (∀ key, Free locks (c.lockName key) σ.store →
      ∃ result w, (c.lockAndLoad key).run σ.world = (some result, w) ∧
        Leaves c locks pollDelay key σ w (result.map Prod.snd) ∧
        (OfDocuments locks σ.store → result.map Prod.fst = c.loaded key σ.store)) ∧
    (∀ (r : ρ) key, Record.key r = some key → Free locks (c.lockName key) σ.store →
      ∃ result r' w, (c.lockAndReload r).run σ.world = (some (result, r'), w) ∧
        Leaves c locks pollDelay key σ w result ∧ (result.isOk = false → r' = r) ∧
        (OfDocuments locks σ.store → result.map (fun _ => r') = c.loaded key σ.store)) ∧
    ∀ r : ρ, Record.key r = none →
      (c.lockAndReload r).run σ.world =
        (some (.error (.modelNotFound (.withoutKey "lock" (Record.typeName ρ))), r), σ.world) := by
  obtain ⟨before, started⟩ := reachable.sound
  obtain ⟨phase, sound⟩ := started.leads leads
  obtain ⟨i, e, backend, there, rests⟩ := ready
  have indexed := sound.prepared there rests
  refine ⟨fun key free => lockAndLoad_leaves sound indexed configured separate free,
    fun r key keyed free => lockAndReload_leaves sound indexed configured separate keyed free, fun r keyless => ?_⟩
  rw [lockAndReload, keyFor, keyless]
  rfl

/-- After a backend has been prepared a record is inserted. A client locks it, and it does not lock one that is missing. -/
theorem stored_record_locked :
    let c : RecordCollection Sample.Identity := ⟨{ config := { lockBackend := some (.overStore "locks" 0) } }, "c"⟩
    let moves : List LockMove := .prepare :: List.replicate 3 (.act 0 {})
    let start := moves.foldl (LockSystem.step "locks") ⟨World.empty 1, []⟩
    let s := start.store.afterAll [.createCollection "c" {}, .insert "c" [("_key", .string "k"), ("name", .string "x")]]
    let σ : LockSystem := ⟨{ start.world with store := ⟨s, []⟩ }, start.errands⟩
    LockSystem.Reachable "locks" start ∧ LockSystem.Leads "locks" start σ ∧
    (∃ r guard w, (c.lockAndLoad "k").run σ.world = (some (.ok (r, guard)), w) ∧ r.name = "x" ∧
      guard.name = c.lockName "k" ∧ LockSystem.Guarded "locks" σ w guard) ∧
    ∃ e w, (c.lockAndLoad "m").run σ.world = (some (.error e), w) ∧ σ.store.SameCollections w.store.store := by
  intro c moves start s σ
  have reachable : LockSystem.Reachable "locks" start := by
    refine LockSystem.Reachable.alone (.start (World.empty 1) (Store.empty 1) rfl ?_) moves rfl
    rintro _ ⟨⟩
  have leads : LockSystem.Leads "locks" start σ := .others .refl [_, _] ⟨rfl, rfl, trivial⟩ _ rfl
  have free : ∀ name, Free "locks" name σ.store := by
    rintro name key document ⟨⟩
  obtain ⟨loads, -, -⟩ := locked_iff_ok (c := c) rfl (by decide) reachable leads ⟨0, _, _, rfl, rfl⟩
  have documents : OfDocuments "locks" σ.store := ⟨_, rfl, rfl⟩
  have there : (c.loaded "k" σ.store).map Sample.Identity.name = .ok "x" := rfl
  have missing : (c.loaded "m" σ.store).isOk = false := rfl
  refine ⟨reachable, leads, ?_, ?_⟩
  · obtain ⟨result, w, ran, leaves, came⟩ := loads "k" (free _)
    rw [← came documents] at there
    rcases result with e | ⟨r, guard⟩
    · cases there
    · obtain ⟨rfl, guarded⟩ := leaves
      exact ⟨r, _, w, ran, Except.ok.inj there, rfl, guarded⟩
  · obtain ⟨result, w, ran, leaves, came⟩ := loads "m" (free _)
    rw [← came documents] at missing
    rcases result with e | result
    · exact ⟨e, w, ran, leaves⟩
    · cases missing

end RecordCollection
end RecordStore
