import RecordStore.Proofs.Client.RecordLock

/-!
# Names of locks

The lock of a record is named after its collection and its key, with an underscore between them that both may contain.
`lockName_eq_iff` says which records share a lock; within one collection there are none. Records that do not share a lock
do not see each other's: whether one of the locks is held makes no difference to a client that takes the other one
(`locks_apart`).
-/

namespace RecordStore

/-! ### Names that are joined -/

/-- A second name goes on where the first one ends, with a text that the key of the first one begins with. -/
def Crosses (name key other otherKey : String) : Prop :=
  ∃ t, other = name ++ "_" ++ t ∧ key = t ++ "_" ++ otherKey

/-- One text may be the beginning of the other, up to an underscore. -/
theorem joined_chars {xs ks ys ms : List Char} (same : xs ++ '_' :: ks = ys ++ '_' :: ms) :
    xs = ys ∧ ks = ms ∨ (∃ ts, ys = xs ++ '_' :: ts ∧ ks = ts ++ '_' :: ms) ∨
      ∃ ts, xs = ys ++ '_' :: ts ∧ ms = ts ++ '_' :: ks := by
  rcases List.append_eq_append_iff.mp same with ⟨more, rfl, rest⟩ | ⟨more, rfl, rest⟩
  · cases more with
    | nil => exact .inl ⟨(List.append_nil _).symm, (List.cons.inj rest).2⟩
    | cons first ts =>
      obtain ⟨rfl, keys⟩ := List.cons.inj rest
      exact .inr (.inl ⟨ts, rfl, keys⟩)
  · cases more with
    | nil => exact .inl ⟨List.append_nil _, (List.cons.inj rest).2.symm⟩
    | cons first ts =>
      obtain ⟨rfl, keys⟩ := List.cons.inj rest
      exact .inr (.inr ⟨ts, rfl, keys⟩)

theorem toList_joined (name key : String) : (name ++ "_" ++ key).toList = name.toList ++ '_' :: key.toList := by
  simp

theorem Crosses.joined {name key other otherKey : String} (crosses : Crosses name key other otherKey) :
    name ++ "_" ++ key = other ++ "_" ++ otherKey := by
  obtain ⟨t, rfl, rfl⟩ := crosses
  simp only [String.append_assoc]

theorem crosses_of_chars {name key other otherKey : String}
    (chars : ∃ ts, other.toList = name.toList ++ '_' :: ts ∧ key.toList = ts ++ '_' :: otherKey.toList) :
    Crosses name key other otherKey := by
  obtain ⟨ts, goes, begins⟩ := chars
  refine ⟨String.ofList ts, String.toList_inj.mp ?_, String.toList_inj.mp ?_⟩
  · rw [toList_joined, goes, String.toList_ofList]
  · rw [toList_joined, begins, String.toList_ofList]

/-- Which names and keys are the same when they are joined. -/
theorem joined_eq_iff (name key other otherKey : String) :
    name ++ "_" ++ key = other ++ "_" ++ otherKey ↔
      name = other ∧ key = otherKey ∨ Crosses name key other otherKey ∨ Crosses other otherKey name key := by
  constructor
  · intro same
    have chars := congrArg String.toList same
    rw [toList_joined, toList_joined] at chars
    rcases joined_chars chars with ⟨names, keys⟩ | there | here
    · exact .inl ⟨String.toList_inj.mp names, String.toList_inj.mp keys⟩
    · exact .inr (.inl (crosses_of_chars there))
    · exact .inr (.inr (crosses_of_chars here))
  · rintro (⟨rfl, rfl⟩ | there | here)
    · rfl
    · exact there.joined
    · exact here.joined.symm

/-! ### Locks side by side -/

namespace LockBackend

variable {collection name other : String} {w : World} {s : Store} {c : Collection}

theorem LocksAt.remove (at_ : LocksAt collection s c) (key : String) :
    LocksAt collection (s.setCollection collection (c.remove key)) (c.remove key) :=
  ⟨Table.get?_set_self _ _ _, at_.locks.remove key, at_.indexed⟩

theorem LocksAt.free_iff (at_ : LocksAt collection s c) :
    Free collection name s ↔ ∀ entry ∈ c.documents, ¬IsLock collection name entry := by
  refine ⟨at_.unused, fun none key document found named => ?_⟩
  rw [document?_eq at_.present] at found
  have stored := Collection.mem_of_find? found
  obtain ⟨name', lock⟩ := at_.locks.locks _ stored
  obtain rfl : name' = name := Option.some.inj (lock.text?_name.symm.trans named)
  exact none _ stored lock

theorem LocksAt.free_remove (at_ : LocksAt collection s c) {entry : String × Document} (stored : entry ∈ c.documents)
    (lock : IsLock collection name entry) (different : other ≠ name) :
    Free collection other (s.setCollection collection (c.remove entry.1)) ↔ Free collection other s := by
  rw [at_.free_iff, (at_.remove entry.1).free_iff]
  refine ⟨fun none held listed found => ?_, fun none held listed => ?_⟩
  · by_cases same : held.1 = entry.1
    · have one : held.2 = entry.2 := Option.some.inj
        ((Collection.find?_of_mem at_.locks.keyed listed).symm.trans
          (same ▸ Collection.find?_of_mem at_.locks.keyed stored))
      have names := found.text?_name
      rw [one, lock.text?_name] at names
      exact different (Option.some.inj names).symm
    · exact none held (Collection.mem_remove_of_ne listed same) found
  · exact none held ((c.remove_sublist entry.1).subset listed)

/-- A client that waits for a lock that somebody else holds does not get it, however often it tries. -/
theorem insertWithin_held (at_ : LocksAt collection s c) (plain : w.store = ⟨s, []⟩)
    (documents : c.options.kind = .document) {entry : String × Document} (stored : entry ∈ c.documents)
    (lock : IsLock collection name entry) (tries : Nat) :
    ((insertWithin collection name tries).run w).1 = none := by
  induction tries generalizing w s with
  | zero => rfl
  | succ tries ih =>
    obtain ⟨n, later, tried⟩ := at_.tryInsert_held plain documents stored lock
    rw [insertWithin, Program.run_bind, tried]
    exact ih (s := { s with keyCounter := n }) ⟨at_.present, at_.locks.mono later, at_.indexed⟩ rfl

end LockBackend

namespace NamedLock

open LockBackend

variable {collection : String} {w w' : World} {s t : Store} {c d : Collection} {l : NamedLock} {pollDelay : Nat}

theorem free_taken (at_ : LocksAt collection s c) (plain : w.store = ⟨s, []⟩) (documents : c.options.kind = .document)
    (stores : l.backend = .overStore collection pollDelay) (free : Free collection l.name s) :
    (l.tryAcquire.run w).1 = some (.ok (some l.held)) ∧ (l.acquire.run w).1 = some (.ok l.held) := by
  obtain ⟨key, document, t, tried, -⟩ := at_.tryInsert_free plain documents free
  have once := acquire_run pollDelay false tried fun _ same => by cases same
  have waiting := acquire_run pollDelay true tried fun _ same => by cases same
  rw [← stores] at once waiting
  constructor
  · simp only [tryAcquire, Program.mapOk, Program.run_bind, once]
    rfl
  · simp only [acquire, Program.andThen, Program.run_bind, waiting]
    rfl

/-- A lock that is held is not given to a client that tries once, and a client that waits for it stalls. -/
theorem held_refused (at_ : LocksAt collection s c) (plain : w.store = ⟨s, []⟩) (documents : c.options.kind = .document)
    (stores : l.backend = .overStore collection pollDelay) (held : ¬Free collection l.name s) :
    (l.tryAcquire.run w).1 = some (.ok none) ∧ (l.acquire.run w).1 = none := by
  rw [at_.free_iff] at held
  push Not at held
  obtain ⟨entry, stored, lock⟩ := held
  obtain ⟨w', tried, -⟩ := tryAcquire_held pollDelay at_ plain documents stored lock
  constructor
  · rw [show l = ⟨.overStore collection pollDelay, l.name⟩ from stores ▸ rfl, tried]
  · have waits := insertWithin_held at_ plain documents stored lock w.store.patience
    rw [acquire, stores, Program.andThen, Program.run_bind,
      show ((LockBackend.overStore collection pollDelay).acquire l.name true).run w =
        (insertWithin collection l.name w.store.patience).run w from rfl]
    generalize (insertWithin collection l.name w.store.patience).run w = outcome at waits ⊢
    obtain ⟨result, w'⟩ := outcome
    obtain rfl : result = none := waits
    rfl

/-- Whether a lock can be had depends on nothing but whether it is free. -/
theorem same_answers (at_ : LocksAt collection s c) (plain : w.store = ⟨s, []⟩) (documents : c.options.kind = .document)
    (later : LocksAt collection t d) (left : w'.store = ⟨t, []⟩) (kept : d.options.kind = .document)
    (stores : l.backend = .overStore collection pollDelay)
    (same : Free collection l.name t ↔ Free collection l.name s) :
    (l.tryAcquire.run w').1 = (l.tryAcquire.run w).1 ∧ (l.acquire.run w').1 = (l.acquire.run w).1 := by
  by_cases free : Free collection l.name s
  · obtain ⟨once, waiting⟩ := free_taken at_ plain documents stores free
    obtain ⟨once', waiting'⟩ := free_taken later left kept stores (same.mpr free)
    exact ⟨once'.trans once.symm, waiting'.trans waiting.symm⟩
  · obtain ⟨once, waiting⟩ := held_refused at_ plain documents stores free
    obtain ⟨once', waiting'⟩ := held_refused later left kept stores (mt same.mp free)
    exact ⟨once'.trans once.symm, waiting'.trans waiting.symm⟩

end NamedLock

namespace LockSystem

open LockBackend

variable {collection name : String} {σ : LockSystem} {phase : Nat → LockPhase}

/-- Whether a lock is held makes no difference to a client that takes another one: once the lock has been given back,
the client comes to what it would have come to before, and it gets the other lock if that is free. -/
structure Unaffected (collection : String) (σ : LockSystem) (guard : LockGuard) (l : NamedLock) : Prop where
  alike : ∃ w, guard.release.run σ.world = (some (.ok ()), w) ∧ (l.tryAcquire.run w).1 = (l.tryAcquire.run σ.world).1 ∧
    (l.acquire.run w).1 = (l.acquire.run σ.world).1
  granted : Free collection l.name σ.store →
    (l.tryAcquire.run σ.world).1 = some (.ok (some l.held)) ∧ (l.acquire.run σ.world).1 = some (.ok l.held)

theorem Sound.unaffected (sound : Sound collection phase σ) {i : Nat} {pollDelay : Nat}
    (held : σ.guard? i = some ⟨.overStore collection pollDelay, name, false⟩) {l : NamedLock}
    (stores : l.backend = .overStore collection pollDelay) (different : l.name ≠ name) :
    Unaffected collection σ ⟨.overStore collection pollDelay, name, false⟩ l := by
  obtain ⟨e, key, document, -, here, -, found, lock⟩ := sound.holding held
  obtain ⟨c, present, documents⟩ := sound.locks.ofDocuments i key (by rw [here]; rfl)
  obtain ⟨c', at_⟩ := sound.locksAt (sound.locks.indexed i (by rw [here]; nofun))
  obtain rfl : c = c' := Option.some.inj (present.symm.trans at_.present)
  have stored := Collection.mem_of_find? ((document?_eq present key).symm.trans found)
  have released := release_run sound.plain present at_.locks stored lock pollDelay
  exact ⟨⟨_, released, NamedLock.same_answers at_ sound.plain documents (at_.remove key) rfl documents stores
    (at_.free_remove stored lock different)⟩, NamedLock.free_taken at_ sound.plain documents stores⟩

end LockSystem

namespace RecordCollection

open LockBackend

variable {ρ τ : Type}

/-- Two records whose locks have the same name: the same record, or two whose names and keys cross. -/
theorem lockName_eq_iff {c : RecordCollection ρ} {d : RecordCollection τ}
    (prefixed : d.db.config.lockNamePrefix = c.db.config.lockNamePrefix) (key otherKey : String) :
    c.lockName key = d.lockName otherKey ↔
      c.name = d.name ∧ key = otherKey ∨ Crosses c.name key d.name otherKey ∨ Crosses d.name otherKey c.name key := by
  rw [← joined_eq_iff, lockName, lockName, prefixed]
  simp only [String.append_assoc]
  exact String.append_right_inj _

/-- A record of people and one of the people archive share a lock: while a client holds the one, nobody gets the other, and
a client that waits for it stalls, even the same client. -/
theorem crossing_records_share_lock :
    let backend : LockBackend := .overStore "locks" 0
    let people : RecordCollection Sample.Identity := ⟨{ config := { lockBackend := some backend } }, "people"⟩
    let archive : RecordCollection Sample.Identity := ⟨{ config := { lockBackend := some backend } }, "people_archive"⟩
    let prepared := ((LockBackend.prepare "locks").run (World.empty 1)).2
    let holding := ((people.acquire "archive_1").run prepared).2
    Store.isKey "archive_1" = true ∧ Store.isKey "1" = true ∧ people.name ≠ archive.name ∧
      people.lockName "archive_1" = archive.lockName "1" ∧
      ((people.acquire "archive_1").run prepared).1 = some (.ok ⟨backend, people.lockName "archive_1", false⟩) ∧
      ((NamedLock.mk backend (archive.lockName "1")).tryAcquire.run holding).1 = some (.ok none) ∧
      ((archive.acquire "1").run prepared).1 = some (.ok ⟨backend, archive.lockName "1", false⟩) ∧
      ((archive.acquire "1").run holding).1 = none := by
  decide +kernel

theorem not_crosses_self (name key otherKey : String) : ¬Crosses name key name otherKey := by
  rintro ⟨t, same, -⟩
  have lengths := congrArg String.length same
  simp only [String.length_append] at lengths
  have one : "_".length = 1 := rfl
  omega

/-- Which records share a lock, and that no other two get into each other's way. Under one prefix two records have the
same lock exactly if they are the same record or their names and keys cross: the name of one collection goes on after
that of the other with an underscore and a text that the key of the other begins with, up to an underscore and the key of
the one. In one collection different keys therefore have different locks. And in any state that errands over a
collection of locks lead to, where one of them holds the lock of a record, a client that takes a lock of another name
comes to what it would come to if the first lock were given back, and gets the lock unless it is held itself. -/
theorem locks_apart (c : RecordCollection ρ) (d : RecordCollection τ) (configured : d.db.config = c.db.config)
    (key otherKey : String) :
    (c.lockName key = d.lockName otherKey ↔
      c.name = d.name ∧ key = otherKey ∨ Crosses c.name key d.name otherKey ∨ Crosses d.name otherKey c.name key) ∧
    (c.name = d.name → c.lockName key = d.lockName otherKey → key = otherKey) ∧
    ∀ locks pollDelay, c.db.config.lockBackend = some (.overStore locks pollDelay) →
      ∀ start σ, LockSystem.Reachable locks start → LockSystem.Leads locks start σ →
      ∀ i, σ.guard? i = some ⟨.overStore locks pollDelay, c.lockName key, false⟩ →
        c.lockName key ≠ d.lockName otherKey →
        ∃ l, d.lock otherKey = .ok l ∧
          LockSystem.Unaffected locks σ ⟨.overStore locks pollDelay, c.lockName key, false⟩ l := by
  have named := lockName_eq_iff (c := c) (d := d) (by rw [configured]) key otherKey
  refine ⟨named, fun sameName same => ?_, fun locks pollDelay backed start σ reachable leads i held different => ?_⟩
  · rcases named.mp same with ⟨-, keys⟩ | there | here
    · exact keys
    · exact absurd (sameName ▸ there) (not_crosses_self _ _ _)
    · exact absurd (sameName ▸ here) (not_crosses_self _ _ _)
  · obtain ⟨before, started⟩ := reachable.sound
    obtain ⟨phase, sound⟩ := started.leads leads
    refine ⟨⟨.overStore locks pollDelay, d.lockName otherKey⟩, ?_, sound.unaffected held rfl different.symm⟩
    rw [lock, configured, backed]

/-- While a client holds the lock of one person, another one takes that of a person of the archive. -/
theorem archive_locked_beside :
    let config : Config := { lockBackend := some (.overStore "locks" defaultPollDelay) }
    let people : RecordCollection Sample.Identity := ⟨{ config := config }, "people"⟩
    let archive : RecordCollection Sample.Identity := ⟨{ config := config }, "people_archive"⟩
    let moves : List LockMove := .prepare :: List.replicate 3 (.act 0 {}) ++
      .take 0 (people.lockName "1") false :: List.replicate 2 (.act 1 {})
    let σ := moves.foldl (LockSystem.step "locks") ⟨World.empty 1, []⟩
    LockSystem.Reachable "locks" σ ∧
      σ.guard? 1 = some ⟨.overStore "locks" defaultPollDelay, people.lockName "1", false⟩ ∧
      people.lockName "1" ≠ archive.lockName "1" ∧
      ∃ l, archive.lock "1" = .ok l ∧ (l.tryAcquire.run σ.world).1 = some (.ok (some l.held)) := by
  intro config people archive moves σ
  have reachable : LockSystem.Reachable "locks" σ := by
    refine LockSystem.Reachable.alone (.start (World.empty 1) (Store.empty 1) rfl ?_) moves rfl
    rintro _ ⟨⟩
  have held : σ.guard? 1 = some ⟨.overStore "locks" defaultPollDelay, people.lockName "1", false⟩ := by decide +kernel
  have different : people.lockName "1" ≠ archive.lockName "1" := by decide +kernel
  have free : Free "locks" (archive.lockName "1") σ.store := by
    have others : (σ.store.collections.get? "locks").all (fun c => c.documents.all fun entry =>
        entry.2.text? "name" != some (archive.lockName "1")) = true := by decide +kernel
    intro key document found
    obtain ⟨c, present, here⟩ := Option.bind_eq_some_iff.mp found
    rw [present] at others
    simpa using List.all_eq_true.mp others _ (Collection.mem_of_find? here)
  obtain ⟨-, -, apart⟩ := locks_apart people archive rfl "1" "1"
  obtain ⟨l, found, unaffected⟩ := apart "locks" defaultPollDelay rfl σ σ reachable .refl 1 held different
  obtain rfl : NamedLock.mk (.overStore "locks" defaultPollDelay) (archive.lockName "1") = l := Except.ok.inj found
  exact ⟨reachable, held, different, _, found, (unaffected.granted free).1⟩

end RecordCollection
end RecordStore
