import RecordStore.Proofs.Client.LockProtocol
import RecordStore.Proofs.Client.Turn
import RecordStore.Proofs.Store.Atomicity

/-!
# The invariant of locks

`Locks` ties the phases of any number of clients to the collection of locks that they share: the lock of a client is
stored from the moment when its insert is answered until its deletion is, no two clients have the same key, and a key
that has been given back is never stored again. So no two locks that are stored have the same name. What one request may
do to the collection is said once (`LockStep`), for requests of the protocol and for those of others alike.
-/

namespace RecordStore

namespace Store

def Spares (s : Store) (collection : String) : List Request → Prop
  | [] => True
  | r :: rest =>
    (s.answer r).2.collections.get? collection = s.collections.get? collection ∧ (s.answer r).2.Spares collection rest

theorem Spares.same {s : Store} {collection : String} {requests : List Request}
    (spares : s.Spares collection requests) :
    (s.afterAll requests).collections.get? collection = s.collections.get? collection := by
  induction requests generalizing s with
  | nil => rfl
  | cons r rest ih => exact (ih spares.2).trans spares.1

end Store

namespace LockBackend

variable {collection : String} {s t u : Store} {own : Option String}

/-- Only lock backends have written to the collection. -/
def Tidy (collection : String) (s : Store) : Prop :=
  ∀ c, s.collections.get? collection = some c → LockCollection collection s.keyCounter c

def Indexed (collection : String) (s : Store) : Prop :=
  ∃ c, s.collections.get? collection = some c ∧ ∃ index ∈ c.indexes, index.alike nameIndex = true

def OfDocuments (collection : String) (s : Store) : Prop :=
  ∃ c, s.collections.get? collection = some c ∧ c.options.kind = .document

/-- What a request may do to the collection of locks, if the lock under a key of the client's own is its business. -/
structure LockStep (collection : String) (own : Option String) (s t : Store) : Prop where
  numbers : s.keyCounter ≤ t.keyCounter
  tidy : Tidy collection s → Tidy collection t
  indexed : Indexed collection s → Indexed collection t
  ofDocuments : OfDocuments collection s → OfDocuments collection t
  kept : ∀ key document, s.document? collection key = some document → own ≠ some key →
    t.document? collection key = some document
  gone : ∀ n ≤ s.keyCounter, s.document? collection (toString n) = none → t.document? collection (toString n) = none

namespace LockStep

theorem of_same (same : t.collections.get? collection = s.collections.get? collection)
    (numbers : s.keyCounter ≤ t.keyCounter) : LockStep collection own s t := by
  have documents : ∀ key, t.document? collection key = s.document? collection key := by
    intro key
    unfold Store.document?
    rw [same]
  refine ⟨numbers, fun tidy c present => ?_, ?_, ?_, fun key document found _ => ?_, fun n _ none => ?_⟩
  · exact (tidy c (same ▸ present)).mono numbers
  · rintro ⟨c, present, indexed⟩
    exact ⟨c, same.trans present, indexed⟩
  · rintro ⟨c, present, kind⟩
    exact ⟨c, same.trans present, kind⟩
  · exact (documents key).trans found
  · exact (documents _).trans none

theorem trans (first : LockStep collection own s t) (second : LockStep collection own t u) :
    LockStep collection own s u where
  numbers := Nat.le_trans first.numbers second.numbers
  tidy := second.tidy ∘ first.tidy
  indexed := second.indexed ∘ first.indexed
  ofDocuments := second.ofDocuments ∘ first.ofDocuments
  kept key document found other := second.kept key document (first.kept key document found other) other
  gone n small none := second.gone n (Nat.le_trans small first.numbers) (first.gone n small none)

theorem of_spares {requests : List Request} (spares : s.Spares collection requests) :
    LockStep collection own s (s.afterAll requests) :=
  of_same spares.same (s.afterAll_keyCounter requests)

theorem of_set {c c' : Collection} (present : s.collections.get? collection = some c)
    (set : t.collections = s.collections.set collection c') (numbers : s.keyCounter ≤ t.keyCounter)
    (tidy : LockCollection collection s.keyCounter c → LockCollection collection t.keyCounter c')
    (indexes : ∀ index ∈ c.indexes, index ∈ c'.indexes) (options : c'.options = c.options)
    (kept : ∀ key document, c.find? key = some document → own ≠ some key → c'.find? key = some document)
    (gone : ∀ n ≤ s.keyCounter, c.find? (toString n) = none → c'.find? (toString n) = none) :
    LockStep collection own s t := by
  have now : t.collections.get? collection = some c' := by rw [set, Table.get?_set_self]
  have before : ∀ key, s.document? collection key = c.find? key := by simp [Store.document?, present]
  have later : ∀ key, t.document? collection key = c'.find? key := by simp [Store.document?, now]
  refine ⟨numbers, fun neat d here => ?_, ?_, ?_, fun key document found other => ?_, fun n small none => ?_⟩
  · obtain rfl : c' = d := Option.some.inj (now.symm.trans here)
    exact tidy (neat c present)
  · rintro ⟨d, here, index, listed, alike⟩
    obtain rfl : c = d := Option.some.inj (present.symm.trans here)
    exact ⟨c', now, index, indexes index listed, alike⟩
  · rintro ⟨d, here, kind⟩
    obtain rfl : c = d := Option.some.inj (present.symm.trans here)
    exact ⟨c', now, by rw [options, kind]⟩
  · rw [before] at found
    rw [later]
    exact kept key document found other
  · rw [before] at none
    rw [later]
    exact gone n small none

end LockStep

/-! ### Clients and their locks -/

theorem document?_eq {c : Collection} (present : s.collections.get? collection = some c) (key : String) :
    s.document? collection key = c.find? key := by
  simp [Store.document?, present]

/-- What the collection shows of the phases of its clients. -/
structure Locks (collection : String) (phase : Nat → LockPhase) (s : Store) : Prop where
  tidy : Tidy collection s
  indexed : ∀ i, phase i ≠ .outside → Indexed collection s
  stored : ∀ i name key, (phase i).stored? = some (name, key) →
    ∃ document, s.document? collection key = some document ∧ IsLock collection name (key, document)
  gone : ∀ i name key, phase i = .gone name key → s.document? collection key = none
  numbered : ∀ i key, (phase i).key? = some key → ∃ n ≤ s.keyCounter, key = toString n
  distinct : ∀ i j key, (phase i).key? = some key → (phase j).key? = some key → i = j
  ofDocuments : ∀ i key, (phase i).key? = some key → OfDocuments collection s

namespace Locks

variable {phase : Nat → LockPhase}

/-- What has to be shown of a client that enters a phase. -/
structure Enters (collection : String) (x y : LockPhase) (s t : Store) : Prop where
  indexed : y ≠ .outside → Indexed collection t
  stored : ∀ name key, y.stored? = some (name, key) →
    ∃ document, t.document? collection key = some document ∧ IsLock collection name (key, document)
  gone : ∀ name key, y = .gone name key → t.document? collection key = none
  key : ∀ key, y.key? = some key → OfDocuments collection t ∧
    (x.key? = some key ∨ ∃ n, s.keyCounter < n ∧ n ≤ t.keyCounter ∧ key = toString n)

theorem of_unused (unused : ∀ c, s.collections.get? collection = some c → c.documents = [] ∧ c.indexes = []) :
    Locks collection (fun _ => .outside) s := by
  refine ⟨fun c present => ?_, fun i inside => absurd rfl inside, fun _ _ _ => nofun, fun _ _ _ => nofun,
    fun _ _ => nofun, fun _ _ _ => nofun, fun _ _ => nofun⟩
  obtain ⟨documents, indexes⟩ := unused c present
  exact ⟨by simp [Collection.keys, documents], by simp [documents], by simp [documents], by simp [documents],
    by simp [indexes]⟩

/-- A client may enter a phase with a step that leaves the locks of the others alone. -/
theorem step (locks : Locks collection phase s) {i : Nat} {y : LockPhase}
    (step : LockStep collection (phase i).key? s t) (enters : Enters collection (phase i) y s t) :
    Locks collection (Function.update phase i y) t := by
  have others : ∀ j, j ≠ i → Function.update phase i y j = phase j := fun j other =>
    Function.update_of_ne other y phase
  have self : Function.update phase i y i = y := Function.update_self ..
  have old : ∀ j key, (phase j).key? = some key → ∃ n ≤ s.keyCounter, key = toString n := locks.numbered
  -- a key of the client is its old one or a new number, and no other client has either
  have apart : ∀ j key, j ≠ i → y.key? = some key → (phase j).key? ≠ some key := by
    intro j key other keyed same
    rcases (enters.key key keyed).2 with before | ⟨n, new, -, rfl⟩
    · exact other (locks.distinct j i key same before)
    · obtain ⟨m, small, number⟩ := old j _ same
      have := Store.toString_injective number
      omega
  refine ⟨step.tidy locks.tidy, fun j inside => ?_, fun j name key stored => ?_, fun j name key gone => ?_,
    fun j key keyed => ?_, fun j k key keyed sameKey => ?_, fun j key keyed => ?_⟩
  · by_cases same : j = i
    · subst same
      exact enters.indexed (self ▸ inside)
    · exact step.indexed (locks.indexed j (others j same ▸ inside))
  · by_cases same : j = i
    · subst same
      exact enters.stored name key (self ▸ stored)
    · rw [others j same] at stored
      obtain ⟨document, found, lock⟩ := locks.stored j name key stored
      refine ⟨document, step.kept key document found fun mine => same ?_, lock⟩
      exact locks.distinct j i key (LockPhase.key?_of_stored? stored) mine
  · by_cases same : j = i
    · subst same
      exact enters.gone name key (self ▸ gone)
    · rw [others j same] at gone
      obtain ⟨n, small, rfl⟩ := old j key (by rw [gone]; rfl)
      exact step.gone n small (locks.gone j name _ gone)
  · by_cases same : j = i
    · subst same
      rcases (enters.key key (self ▸ keyed)).2 with before | ⟨n, -, small, number⟩
      · obtain ⟨n, small, number⟩ := old j key before
        exact ⟨n, Nat.le_trans small step.numbers, number⟩
      · exact ⟨n, small, number⟩
    · obtain ⟨n, small, number⟩ := old j key (others j same ▸ keyed)
      exact ⟨n, Nat.le_trans small step.numbers, number⟩
  · by_cases here : j = i
    · by_cases there : k = i
      · exact here.trans there.symm
      · subst here
        rw [self] at keyed
        rw [others k there] at sameKey
        exact absurd sameKey (apart k key there keyed)
    · rw [others j here] at keyed
      by_cases there : k = i
      · subst there
        rw [self] at sameKey
        exact absurd keyed (apart j key here sameKey)
      · rw [others k there] at sameKey
        exact locks.distinct j k key keyed sameKey
  · by_cases same : j = i
    · subst same
      exact (enters.key key (self ▸ keyed)).1
    · exact step.ofDocuments (locks.ofDocuments j key (others j same ▸ keyed))

theorem stay (locks : Locks collection phase s) (step : LockStep collection none s t) : Locks collection phase t := by
  refine ⟨step.tidy locks.tidy, fun i inside => step.indexed (locks.indexed i inside), ?_, ?_, ?_, locks.distinct,
    fun i key keyed => step.ofDocuments (locks.ofDocuments i key keyed)⟩
  · intro i name key stored
    obtain ⟨document, found, lock⟩ := locks.stored i name key stored
    exact ⟨document, step.kept key document found nofun, lock⟩
  · intro i name key gone
    obtain ⟨n, small, rfl⟩ := locks.numbered i key (by rw [gone]; rfl)
    exact step.gone n small (locks.gone i name _ gone)
  · intro i key keyed
    obtain ⟨n, small, number⟩ := locks.numbered i key keyed
    exact ⟨n, Nat.le_trans small step.numbers, number⟩

theorem eq_of_stored? (locks : Locks collection phase s) {i j : Nat} {name key other : String}
    (here : (phase i).stored? = some (name, key)) (there : (phase j).stored? = some (name, other)) : i = j := by
  obtain ⟨document, found, lock⟩ := locks.stored i name key here
  obtain ⟨document', found', lock'⟩ := locks.stored j name other there
  obtain ⟨c, present, -⟩ := locks.ofDocuments i key (LockPhase.key?_of_stored? here)
  have entry := Collection.mem_of_find? ((document?_eq present key).symm.trans found)
  have entry' := Collection.mem_of_find? ((document?_eq present other).symm.trans found')
  have sameEntry := (locks.tidy c present).eq_of_name entry entry' lock lock'
  obtain rfl : other = key := congrArg Prod.fst sameEntry
  exact locks.distinct i j other (LockPhase.key?_of_stored? here) (LockPhase.key?_of_stored? there)

theorem Enters.keyless {x y : LockPhase} (keyless : y.key? = none) (indexed : y ≠ .outside → Indexed collection t) :
    Enters collection x y s t := by
  refine ⟨indexed, fun name key stored => ?_, fun name key gone => ?_, fun key keyed => ?_⟩
  · cases keyless.symm.trans (LockPhase.key?_of_stored? stored)
  · rw [gone] at keyless
    cases keyless
  · cases keyless.symm.trans keyed

end Locks

/-! ### Requests of the protocol -/

theorem allows_store {x : LockPhase} {r : Request} (allowed : (protocol collection).allows x (.store r)) :
    (x = .outside ∧ (r = .hasCollection collection ∨ r = .createCollection collection {} ∨
        r = .ensureIndex collection nameIndex)) ∨
      (∃ name expires, x = .away name ∧ r = .insert collection (lockDocument name expires)) ∨
      (∃ name key, x = .holding name key ∧ r = .execute (holdersQuery collection name)) ∨
      ∃ name key, x = .found name key ∧ r = .delete collection key none true := by
  simp only [protocol] at allowed
  split at allowed
  case h_10 => exact allowed.elim
  all_goals
    rename_i actions
    cases actions
  · exact .inl ⟨rfl, .inl (congrArg _ allowed)⟩
  · obtain ⟨rfl, rfl⟩ := allowed
    exact .inl ⟨rfl, .inr (.inl rfl)⟩
  · obtain ⟨rfl, rfl⟩ := allowed
    exact .inl ⟨rfl, .inr (.inr rfl)⟩
  · obtain ⟨rfl, expires, rfl⟩ := allowed
    exact .inr (.inl ⟨_, expires, rfl, rfl⟩)
  · exact .inr (.inr (.inl ⟨_, _, rfl, congrArg _ allowed⟩))
  · obtain ⟨rfl, rfl, rfl, rfl⟩ := allowed
    exact .inr (.inr (.inr ⟨_, _, rfl, rfl⟩))

variable {phase : Nat → LockPhase}

/-- What comes of a request that a client may send in its phase: the answer may be expected, the collection is changed
as it may be, and the invariant holds with the client in its next phase. -/
structure Granted (collection : String) (phase : Nat → LockPhase) (i : Nat) (s : Store) (r : Request)
    (answered : r.Answer × Store) : Prop where
  expected : (protocol collection).expects (phase i) (.store r) answered.1
  step : LockStep collection (phase i).key? s answered.2
  locks : Locks collection (Function.update phase i ((protocol collection).after (phase i) (.store r) answered.1))
    answered.2

theorem Granted.stay (locks : Locks collection phase s) {i : Nat} {r : Request} {answered : r.Answer × Store}
    (expected : (protocol collection).expects (phase i) (.store r) answered.1)
    (same : (protocol collection).after (phase i) (.store r) answered.1 = phase i)
    (step : ∀ own, LockStep collection own s answered.2) : Granted collection phase i s r answered := by
  refine ⟨expected, step _, ?_⟩
  rw [same, Function.update_eq_self]
  exact locks.stay (step none)

theorem hasCollection_granted (locks : Locks collection phase s) {i : Nat} (outside : phase i = .outside) :
    Granted collection phase i s (.hasCollection collection) (s.answer (.hasCollection collection)) := by
  refine .stay locks ?_ ?_ fun own => .of_same rfl (Nat.le_refl _)
  · rw [outside]
    trivial
  · rw [outside]
    rfl

theorem createCollection_granted (locks : Locks collection phase s) {i : Nat} (outside : phase i = .outside) :
    Granted collection phase i s (.createCollection collection {}) (s.answer (.createCollection collection {})) := by
  refine .stay locks ?_ ?_ fun own => ?_
  · rw [outside]
    trivial
  · rw [outside]
    rfl
  · show LockStep collection own s (s.createCollection collection {}).2
    unfold Store.createCollection
    split
    · exact .of_same rfl (Nat.le_refl _)
    · rename_i absent
      have none : s.collections.get? collection = none := Table.has_eq_false.mp (by simpa using absent)
      have now : (s.setCollection collection { options := {} }).collections.get? collection =
          some { options := {} } := Table.get?_set_self _ _ _
      have empty : ∀ key, s.document? collection key = .none := by simp [Store.document?, none]
      refine ⟨Nat.le_refl _, fun _ c present => ?_, ?_, ?_, fun key document found _ => ?_, fun n _ _ => ?_⟩
      · obtain rfl := Option.some.inj (now.symm.trans present)
        exact ⟨List.nodup_nil, by simp, by simp, .nil, by simp⟩
      · rintro ⟨c, present, -⟩
        cases none.symm.trans present
      · rintro ⟨c, present, -⟩
        cases none.symm.trans present
      · cases (empty key).symm.trans found
      · simp [Store.document?, now, Collection.find?]

theorem ensureIndex_granted (locks : Locks collection phase s) {i : Nat} (outside : phase i = .outside) :
    Granted collection phase i s (.ensureIndex collection nameIndex)
      (s.answer (.ensureIndex collection nameIndex)) := by
  have cases : (∃ r, s.ensureIndex collection nameIndex = (.error r, s)) ∨
      ∃ t, s.ensureIndex collection nameIndex = (.ok (), t) ∧ (∀ own, LockStep collection own s t) ∧
        Indexed collection t := by
    unfold Store.ensureIndex
    split
    · exact .inl ⟨_, rfl⟩
    · rename_i c present
      split
      · rename_i there
        obtain ⟨index, listed, alike⟩ := List.any_eq_true.mp there
        exact .inr ⟨s, rfl, fun own => .of_same rfl (Nat.le_refl _), c, present, index, listed, alike⟩
      · split
        · exact .inl ⟨_, rfl⟩
        · refine .inr ⟨_, rfl, fun own => ?_, _, Table.get?_set_self _ _ _, nameIndex, ?_, by decide⟩
          · exact .of_set present rfl (Nat.le_refl _) LockCollection.addIndex
              (fun index listed => List.mem_append_left _ listed) rfl (fun _ _ found _ => found) fun _ _ none => none
          · exact List.mem_append_right _ List.mem_cons_self
  rcases cases with ⟨r, refused⟩ | ⟨t, done, step, indexed⟩
  · have answered : s.answer (.ensureIndex collection nameIndex) = (.error r.error, s) := by
      simp [Store.answer, Store.reply, refused, Except.mapError]
    rw [answered]
    refine .stay locks ?_ ?_ fun own => .of_same rfl (Nat.le_refl _)
    · rw [outside]
      trivial
    · rw [outside]
      rfl
  · have answered : s.answer (.ensureIndex collection nameIndex) = (.ok (), t) := by
      simp [Store.answer, Store.reply, done, Except.mapError]
    rw [answered]
    refine ⟨?_, step _, ?_⟩
    · rw [outside]
      trivial
    · refine locks.step (step _) ?_
      rw [outside]
      exact .keyless rfl fun _ => indexed

theorem insert_granted (locks : Locks collection phase s) {i : Nat} {name : String} {expires : Nat}
    (away : phase i = .away name) :
    Granted collection phase i s (.insert collection (lockDocument name expires))
      (s.answer (.insert collection (lockDocument name expires))) := by
  obtain ⟨c, present, indexed⟩ := locks.indexed i (by simp [away])
  have tidy := locks.tidy c present
  rcases Store.insert_lock present tidy indexed name expires with ⟨r, n, later, refused⟩ | inserted
  · have answered : s.answer (.insert collection (lockDocument name expires)) =
        (.error r.error, { s with keyCounter := n }) := by
      simp [Store.answer, Store.reply, refused, Except.mapError]
    rw [answered]
    refine .stay locks ?_ ?_ fun own => .of_same rfl later
    · rw [away]
      trivial
    · rw [away]
      rfl
  · obtain ⟨n, document, t, new, kind, lock, grown, done, set, counter⟩ := inserted
    have answered : s.answer (.insert collection (lockDocument name expires)) =
        (.ok ⟨Store.idOf collection (toString n), toString n, Store.revision (s.revCounter + 1)⟩, t) := by
      simp [Store.answer, Store.reply, done, Except.mapError]
    have now : t.collections.get? collection = some (c.push (toString n) document) := by
      rw [set, Table.get?_set_self]
    have free : c.hasKey (toString n) = false := by
      refine Collection.hasKey_eq_false.mpr fun entry stored same => ?_
      obtain ⟨m, small, number⟩ := tidy.numbered entry stored
      have := Store.toString_injective (number.symm.trans same)
      omega
    have step : LockStep collection (phase i).key? s t := by
      refine .of_set present set (by omega) (fun _ => counter ▸ grown) (fun _ listed => listed) rfl
        (fun key other found _ => Collection.find?_push_of_find? found) fun m small none => ?_
      have older : toString m ≠ toString n := fun same => by
        have := Store.toString_injective same
        omega
      rw [Collection.find?_push_of_ne c older, none]
    rw [answered]
    refine ⟨?_, step, locks.step step ?_⟩
    · rw [away]
      trivial
    · rw [away]
      refine ⟨fun _ => step.indexed ⟨c, present, indexed⟩, ?_, ?_, ?_⟩
      · rintro _ _ ⟨⟩
        exact ⟨document, (document?_eq now _).trans (Collection.find?_push_self free document), lock⟩
      · rintro _ _ ⟨⟩
      · rintro _ ⟨⟩
        exact ⟨⟨_, now, kind⟩, .inr ⟨n, new, Nat.le_of_eq counter.symm, rfl⟩⟩

theorem execute_answered (locks : Locks collection phase s) {i : Nat} {name key : String}
    (holding : phase i = .holding name key) :
    ∃ document, s.document? collection key = some document ∧ IsLock collection name (key, document) ∧
      s.answer (.execute (holdersQuery collection name)) = (.ok ⟨none, [.object document], false, none, none⟩, s) := by
  obtain ⟨document, found, lock⟩ := locks.stored i name key (by rw [holding]; rfl)
  obtain ⟨c, present, -⟩ := locks.ofDocuments i key (by rw [holding]; rfl)
  have entry := Collection.mem_of_find? ((document?_eq present key).symm.trans found)
  refine ⟨document, found, lock, ?_⟩
  simp [Store.answer, Store.reply, Store.execute_holders present (locks.tidy c present) entry lock, Except.mapError]

theorem execute_granted (locks : Locks collection phase s) {i : Nat} {name key : String}
    (holding : phase i = .holding name key) :
    Granted collection phase i s (.execute (holdersQuery collection name))
      (s.answer (.execute (holdersQuery collection name))) := by
  obtain ⟨document, found, lock, answered⟩ := execute_answered locks holding
  have step : LockStep collection (phase i).key? s s := .of_same rfl (Nat.le_refl _)
  rw [answered]
  refine ⟨?_, step, locks.step step ?_⟩
  · rw [holding]
    rintro batch ⟨⟩
    exact ⟨document, lock, rfl⟩
  · rw [holding]
    refine ⟨fun _ => locks.indexed i (by simp [holding]), ?_, fun _ _ => nofun, ?_⟩
    · rintro _ _ ⟨⟩
      exact ⟨document, found, lock⟩
    · rintro _ ⟨⟩
      exact ⟨locks.ofDocuments i key (by rw [holding]; rfl), .inl rfl⟩

theorem delete_answered (locks : Locks collection phase s) {i : Nat} {name key : String}
    (found : phase i = .found name key) :
    ∃ c, s.collections.get? collection = some c ∧ c.options.kind = .document ∧
      s.answer (.delete collection key none true) = (.ok true, s.setCollection collection (c.remove key)) := by
  obtain ⟨document, there, -⟩ := locks.stored i name key (by rw [found]; rfl)
  obtain ⟨c, present, kind⟩ := locks.ofDocuments i key (by rw [found]; rfl)
  have entry := Collection.mem_of_find? ((document?_eq present key).symm.trans there)
  refine ⟨c, present, kind, ?_⟩
  simp [Store.answer, Store.reply, Store.delete_lock present (locks.tidy c present) entry, Except.mapError]

theorem delete_granted (locks : Locks collection phase s) {i : Nat} {name key : String}
    (found : phase i = .found name key) :
    Granted collection phase i s (.delete collection key none true) (s.answer (.delete collection key none true)) := by
  obtain ⟨c, present, kind, answered⟩ := delete_answered locks found
  have tidy := locks.tidy c present
  have now : (s.setCollection collection (c.remove key)).collections.get? collection = some (c.remove key) :=
    Table.get?_set_self _ _ _
  have removed : (c.remove key).find? key = none :=
    Collection.find?_eq_none_of_hasKey (Collection.hasKey_remove tidy.keyed key)
  have step : LockStep collection (phase i).key? s (s.setCollection collection (c.remove key)) := by
    refine .of_set present rfl (Nat.le_refl _) (fun tidy => tidy.remove key) (fun _ listed => listed) rfl ?_ ?_
    · intro other stored here different
      have other : other ≠ key := fun same => different (by rw [found, same]; rfl)
      rw [Collection.find?_remove_of_ne c other, here]
    · intro n _ none
      by_cases same : toString n = key
      · rw [same, removed]
      · rw [Collection.find?_remove_of_ne c same, none]
  rw [answered]
  refine ⟨?_, step, locks.step step ?_⟩
  · rw [found]
    trivial
  · rw [found]
    refine ⟨fun _ => step.indexed (locks.indexed i (by simp [found])), fun _ _ => nofun, ?_, ?_⟩
    · rintro _ _ ⟨⟩
      exact (document?_eq now key).trans removed
    · rintro _ ⟨⟩
      exact ⟨⟨_, now, kind⟩, .inl rfl⟩

/-- Every request of the protocol keeps the invariant, and is answered as its sender may expect. -/
theorem request_granted (locks : Locks collection phase s) {i : Nat} {r : Request}
    (allowed : (protocol collection).allows (phase i) (.store r)) :
    Granted collection phase i s r (s.answer r) := by
  rcases allows_store allowed with ⟨outside, rfl | rfl | rfl⟩ | ⟨name, expires, away, rfl⟩ | ⟨name, key, holding, rfl⟩ |
    ⟨name, key, found, rfl⟩
  · exact hasCollection_granted locks outside
  · exact createCollection_granted locks outside
  · exact ensureIndex_granted locks outside
  · exact insert_granted locks away
  · exact execute_granted locks holding
  · exact delete_granted locks found

/-- A request that is lost keeps the invariant too: a lock that could not be given back is still stored. -/
theorem lost_granted (locks : Locks collection phase s) {i : Nat} {r : Request} {e : StoreError} {answer : r.Answer}
    (allowed : (protocol collection).allows (phase i) (.store r))
    (lost : FaultyStore.substitute? r (.error e) = some answer) : Granted collection phase i s r (answer, s) := by
  have step : ∀ own, LockStep collection own s s := fun own => .of_same rfl (Nat.le_refl _)
  have lock : ∀ name key, (phase i).stored? = some (name, key) →
      Locks.Enters collection (phase i) (.left name key) s s := by
    intro name key stored
    refine ⟨fun _ => locks.indexed i ?_, ?_, fun _ _ => nofun, ?_⟩
    · rintro outside
      rw [outside] at stored
      cases stored
    · rintro _ _ ⟨⟩
      exact locks.stored i name key stored
    · rintro _ ⟨⟩
      have keyed := LockPhase.key?_of_stored? stored
      exact ⟨locks.ofDocuments i key keyed, .inl keyed⟩
  rcases allows_store allowed with ⟨outside, rfl | rfl | rfl⟩ | ⟨name, expires, away, rfl⟩ | ⟨name, key, holding, rfl⟩ |
    ⟨name, key, found, rfl⟩
  all_goals obtain rfl := Option.some.inj lost
  · exact .stay locks (by rw [outside]; trivial) (by rw [outside]; rfl) step
  · exact .stay locks (by rw [outside]; trivial) (by rw [outside]; rfl) step
  · exact .stay locks (by rw [outside]; trivial) (by rw [outside]; rfl) step
  · exact .stay locks (by rw [away]; trivial) (by rw [away]; rfl) step
  · refine ⟨?_, step _, locks.step (step _) ?_⟩
    · rw [holding]
      rintro batch ⟨⟩
    · have enters := lock name key (by rw [holding]; rfl)
      rw [holding] at enters ⊢
      exact enters
  · refine ⟨?_, step _, locks.step (step _) ?_⟩
    · rw [found]
      trivial
    · have enters := lock name key (by rw [found]; rfl)
      rw [found] at enters ⊢
      exact enters

/-- Requests of the protocol leave all other collections alone. -/
theorem answer_elsewhere {x : LockPhase} {r : Request} (allowed : (protocol collection).allows x (.store r))
    {other : String} (different : other ≠ collection) (s : Store) :
    (s.answer r).2.collections.get? other = s.collections.get? other := by
  have set : ∀ (s : Store) (c : Collection),
      (s.setCollection collection c).collections.get? other = s.collections.get? other := fun s c =>
    Table.get?_set_of_ne _ _ different.symm
  rcases allows_store allowed with ⟨-, rfl | rfl | rfl⟩ | ⟨name, expires, -, rfl⟩ | ⟨name, key, -, rfl⟩ |
    ⟨name, key, -, rfl⟩
  · rfl
  · show (s.createCollection collection {}).2.collections.get? other = _
    unfold Store.createCollection
    split
    · rfl
    · exact set s _
  · show (s.ensureIndex collection nameIndex).2.collections.get? other = _
    unfold Store.ensureIndex
    split
    · rfl
    · split
      · rfl
      · split
        · rfl
        · exact set s _
  · show (s.insert collection (lockDocument name expires)).2.collections.get? other = _
    rcases s.insert_cases collection (lockDocument name expires) with ⟨r, n, -, refused⟩ | ⟨c, key, n, -, stored⟩
    · rw [refused]
    · rw [stored]
      exact set s _
  · show (s.execute (holdersQuery collection name)).2.collections.get? other = _
    rcases s.execute_cases (holdersQuery collection name) with ⟨r, refused⟩ | ⟨b, t, answered, only⟩
    · rw [refused]
    · rw [answered, only.collections]
  · show (s.delete collection key none true).2.collections.get? other = _
    rcases s.delete_cases collection key none true with ⟨r, refused⟩ | nothing | ⟨c, stored, -, deleted⟩
    · rw [refused]
    · rw [nothing]
    · rw [deleted]
      exact set s _

structure Acted (collection : String) (phase : Nat → LockPhase) (i : Nat) (s : Store) (turn : Turn) (action : Action)
    (answer : action.Answer) (t : Store) : Prop where
  expected : (protocol collection).expects (phase i) action answer
  step : LockStep collection (phase i).key? s t
  locks : Locks collection (Function.update phase i ((protocol collection).after (phase i) action answer)) t
  elsewhere : ∀ other, other ≠ collection → t.collections.get? other = (s.afterAll turn.before).collections.get? other

/-- An action of a client in its turn, whatever others ask of the store before and whether it is lost or not. -/
theorem action_granted {w : World} {turn : Turn} {i : Nat} {action : Action} (locks : Locks collection phase s)
    (plain : w.store = ⟨s, []⟩) (spares : s.Spares collection turn.before)
    (allowed : (protocol collection).allows (phase i) action) :
    ∃ t, (w.answerIn turn action).2.store = ⟨t, []⟩ ∧
      Acted collection phase i s turn action (w.answerIn turn action).1 t := by
  have others : ∀ own, LockStep collection own s (s.afterAll turn.before) := fun own => .of_spares spares
  have waited := locks.stay (others none)
  have await : (w.await turn).store = ⟨s.afterAll turn.before, []⟩ := World.await_store plain
  cases action with
  | store r =>
    rcases World.answerIn_store (t := turn) plain r with ⟨e, answer, -, replaced, answered⟩ | ⟨-, answered⟩
    · obtain ⟨expected, -, kept⟩ := lost_granted waited allowed replaced
      rw [answered]
      exact ⟨_, await, expected, others _, kept, fun _ _ => rfl⟩
    · obtain ⟨expected, step, kept⟩ := request_granted waited allowed
      rw [answered]
      exact ⟨_, rfl, expected, (others _).trans step, kept, fun other different => answer_elsewhere allowed different _⟩
  | now | patience =>
    refine ⟨_, await, ?_, others _, ?_, fun _ _ => rfl⟩
    · cases phase i <;> trivial
    · have same : ∀ x n, (protocol collection).after x .now n = x ∧ (protocol collection).after x .patience n = x := by
        intro x n
        cases x <;> exact ⟨rfl, rfl⟩
      simp only [(same _ _).1, (same _ _).2, Function.update_eq_self]
      exact waited
  | _ =>
    cases here : phase i <;> rw [here] at allowed <;> exact allowed.elim

/-- Giving a lock back does not fail unless a call is lost. -/
theorem action_given_back {w : World} {turn : Turn} {i : Nat} {action : Action} (locks : Locks collection phase s)
    (plain : w.store = ⟨s, []⟩) (spares : s.Spares collection turn.before) (faultless : turn.lost = none)
    (allowed : (protocol collection).allows (phase i) action) (kept : ∀ name key, phase i ≠ .left name key)
    (name key : String) : (protocol collection).after (phase i) action (w.answerIn turn action).1 ≠ .left name key := by
  have waited := locks.stay (.of_spares spares)
  cases action with
  | store r =>
    rcases World.answerIn_store (t := turn) plain r with ⟨e, answer, lost, -⟩ | ⟨-, answered⟩
    · cases faultless.symm.trans lost
    rw [answered]
    rcases allows_store allowed with ⟨outside, rfl | rfl | rfl⟩ | ⟨name, expires, away, rfl⟩ |
      ⟨name, own, holding, rfl⟩ | ⟨name, own, found, rfl⟩
    · rw [outside]
      nofun
    · rw [outside]
      nofun
    · rw [outside]
      cases ((s.afterAll turn.before).answer (.ensureIndex collection nameIndex)).1 <;> nofun
    · rw [away]
      cases ((s.afterAll turn.before).answer (.insert collection (lockDocument name expires))).1 <;> nofun
    · obtain ⟨document, -, -, given⟩ := execute_answered waited holding
      rw [given, holding]
      nofun
    · obtain ⟨c, -, -, given⟩ := delete_answered waited found
      rw [given, found]
      nofun
  | now | patience =>
    have same := kept name key
    cases here : phase i <;> rw [here] at same <;> exact same
  | _ =>
    cases here : phase i <;> rw [here] at allowed <;> exact allowed.elim

theorem run_granted {α : Type} {p : Program α} {rests : LockPhase → α → Prop} {w w' : World} {a : α} {i : Nat}
    (locks : Locks collection phase s) (plain : w.store = ⟨s, []⟩)
    (follows : p.Follows (protocol collection) rests (phase i)) (run : p.run w = (some a, w')) :
    ∃ x t, w'.store = ⟨t, []⟩ ∧ rests x a ∧ Locks collection (Function.update phase i x) t ∧
      ∀ other, other ≠ collection → t.collections.get? other = s.collections.get? other := by
  induction p generalizing phase s w with
  | done b =>
    obtain ⟨same, rfl⟩ := Prod.mk.inj run
    obtain rfl := Option.some.inj same
    refine ⟨phase i, s, plain, follows, ?_, fun _ _ => rfl⟩
    rw [Function.update_eq_self]
    exact locks
  | stalled => cases congrArg Prod.fst run
  | act action next ih =>
    obtain ⟨allowed, goesOn⟩ := follows
    have spares : s.Spares collection ({} : Turn).before := trivial
    obtain ⟨t, left, acted⟩ := action_granted locks plain spares allowed
    rw [World.answerIn_alone] at left acted
    have later := goesOn _ acted.expected
    obtain ⟨x, u, ended, rests, kept, elsewhere⟩ := ih (w.answer action).1 acted.locks left
      (by rw [Function.update_self]; exact later) run
    refine ⟨x, u, ended, rests, ?_, fun other different => ?_⟩
    · rw [Function.update_idem] at kept
      exact kept
    · rw [elsewhere other different, acted.elsewhere other different]
      rfl

end LockBackend
end RecordStore
