import RecordStore.Proofs.Client.RoundInvariant
import RecordStore.Proofs.Record.Samples

/-!
# Rounds are serial

However the rounds of any number of clients take turns, the record is at every moment what their successful changes make
of it one after another, in the order in which the rounds have taken the lock. No save is in conflict with another one;
what can go wrong is only that the changed record itself is refused.
-/

namespace RecordStore
namespace RoundSystem

variable {ρ : Type} [Record ρ] {c : RecordCollection ρ} {key locks : String} {first : Document} {σ : RoundSystem ρ}
  {phase : Nat → RoundPhase}

/-! ### The invariant holds of all runs -/

/-- What may happen: a change leaves key and revision of a record alone, no call is lost, and nobody else writes to the
record or to the collection of locks. -/
def Allows (c : RecordCollection ρ) (key locks : String) (σ : RoundSystem ρ) : RoundMove ρ → Prop
  | .start _ change => ∀ r, Record.stamp (change r) = Record.stamp r
  | .act _ turn => σ.Spares c key locks turn

/-- The systems that rounds can lead to. Before they begin the store has had any history in which the record was stored
and the collection of locks was not used, and the backend has been created. -/
inductive Reachable (c : RecordCollection ρ) (key locks : String) (first : Document) : RoundSystem ρ → Prop where
  | start (batchSize : Nat) (history : List Request) {s : Store} {w₀ w : World} {backend : LockBackend}
      (past : s = (Store.empty batchSize).afterAll history) (plain : w₀.store = ⟨s, []⟩)
      (unused : ∀ l, s.collections.get? locks = some l → l.documents = [] ∧ l.indexes = [])
      (found : s.document? c.name key = some first)
      (created : (LockBackend.create locks).run w₀ = (some (.ok backend), w)) :
      Reachable c key locks first ⟨w, [], []⟩
  | step {σ : RoundSystem ρ} (before : Reachable c key locks first σ) (m : RoundMove ρ)
      (allowed : σ.Allows c key locks m) : Reachable c key locks first (σ.step c key locks m)

theorem created_sound (separate : c.name ≠ locks) {s : Store} {w₀ w : World} {backend : LockBackend}
    (plain : w₀.store = ⟨s, []⟩)
    (unused : ∀ l, s.collections.get? locks = some l → l.documents = [] ∧ l.indexes = [])
    (found : s.document? c.name key = some first) (shows : first.Shows key)
    (created : (LockBackend.create locks).run w₀ = (some (.ok backend), w)) :
    Sound c key locks first (fun _ => ⟨.outside, .fresh⟩) ⟨w, [], []⟩ := by
  have outside : LockBackend.Locks locks (fun _ => .outside) s := .of_unused unused
  obtain ⟨x, t, left, ⟨rfl, -⟩, prepared, elsewhere⟩ :=
    LockBackend.run_granted (i := 0) outside plain LockBackend.create_follows created
  have indexed : LockBackend.Indexed locks t := prepared.indexed 0 (by simp)
  have held := prepared.step (i := 0) (y := .outside) (.of_same rfl (Nat.le_refl _)) (.keyless rfl fun _ => indexed)
  rw [Function.update_idem, Function.update_eq_self 0 fun _ : Nat => LockPhase.outside] at held
  have store : store (ρ := ρ) ⟨w, [], []⟩ = t := by rw [RoundSystem.store, left]
  refine ⟨store ▸ left, store ▸ indexed, store ▸ held, by simp, fun _ _ => rfl, ⟨.nil, by simp [LockPhase.key?], ?_⟩,
    ⟨first, ?_, shows, rfl⟩, ?_⟩
  · rintro _ _ ⟨⟩
  · rw [store, ← found, Store.document?, Store.document?, elsewhere c.name separate]
  · rintro _ _ ⟨⟩

theorem Reachable.sound [LawfulRecord ρ] {pollDelay : Nat}
    (configured : c.db.config.lockBackend = some (.overStore locks pollDelay)) (separate : c.name ≠ locks)
    (reachable : Reachable c key locks first σ) : key ≠ "" ∧ ∃ phase, Sound c key locks first phase σ := by
  induction reachable with
  | start batchSize history past plain unused found created =>
    have traced := past ▸ Store.traced_afterAll batchSize history
    obtain ⟨w, logged, stored⟩ := traced.write_of_document? found
    obtain ⟨n, -, number⟩ := traced.numbered w logged
    have shows : first.Shows key :=
      ⟨stored.keyAttribute, w.header.rev, number ▸ Store.revision_ne_empty n, stored.revAttribute⟩
    exact ⟨Store.ne_empty_of_isKey (Store.isKey_of_document? batchSize history (past ▸ found)), _,
      created_sound separate plain unused found shows created⟩
  | step before m allowed ih =>
    obtain ⟨named, phase, sound⟩ := ih
    refine ⟨named, ?_⟩
    cases m with
    | start context change => exact sound.start configured allowed context
    | act i turn => exact sound.act separate named allowed

/-! ### What holds at every moment -/

/-- The replacement that a round is about to ask for: the collection and the new document. -/
def replacement? (r : Round ρ) : Option (String × Document) :=
  match r.program with
  | .act (.store (.replace name revised)) _ => some (name, revised)
  | _ => none

def Free (c : RecordCollection ρ) (key locks : String) (σ : RoundSystem ρ) : Prop :=
  ∀ own document, σ.store.document? locks own = some document → document.text? "name" ≠ some (c.lockName key)

/-- Why a change of a document fails: reading it, its hook or writing it again fails, or the store blames what has been
written. -/
def Refuses (c : RecordCollection ρ) (r : Round ρ) (document : Document) (e : ClientError) : Prop :=
  c.revise r.context r.change r.time document = .error e ∨
    ∃ (revised : Document) (refusal : StoreError), c.revise r.context r.change r.time document = .ok revised ∧
      refusal.Blames c.name ∧ e = refusal.translate .save (Record.typeName ρ)

/-- The record is what the changes of the successful rounds make of it one after another, in the order in which they
have taken the lock, and once the lock is free all that have taken it are at their end. A round that fails with the lock
has found what the rounds before it have left, and its changed record was refused, never for its revision. -/
structure Serial (c : RecordCollection ρ) (key locks : String) (first : Document) (σ : RoundSystem ρ) : Prop where
  stored : ∃ document, σ.store.document? c.name key = some document ∧ c.replay (σ.saves σ.order) first = .ok document
  once : σ.order.Nodup
  listed : ∀ (i : Nat) (r : Round ρ) save, σ.rounds[i]? = some r → r.save? = some save →
    i ∈ σ.order ∧ save.context = r.context ∧ save.change = r.change
  completed : σ.Free c key locks → ∀ i ∈ σ.order, ∃ r result, σ.rounds[i]? = some r ∧ r.program = .done result
  settled : ∀ (i : Nat) (r : Round ρ) result, σ.rounds[i]? = some r → r.program = .done result →
    (result.isOk = true ↔ r.save?.isSome)
  failed : ∀ (i : Nat) (r : Round ρ) e, σ.rounds[i]? = some r → r.program = .done (.error e) → i ∈ σ.order →
    ∃ document, c.replay (σ.saves (σ.before i)) first = .ok document ∧ Refuses c r document e
  saves : ∀ (i : Nat) (r : Round ρ) name revised t e, σ.rounds[i]? = some r →
    replacement? r = some (name, revised) → σ.Spares c key locks t →
    (σ.world.answerIn t (.store (.replace name revised))).1 = .error e →
    name = c.name ∧ (σ.store.afterAll t.before).Rejects c.name key revised e ∧ e.hasCode ErrorCode.conflict = false

theorem Sound.ended (sound : Sound c key locks first phase σ) {i : Nat} {r : Round ρ} (there : σ.rounds[i]? = some r)
    {result : Except ClientError (ρ × String)} (done : r.program = .done result) :
    c.Ended key r.context r.change (phase i) result := by
  have follows := (sound.rounds i r there).follows
  rw [done] at follows
  exact follows

theorem Sound.mem_of_saved (sound : Sound c key locks first phase σ) {i : Nat} {r : Round ρ}
    (there : σ.rounds[i]? = some r) {save : Save ρ} (saved : r.save? = some save) : i ∈ σ.order := by
  have own := sound.rounds i r there
  have stage : (phase i).stage = .saved := own.saved.mp (by rw [saved]; rfl)
  rw [sound.ordered.member]
  rcases own.inert with fresh | keyed
  · cases fresh.symm.trans stage
  · exact keyed

/-- A round that has taken the lock and does not have it any more is at its end. -/
theorem Sound.completed (sound : Sound c key locks first phase σ) (free : σ.Free c key locks) {i : Nat}
    (listed : i ∈ σ.order) : ∃ r result, σ.rounds[i]? = some r ∧ r.program = .done result := by
  have keyed := (sound.ordered.member i).mp listed
  have inside : i < σ.rounds.length := by
    refine Nat.lt_of_not_le fun beyond => ?_
    rw [sound.outside i beyond] at keyed
    cases keyed
  have there : σ.rounds[i]? = some σ.rounds[i] := List.getElem?_eq_getElem inside
  -- it has a key, but no lock of its name is stored: it has given the lock back
  have unstored : (phase i).lock.stored? = none := by
    refine Option.eq_none_iff_forall_ne_some.mpr fun ⟨name, own⟩ stored => ?_
    obtain rfl := sound.name_of_stored? stored
    obtain ⟨document, found, lock⟩ := sound.held.stored i _ own stored
    exact free own document found lock.text?_name
  obtain ⟨name, own, gone⟩ : ∃ name own, (phase i).lock = .gone name own := by
    cases h : (phase i).lock with
    | gone name own => exact ⟨name, own, rfl⟩
    | _ => simp [h, LockPhase.key?, LockPhase.stored?] at keyed unstored
  have follows := (sound.rounds i _ there).follows
  refine ⟨σ.rounds[i], ?_⟩
  cases program : σ.rounds[i].program with
  | done result => exact ⟨result, there, rfl⟩
  | stalled =>
    rw [program] at follows
    have waits : (LockBackend.protocol locks).waits (phase i).lock := follows
    rw [gone] at waits
    exact waits.elim
  | act action next =>
    rw [program] at follows
    rcases follows.1 with lock | ⟨⟨own', holding⟩, -⟩
    · rw [gone] at lock
      exact lock.elim
    · cases gone.symm.trans holding

theorem Sound.settled (sound : Sound c key locks first phase σ) {i : Nat} {r : Round ρ} (there : σ.rounds[i]? = some r)
    {result : Except ClientError (ρ × String)} (done : r.program = .done result) :
    result.isOk = true ↔ r.save?.isSome := by
  rw [(sound.rounds i r there).saved]
  have ended := sound.ended there done
  cases result with
  | ok a =>
    obtain ⟨own, here⟩ := ended
    rw [here]
    exact ⟨fun _ => rfl, fun _ => rfl⟩
  | error e =>
    refine ⟨nofun, fun saved => ?_⟩
    rcases ended with here | ⟨own, -, failed⟩
    · rw [here] at saved
      cases saved
    · rw [saved] at failed
      exact failed.elim

theorem Sound.failed (sound : Sound c key locks first phase σ) {i : Nat} {r : Round ρ} (there : σ.rounds[i]? = some r)
    {e : ClientError} (done : r.program = .done (.error e)) (listed : i ∈ σ.order) :
    ∃ document, c.replay (σ.saves (σ.before i)) first = .ok document ∧ Refuses c r document e := by
  have keyed := (sound.ordered.member i).mp listed
  have told := (sound.rounds i r there).time
  have found := sound.found i
  rcases sound.ended there done with here | ⟨own, -, failed⟩
  · rw [here] at keyed
    cases keyed
  · cases stage : (phase i).stage with
    | fresh | saved =>
      rw [stage] at failed
      exact failed.elim
    | loaded document =>
      rw [stage] at failed found
      exact ⟨document, found document rfl, .inl (failed r.time)⟩
    | timed document time =>
      rw [stage] at failed found told
      obtain rfl := told time rfl
      exact ⟨document, found document rfl, .inl failed⟩
    | refused document time refusal =>
      rw [stage] at failed found told
      obtain rfl := told time rfl
      obtain ⟨⟨revised, leads⟩, blames, rfl⟩ := failed
      exact ⟨document, found document rfl, .inr ⟨revised, refusal, leads, blames, rfl⟩⟩

/-- A document that is rejected is so for other reasons than its revision. -/
theorem hasCode_of_rejects {s : Store} {name key : String} {document : Document} {e : StoreError}
    (rejects : s.Rejects name key document e) : e.hasCode ErrorCode.conflict = false := by
  obtain ⟨l, -, ⟨field, -, rfl⟩ | ⟨index, -, rfl⟩⟩ := rejects <;> rfl

theorem Sound.refused [LawfulRecord ρ] (sound : Sound c key locks first phase σ) (named : key ≠ "") {i : Nat}
    {r : Round ρ} (there : σ.rounds[i]? = some r) {name : String} {revised : Document}
    (replaces : replacement? r = some (name, revised)) {t : Turn} (spares : σ.Spares c key locks t)
    {e : StoreError} (refused : (σ.world.answerIn t (.store (.replace name revised))).1 = .error e) :
    name = c.name ∧ (σ.store.afterAll t.before).Rejects c.name key revised e := by
  obtain ⟨next, acts⟩ : ∃ next, r.program = .act (.store (.replace name revised)) next := by
    unfold replacement? at replaces
    split at replaces
    · obtain ⟨rfl, rfl⟩ := Prod.mk.inj (Option.some.inj replaces)
      exact ⟨_, ‹_›⟩
    · cases replaces
  have follows := (sound.rounds i r there).follows
  rw [acts] at follows
  rcases RecordCollection.allows_cases follows.1 with lock | ⟨own, holding, works⟩
  · rcases LockBackend.allows_store lock with ⟨-, h | h | h⟩ | ⟨_, _, -, h⟩ | ⟨_, _, -, h⟩ | ⟨_, _, -, h⟩ <;> cases h
  · rcases works with ⟨-, h⟩ | ⟨_, -, h⟩ | ⟨_, _, _, -, h⟩ | ⟨document, time, _, timed, h, leads⟩
    · cases h
    · cases h
    · cases h
    · cases h
      refine ⟨rfl, ?_⟩
      rw [sound.answered spares] at refused
      rcases sound.saving named there spares holding timed leads with ⟨e', answered, rejects⟩ | ⟨l, answered, -⟩
      · rw [answered] at refused
        obtain rfl := Except.error.inj refused
        exact rejects
      · rw [answered] at refused
        cases refused

/-- Rounds are serial, however they take turns. -/
theorem reachable_serial [LawfulRecord ρ] {pollDelay : Nat}
    (configured : c.db.config.lockBackend = some (.overStore locks pollDelay)) (separate : c.name ≠ locks)
    (reachable : Reachable c key locks first σ) : Serial c key locks first σ := by
  obtain ⟨named, phase, sound⟩ := reachable.sound configured separate
  obtain ⟨document, stored, -, replayed⟩ := sound.stored
  exact {
    stored := ⟨document, stored, replayed⟩
    once := sound.ordered.once
    listed := fun i r save there saved =>
      ⟨sound.mem_of_saved there saved, (sound.rounds i r there).own save saved⟩
    completed := fun free i listed => sound.completed free listed
    settled := fun i r result there done => sound.settled there done
    failed := fun i r e there done listed => sound.failed there done listed
    saves := fun i r name revised t e there replaces spares refused => by
      obtain ⟨same, rejects⟩ := sound.refused named there replaces spares refused
      exact ⟨same, rejects, hasCode_of_rejects rejects⟩ }

/-! ### Two rounds that overlap, and one that is refused -/

theorem Reachable.alone (reachable : Reachable c key locks first σ) (moves : List (RoundMove ρ))
    (allowed : ∀ m ∈ moves, match m with
      | .start _ change => ∀ r, Record.stamp (change r) = Record.stamp r
      | .act _ t => t.before = [] ∧ t.lost = none) :
    Reachable c key locks first (moves.foldl (RoundSystem.step c key locks) σ) := by
  induction moves generalizing σ with
  | nil => exact reachable
  | cons m rest ih =>
    refine ih (reachable.step m ?_) fun later listed => allowed later (List.mem_cons_of_mem _ listed)
    have here := allowed m List.mem_cons_self
    cases m with
    | start context change => exact here
    | act i t =>
      obtain ⟨nothing, fine⟩ := here
      exact ⟨fine, by rw [nothing]; trivial, by rw [nothing]; rfl⟩

/-- Of two clients that both append to a name the second one gets the lock first; the first one waits for it, and then
finds what the second one has appended. -/
theorem overlapping_rounds_serial :
    let c : RecordCollection Sample.Identity := ⟨{ config := { lockBackend := some (.overStore "locks" 0) } }, "c"⟩
    let s := (Store.empty 1).afterAll
      [.createCollection "c" {}, .insert "c" [("_key", .string "k"), ("name", .string "x")]]
    let append (text : String) (r : Sample.Identity) : Sample.Identity := { r with name := r.name ++ text }
    let turns (i n : Nat) : List (RoundMove Sample.Identity) := List.replicate n (.act i {})
    let moves : List (RoundMove Sample.Identity) :=
      [.start [] (append "a"), .start [] (append "b"), .act 0 { extra := 2 }] ++ turns 1 3 ++ turns 0 2 ++ turns 1 1 ++
        turns 0 2 ++ turns 1 5 ++ turns 0 9
    let created := (LockBackend.create "locks").run { store := ⟨s, []⟩ }
    let σ := moves.foldl (RoundSystem.step c "k" "locks") ⟨created.2, [], []⟩
    ∃ first, Reachable c "k" "locks" first σ ∧ Serial c "k" "locks" first σ ∧ σ.order = [1, 0] ∧
      (σ.store.document? "c" "k").bind (·.text? "name") = some "xba" := by
  intro c s append turns moves created σ
  have reachable :
      Reachable c "k" "locks" (Store.stamp "c" "k" 1 [("_key", .string "k"), ("name", .string "x")]) σ := by
    refine Reachable.alone (.start 1 [_, _] rfl (s := s) rfl ?_ rfl (Prod.ext rfl rfl)) moves ?_
    · rintro _ ⟨⟩
    · have payload : ∀ text r, Record.stamp (append text r) = Record.stamp r := fun _ _ => rfl
      simp [moves, turns, payload]
  exact ⟨_, reachable, reachable_serial rfl (by decide) reachable, by decide +kernel, by decide +kernel⟩

/-- A save may fail without any other round: where names are unique, a client cannot give the record the name that
another one has. -/
theorem clashing_round_refused :
    let c : RecordCollection Sample.Identity := ⟨{ config := { lockBackend := some (.overStore "locks" 0) } }, "c"⟩
    ¬∀ first σ, Reachable c "k" "locks" first σ → ∀ (i : Nat) (r : Round Sample.Identity) name revised t,
      σ.rounds[i]? = some r → replacement? r = some (name, revised) → σ.Spares c "k" "locks" t →
      ∃ header, (σ.world.answerIn t (.store (.replace name revised))).1 = .ok header := by
  intro c never
  let s := (Store.empty 1).afterAll
    [.createCollection "c" {}, .ensureIndex "c" ⟨["name"], true, false, none⟩, .insert "c" [("name", .string "a")],
      .insert "c" [("_key", .string "k"), ("name", .string "b")]]
  let rename (r : Sample.Identity) : Sample.Identity := { r with name := "a" }
  let moves : List (RoundMove Sample.Identity) := .start [] rename :: List.replicate 5 (.act 0 {})
  let created := (LockBackend.create "locks").run { store := ⟨s, []⟩ }
  let σ := moves.foldl (RoundSystem.step c "k" "locks") ⟨created.2, [], []⟩
  have reachable : Reachable c "k" "locks"
      (Store.stamp "c" "k" 2 [("_key", .string "k"), ("name", .string "b")]) σ := by
    refine Reachable.alone (.start 1 [_, _, _, _] rfl (s := s) rfl ?_ rfl (Prod.ext rfl rfl)) moves ?_
    · rintro _ ⟨⟩
    · have payload : ∀ r, Record.stamp (rename r) = Record.stamp r := fun _ => rfl
      simp [moves, payload]
  have refused : ((σ.rounds[0]?.bind replacement?).map fun replaces =>
      (σ.world.answerIn {} (.store (.replace replaces.1 replaces.2))).1.toOption.isNone) = some true := by
    decide +kernel
  obtain ⟨⟨name, revised⟩, replaces, refused⟩ := Option.map_eq_some_iff.mp refused
  obtain ⟨r, there, replaces⟩ := Option.bind_eq_some_iff.mp replaces
  obtain ⟨header, answered⟩ := never _ σ reachable 0 r name revised {} there replaces ⟨rfl, trivial, rfl⟩
  rw [answered] at refused
  cases refused

end RoundSystem
end RecordStore
