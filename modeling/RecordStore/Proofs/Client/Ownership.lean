import RecordStore.Proofs.Client.OwnerProtocol
import RecordStore.Proofs.Record.Samples

/-!
# Owners and their records

What a record says of itself is true. Whatever its owner has done with it, and whatever anybody else has done to the
store meanwhile, its revision is empty as long as it was neither stored nor loaded again, and from then on it has the key
and the revision that the store reported last (`Shows`). So a save inserts the record as long as it has not been stored,
and a save that fails leaves the store and the stamp alone (`Episode.Sound`).
-/

namespace RecordStore

/-! ### The world of an owner -/

/-- A refused call has changed nothing but the counter of keys. -/
def Contact.Harmless (k : Contact) : Prop :=
  k.failed = true → Store.SameButKeys k.before k.after

namespace World

/-- A store without prepared faults, with the history that led to it. -/
def Traced (w : World) : Prop :=
  ∃ s log, w.store = ⟨s, []⟩ ∧ Store.Traced log s

variable {w : World}

theorem Traced.await (traced : w.Traced) (t : Turn) : (w.await t).Traced := by
  obtain ⟨s, log, plain, traced⟩ := traced
  exact ⟨_, _, await_store plain, traced.changes (Store.afterAll_changes s t.before)⟩

/-- Every action is answered credibly, and its call does no harm if it is refused. -/
theorem Traced.answerIn (traced : w.Traced) (t : Turn) (calls : List Call) (action : Action) :
    (w.answerIn t action).2.Traced ∧ Protocol.credible.expects calls action (w.answerIn t action).1 ∧
      ∀ call ∈ action.calls (w.answerIn t action).1, Contact.Harmless ⟨call, (w.await t).store.store,
        (w.answerIn t action).2.store.store⟩ := by
  have waited := traced.await t
  cases action with
  | store r =>
    obtain ⟨s, log, plain, own⟩ := traced
    obtain ⟨u, later, left, history⟩ := waited
    obtain rfl : s.afterAll t.before = u := congrArg FaultyStore.store ((await_store plain).symm.trans left)
    rcases answerIn_store (t := t) plain r with ⟨e, answer, -, lost, answered⟩ | ⟨-, answered⟩
    · rw [answered]
      refine ⟨⟨_, later, left, history⟩, FaultyStore.credible_lost lost, ?_⟩
      exact List.forall_mem_singleton.mpr fun _ => .refl _
    · rw [answered, left]
      refine ⟨⟨_, _, rfl, history.changes (Store.answer_changes _ r)⟩, history.credible r, ?_⟩
      exact List.forall_mem_singleton.mpr ((Store.answer_behaved _ r).refused)
  | claim lock =>
    refine ⟨?_, trivial, fun call listed => absurd listed List.not_mem_nil⟩
    obtain ⟨s, log, plain, history⟩ := waited
    refine ⟨s, log, Eq.trans ?_ plain, history⟩
    simp only [World.answerIn, World.answer]
    split <;> rfl
  | keyNumber | now | note | yield | patience => exact ⟨waited, trivial, fun call listed => absurd listed List.not_mem_nil⟩

theorem Traced.answer (traced : w.Traced) (action : Action) : (w.answer action).2.Traced := by
  rw [← answerIn_alone]
  exact (traced.answerIn {} [] action).1

end World

/-! ### Episodes -/

namespace Episode

variable {ρ : Type}

def calls (e : Episode ρ) : List Call := e.contacts.map Contact.toCall

def reported? (e : Episode ρ) : Option Stamp := e.use.reported? e.calls

def succeeded (e : Episode ρ) : Bool := e.use.succeeds e.calls e.answer

def lastSuccess? (past : List (Episode ρ)) : Option (Episode ρ) := past.reverse.find? succeeded

theorem lastSuccess?_concat (past : List (Episode ρ)) (e : Episode ρ) :
    lastSuccess? (past ++ [e]) = if e.succeeded then some e else lastSuccess? past := by
  rw [lastSuccess?, List.reverse_concat, List.find?_cons]
  cases e.succeeded <;> rfl

variable [Record ρ]

/-- What a record shows of its past: an empty revision as long as nothing has succeeded, then the stamp that the store
reported in the last episode that has. -/
def Shows (past : List (Episode ρ)) (r : ρ) : Prop :=
  match lastSuccess? past with
  | none => Record.rev r = ""
  | some e => ∃ key rev, e.reported? = some ⟨some key, rev⟩ ∧ Record.stamp r = ⟨some key, rev⟩ ∧ rev ≠ ""

variable {past : List (Episode ρ)} {e : Episode ρ} {r r' : ρ}

theorem shows_of_none (none : lastSuccess? past = none) : Shows past r ↔ Record.rev r = "" := by
  rw [Shows, none]

theorem shows_of_some (some : lastSuccess? past = some e) : Shows past r ↔
    ∃ key rev, e.reported? = .some ⟨.some key, rev⟩ ∧ Record.stamp r = ⟨.some key, rev⟩ ∧ rev ≠ "" := by
  rw [Shows, some]

theorem Shows.congr (shows : Shows past r) (same : Record.stamp r' = Record.stamp r) : Shows past r' := by
  unfold Shows Record.rev at shows ⊢
  rwa [same]

theorem Shows.isPersisted (shows : Shows past r) : Record.isPersisted r = (lastSuccess? past).isSome := by
  cases last : lastSuccess? past with
  | none =>
    rw [shows_of_none last] at shows
    simp [Record.isPersisted, shows]
  | some e =>
    obtain ⟨key, rev, -, stamped, numbered⟩ := (shows_of_some last).mp shows
    simp [Record.isPersisted, Record.rev, stamped, numbered]

theorem Shows.transient (shows : Shows past r) (without : Record.key r = none) : Record.rev r = "" := by
  cases last : lastSuccess? past with
  | none => exact (shows_of_none last).mp shows
  | some e =>
    obtain ⟨key, rev, -, stamped, -⟩ := (shows_of_some last).mp shows
    rw [Record.key, stamped] at without
    cases without

theorem Shows.keeps (shows : Shows past r) {db : Database} (keeps : db.Keeps r r') : Shows past r' := by
  cases last : lastSuccess? past with
  | none => exact (shows_of_none last).mpr (keeps.rev.trans ((shows_of_none last).mp shows))
  | some e =>
    obtain ⟨key, rev, -, stamped, -⟩ := (shows_of_some last).mp shows
    refine shows.congr (keeps.stamp ?_)
    rw [Record.key, stamped]
    exact Option.some_ne_none _

structure Sound (before : List (Episode ρ)) (e : Episode ρ) : Prop where
  start : Shows before e.start
  finish : Shows (before ++ [e]) e.finish
  /-- A save inserts the record if and only if nothing has succeeded before. -/
  way : e.use.saves = true → ∀ k ∈ e.contacts, k.request.inserts? = some (lastSuccess? before).isNone
  /-- A save that fails leaves the store and the revision alone, and the key too, unless the record was new and without
  a key and has been given a generated one. -/
  failed : e.use.saves = true → e.answer.isOk = false →
    (∀ k ∈ e.contacts, Store.SameButKeys k.before k.after) ∧ Record.rev e.finish = Record.rev e.start ∧
      (Record.key e.finish = Record.key e.start ∨
        Record.key e.start = none ∧ Record.rev e.start = "" ∧ Record.kind ρ = .vertex ∧
          ∃ generate n, e.use.db.config.keyGenerator = some generate ∧ Record.key e.finish = some (generate n))
  reloads : ∀ c, e.use = .reload c → e.answer.isOk = false → e.finish = e.start

theorem sound_of_outcome {before : List (Episode ρ)} (shows : Shows before e.start)
    (outcome : e.use.Outcome e.start e.calls e.answer e.finish) (harmless : ∀ k ∈ e.contacts, k.Harmless) :
    e.Sound before := by
  refine ⟨shows, ?_, fun saves k listed => ?_, fun saves failed => ⟨fun k listed => ?_, ?_⟩, outcome.reloads⟩
  · cases succeeded : e.succeeded with
    | true =>
      have last : lastSuccess? (before ++ [e]) = some e := by rw [lastSuccess?_concat, if_pos succeeded]
      exact (shows_of_some last).mpr (outcome.gained succeeded)
    | false =>
      have last : lastSuccess? (before ++ [e]) = lastSuccess? before := by
        rw [lastSuccess?_concat, if_neg (Bool.eq_false_iff.mp succeeded)]
      have kept := shows.keeps (outcome.kept succeeded)
      unfold Shows at kept ⊢
      rwa [last]
  · rw [outcome.way saves k.toCall (List.mem_map_of_mem listed), shows.isPersisted]
    cases lastSuccess? before <;> rfl
  · exact harmless k listed (outcome.refused saves failed k.toCall (List.mem_map_of_mem listed))
  · have unsuccessful : e.use.succeeds e.calls e.answer = false := by
      cases use : e.use <;> rw [use] at saves <;> first | exact failed | cases saves
    have keeps := outcome.kept unsuccessful
    refine ⟨keeps.rev, keeps.key.imp_right ?_⟩
    rintro ⟨without, vertex, generated⟩
    exact ⟨without, shows.transient without, vertex, generated⟩

end Episode

/-! ### The invariant -/

namespace OwnerSystem

variable {ρ : Type} [Record ρ] {σ : OwnerSystem ρ}

structure UnderWay (record : ρ) (u : PendingUse ρ) : Prop where
  start : u.start = record
  follows : u.program.Follows .credible (fun calls a => u.use.Outcome u.start calls a.1 a.2)
    (u.contacts.map Contact.toCall)
  harmless : ∀ k ∈ u.contacts, k.Harmless

structure Sound (σ : OwnerSystem ρ) : Prop where
  world : σ.world.Traced
  record : Episode.Shows σ.past σ.record
  current : ∀ u, σ.current = some u → UnderWay σ.record u
  past : ∀ (i : Nat) (e : Episode ρ), σ.past[i]? = some e → e.Sound (σ.past.take i)

theorem not_underWay {record : ρ} (u : PendingUse ρ) (pending : none = some u) : UnderWay record u := by
  cases pending

theorem UnderWay.act {record : ρ} {use : RecordUse ρ} {start : ρ} {action : Action}
    {next : action.Answer → Program (Except ClientError Unit × ρ)} {contacts : List Contact} {w : World}
    (under : UnderWay record ⟨use, start, .act action next, contacts⟩) (traced : w.Traced) (t : Turn) :
    UnderWay record ⟨use, start, next (w.answerIn t action).1,
      contacts ++ (action.calls (w.answerIn t action).1).map fun call =>
        ⟨call, (w.await t).store.store, (w.answerIn t action).2.store.store⟩⟩ := by
  obtain ⟨same, follows, harmless⟩ := under
  obtain ⟨-, expected, careful⟩ := traced.answerIn t (contacts.map Contact.toCall) action
  refine ⟨same, ?_, fun k listed => ?_⟩
  · have goesOn := follows.2 _ expected
    rwa [List.map_append, List.map_map, show Contact.toCall ∘ (fun call => (⟨call, _, _⟩ : Contact)) = id from rfl,
      List.map_id]
  · rcases List.mem_append.mp listed with before | new
    · exact harmless k before
    · obtain ⟨call, made, rfl⟩ := List.mem_map.mp new
      exact careful call made

theorem Sound.finish (sound : Sound σ) {use : RecordUse ρ} {start r : ρ} {answer : Except ClientError Unit}
    {contacts : List Contact} (under : UnderWay σ.record ⟨use, start, .done (answer, r), contacts⟩) :
    Sound { σ with record := r, current := none, past := σ.past ++ [⟨use, start, contacts, answer, r⟩] } := by
  obtain ⟨rfl, outcome, harmless⟩ := under
  have own : Episode.Sound σ.past ⟨use, σ.record, contacts, answer, r⟩ :=
    Episode.sound_of_outcome sound.record outcome harmless
  refine ⟨sound.world, own.finish, not_underWay, fun i e there => ?_⟩
  rcases Nat.lt_or_ge i σ.past.length with before | beyond
  · rw [List.getElem?_append_left before] at there
    rw [List.take_append_of_le_length (Nat.le_of_lt before)]
    exact sound.past i e there
  · obtain ⟨rfl, rfl⟩ : i = σ.past.length ∧ e = ⟨use, σ.record, contacts, answer, r⟩ := by
      rw [List.getElem?_append_right beyond, List.getElem?_singleton] at there
      split at there
      · rename_i last
        exact ⟨by omega, (Option.some.inj there).symm⟩
      · cases there
    rwa [List.take_left]

/-- What may happen: the client leaves key and revision of its record to the store. -/
def Allows : OwnerMove ρ → Prop
  | .change f => ∀ r, Record.stamp (f r) = Record.stamp r
  | _ => True

/-- The systems that an owner and anybody else can lead to, from a store in memory with any history and a record that
has not been written. -/
inductive Reachable : OwnerSystem ρ → Prop where
  | start (batchSize : Nat) (history : List Request) {w : World} {r : ρ}
      (plain : w.store = ⟨(Store.empty batchSize).afterAll history, []⟩) (new : Record.rev r = "") :
      Reachable { world := w, record := r }
  | step {σ : OwnerSystem ρ} (before : Reachable σ) (m : OwnerMove ρ) (allowed : Allows m) : Reachable (σ.step m)

theorem Reachable.foldl (reachable : Reachable σ) (moves : List (OwnerMove ρ)) (allowed : ∀ m ∈ moves, Allows m) :
    Reachable (moves.foldl OwnerSystem.step σ) := by
  induction moves generalizing σ with
  | nil => exact reachable
  | cons m rest ih =>
    obtain ⟨first, later⟩ := List.forall_mem_cons.mp allowed
    exact ih (reachable.step m first) later

variable [StampedRecord ρ]

theorem Sound.step (sound : Sound σ) (m : OwnerMove ρ) (allowed : Allows m) : Sound (σ.step m) := by
  cases m with
  | change f =>
    cases current : σ.current with
    | none =>
      simp only [OwnerSystem.step, current]
      exact ⟨sound.world, sound.record.congr (allowed σ.record), not_underWay, sound.past⟩
    | some u => simpa only [OwnerSystem.step, current] using sound
  | begin use =>
    cases current : σ.current with
    | none =>
      simp only [OwnerSystem.step, current]
      refine ⟨sound.world, sound.record, ?_, sound.past⟩
      rintro _ ⟨⟩
      exact ⟨rfl, use.program_follows σ.record, fun k listed => absurd listed List.not_mem_nil⟩
    | some u => simpa only [OwnerSystem.step, current] using sound
  | act t =>
    cases current : σ.current with
    | none => simpa only [OwnerSystem.step, current] using sound
    | some u =>
      obtain ⟨use, start, program, contacts⟩ := u
      cases program with
      | done | stalled => simpa only [OwnerSystem.step, current] using sound
      | act action next =>
        simp only [OwnerSystem.step, current]
        refine ⟨(sound.world.answerIn t [] action).1, sound.record, ?_, sound.past⟩
        rintro _ ⟨⟩
        exact (sound.current _ current).act sound.world t
  | finish =>
    cases current : σ.current with
    | none => simpa only [OwnerSystem.step, current] using sound
    | some u =>
      obtain ⟨use, start, program, contacts⟩ := u
      cases program with
      | act | stalled => simpa only [OwnerSystem.step, current] using sound
      | done result =>
        obtain ⟨answer, r⟩ := result
        simp only [OwnerSystem.step, current]
        exact sound.finish (sound.current _ current)
  | other action => exact ⟨sound.world.answer action, sound.record, sound.current, sound.past⟩

theorem Reachable.sound (reachable : Reachable σ) : Sound σ := by
  induction reachable with
  | start batchSize history plain new =>
    exact ⟨⟨_, _, plain, Store.traced_afterAll batchSize history⟩, (Episode.shows_of_none rfl).mpr new,
      not_underWay, fun i e there => by cases there⟩
  | step before m allowed ih => exact ih.step m allowed

/-- Whatever an owner and anybody else do, the record shows what has become of it at every moment, and each use of it has
kept to that. -/
theorem record_shows_past (reachable : Reachable σ) :
    Episode.Shows σ.past σ.record ∧
      ∀ (i : Nat) (e : Episode ρ), σ.past[i]? = some e → e.Sound (σ.past.take i) :=
  ⟨reachable.sound.record, reachable.sound.past⟩

/-- A name that is taken, then another one while somebody empties the collection; a save that comes too late, and one of
a record that is not stored any more. -/
theorem retried_record_shows_past :
    let c : RecordCollection Sample.Identity := ⟨{ config := { keyGenerator := some fun n => "k" ++ toString n } }, "c"⟩
    let moves : List (OwnerMove Sample.Identity) :=
      [.other (.store (.createCollection "c" {})),
        .other (.store (.ensureIndex "c" { fields := ["name"], unique := true })),
        .other (.store (.insert "c" [("name", .string "a")])),
        .begin (.save c []), .act {}, .act {}, .act {}, .finish, .change fun r => { r with name := "b" },
        .begin (.save c []), .act {}, .act { before := [.truncateCollection "c"] }, .finish,
        .other (.store (.replace "c" [("_key", .string "k0"), ("name", .string "d")])),
        .begin (.save c []), .act {}, .act {}, .finish, .begin (.reload c), .act {}, .finish,
        .other (.store (.truncateCollection "c")), .begin (.save c []), .act {}, .act {}, .finish]
    let σ := moves.foldl step { world := World.empty 1, record := { name := "a" } }
    Reachable σ ∧ σ.past.map (·.answer.isOk) = [false, true, false, true, false] ∧
      Record.stamp σ.record = ⟨some "k0", "_r00000003"⟩ ∧ Episode.Shows σ.past σ.record := by
  intro c moves σ
  have allowed : ∀ m ∈ moves, Allows m := by simp [moves, Allows, Record.stamp]
  have reachable : Reachable σ := (Reachable.start 1 [] rfl rfl).foldl moves allowed
  exact ⟨reachable, by decide +kernel, by decide +kernel, (record_shows_past reachable).1⟩

end OwnerSystem
end RecordStore
