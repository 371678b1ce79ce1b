import RecordStore.Client.Round
import RecordStore.Proofs.Client.LockInvariant
import RecordStore.Proofs.Record.Stamp

/-!
# The protocol of rounds

A round follows the protocol of locks for its lock, and does its own work only while it holds it: it loads the record,
asks for the time of the hook, and replaces the document that it has loaded by the one that its change leads to. So the
round is at most two steps away from a document that nobody else may replace meanwhile.
-/

namespace RecordStore

open LockBackend (protocol)

variable {ρ : Type} [Record ρ]

/-- The document that a record is saved as that has been loaded from a document and changed. -/
def RecordCollection.revise (c : RecordCollection ρ) (context : SaveContext) (change : ρ → ρ) (time : Nat)
    (document : Document) : Except ClientError Document :=
  match Record.ofValue (.object document) with
  | .error e => .error e
  | .ok r =>
    match Record.beforeSave false context time (change r) with
    | (.error e, _) => .error e
    | (.ok (), r) => Record.document r c.db.directory c.name

/-- A stored document under a key, which shows the key and its revision. -/
def Document.Shows (key : String) (document : Document) : Prop :=
  document.text? Attribute.key = some key ∧ ∃ rev, rev ≠ "" ∧ document.text? Attribute.rev = some rev

/-- An error that blames the document that was to be saved in a collection: it has values that another one has on a
unique index, or it lacks an end of an edge. -/
def StoreError.Blames (name : String) (e : StoreError) : Prop :=
  (∃ fields, e = (Refusal.notUnique name fields).error) ∨ ∃ field, e = (Refusal.badEndpoint field).error

/-- How far a round has come with the record. -/
inductive Stage where
  | fresh
  | loaded (document : Document)
  /-- The hook is told the time. -/
  | timed (document : Document) (time : Nat)
  | refused (document : Document) (time : Nat) (e : StoreError)
  | saved

/-- How far a round has come with the lock and with the record. -/
structure RoundPhase where
  lock : LockPhase
  stage : Stage

namespace Stage

def allows (c : RecordCollection ρ) (key : String) (context : SaveContext) (change : ρ → ρ) : Stage → Action → Prop
  | fresh, .store (.get name other) => name = c.name ∧ other = key
  | loaded _, .now => True
  | timed _ _, .note _ => True
  | timed document time, .store (.replace name revised) =>
    name = c.name ∧ c.revise context change time document = .ok revised
  | _, _ => False

def expects (key : String) : Stage → (action : Action) → action.Answer → Prop
  | fresh, .store (.get _ _), answer => ∃ document, answer = .ok (some document) ∧ document.Shows key
  | timed _ _, .store (.replace name _), answer => ∀ e, answer = .error e → e.Blames name
  | _, _, _ => True

def found? : Stage → Option Document
  | loaded document | timed document _ | refused document _ _ => some document
  | fresh | saved => none

def after : Stage → (action : Action) → action.Answer → Stage
  | fresh, .store (.get _ _), .ok (some document) => loaded document
  | loaded document, .now, time => timed document time
  | timed _ _, .store (.replace _ _), .ok _ => saved
  | timed document time, .store (.replace _ _), .error e => refused document time e
  | stage, _, _ => stage

end Stage

namespace RecordCollection

variable {c : RecordCollection ρ} {key locks : String} {context : SaveContext} {change : ρ → ρ}

/-- The protocol of a round. Nobody loses a call, so the lock is always given back. -/
def protocol (c : RecordCollection ρ) (key locks : String) (context : SaveContext) (change : ρ → ρ) :
    Protocol RoundPhase where
  allows x action := (LockBackend.protocol locks).allows x.lock action ∨
    (∃ own, x.lock = .holding (c.lockName key) own) ∧ x.stage.allows c key context change action
  waits x := (LockBackend.protocol locks).waits x.lock
  expects x action answer := (LockBackend.protocol locks).expects x.lock action answer ∧
    (∀ name own, (LockBackend.protocol locks).after x.lock action answer ≠ .left name own) ∧
    x.stage.expects key action answer
  after x action answer := ⟨(LockBackend.protocol locks).after x.lock action answer, x.stage.after action answer⟩

theorem allows_cases {x : RoundPhase} {action : Action}
    (allowed : (c.protocol key locks context change).allows x action) :
    (LockBackend.protocol locks).allows x.lock action ∨
      ∃ own, x.lock = .holding (c.lockName key) own ∧
        ((x.stage = .fresh ∧ action = .store (.get c.name key)) ∨
          (∃ document, x.stage = .loaded document ∧ action = .now) ∨
          (∃ document time subjects, x.stage = .timed document time ∧ action = .note subjects) ∨
          ∃ document time revised, x.stage = .timed document time ∧ action = .store (.replace c.name revised) ∧
            c.revise context change time document = .ok revised) := by
  rcases allowed with lock | ⟨⟨own, holding⟩, works⟩
  · exact .inl lock
  refine .inr ⟨own, holding, ?_⟩
  obtain ⟨lock, stage⟩ := x
  dsimp only at works ⊢
  unfold Stage.allows at works
  split at works
  · obtain ⟨rfl, rfl⟩ := works
    exact .inl ⟨rfl, rfl⟩
  · exact .inr (.inl ⟨_, rfl, rfl⟩)
  · exact .inr (.inr (.inl ⟨_, _, _, rfl, rfl⟩))
  · obtain ⟨rfl, revised⟩ := works
    exact .inr (.inr (.inr ⟨_, _, _, rfl, rfl, revised⟩))
  · exact works.elim

/-- What a change leads to shows key and revision of what was loaded. -/
theorem revise_shows [LawfulRecord ρ] (payload : ∀ r, Record.stamp (change r) = Record.stamp r)
    {document revised : Document} {time : Nat} {rev : String} (new : rev ≠ "")
    (keyed : document.text? Attribute.key = some key) (shown : document.text? Attribute.rev = some rev)
    (ok : c.revise context change time document = .ok revised) :
    revised.text? Attribute.key = some key ∧ revised.text? Attribute.rev = some rev := by
  unfold revise at ok
  split at ok
  · cases ok
  · rename_i r read
    have stamped := (payload r).trans (Record.stamp_ofValue read keyed shown)
    split at ok
    · cases ok
    · rename_i r' hook
      have kept := LawfulRecord.stamp_beforeSave false context time (change r)
      rw [hook] at kept
      exact Record.document_shows (kept.trans stamped) new ok

/-! ### The lock of a round -/

/-- Work on the lock takes it, or it does not move on to another lock. -/
theorem lock_cases {x : LockPhase} {action : Action} (allowed : (LockBackend.protocol locks).allows x action)
    (answer : action.Answer) :
    (∃ name own, x = .away name ∧ (LockBackend.protocol locks).after x action answer = .holding name own ∧
        (action.calls answer).any (Call.inserts locks) = true) ∨
      ((LockBackend.protocol locks).after x action answer).key? = x.key? ∧
        (∀ name, x.name? = some name → ((LockBackend.protocol locks).after x action answer).name? = some name) ∧
        (∀ stored, ((LockBackend.protocol locks).after x action answer).stored? = some stored →
          x.stored? = some stored) ∧
        (action.calls answer).any (Call.inserts locks) = false := by
  cases action with
  | store r =>
    rcases LockBackend.allows_store allowed with ⟨rfl, rfl | rfl | rfl⟩ | ⟨name, expires, rfl, rfl⟩ |
      ⟨name, own, rfl, rfl⟩ | ⟨name, own, rfl, rfl⟩
    · exact .inr ⟨rfl, nofun, nofun, rfl⟩
    · exact .inr ⟨rfl, nofun, nofun, rfl⟩
    · cases answer <;> exact .inr ⟨rfl, nofun, nofun, rfl⟩
    · cases answer with
      | ok header =>
        exact .inl ⟨name, header.key, rfl, rfl, by simp [Action.calls, Call.inserts, Except.isOk, Except.toBool]⟩
      | error e =>
        exact .inr ⟨rfl, fun _ same => same, nofun, by simp [Action.calls, Call.inserts, Except.isOk, Except.toBool]⟩
    · cases answer <;> exact .inr ⟨rfl, fun _ same => same, fun _ same => same, rfl⟩
    · cases answer with
      | ok deleted => exact .inr ⟨rfl, fun _ same => same, nofun, rfl⟩
      | error e => exact .inr ⟨rfl, fun _ same => same, fun _ same => same, rfl⟩
  | now | patience =>
    refine .inr ?_
    cases x <;> exact ⟨rfl, fun _ same => same, fun _ same => same, rfl⟩
  | _ => cases x <;> exact allowed.elim

/-- Work on the lock does not touch the record: it saves nothing, and asks for the time only before the lock is taken. -/
theorem lock_apart (key : String) {x : LockPhase} {action : Action}
    (allowed : (LockBackend.protocol locks).allows x action) {stage : Stage} (inert : stage = .fresh ∨ x.key?.isSome)
    (answer : action.Answer) :
    stage.after action answer = stage ∧ stage.expects key action answer ∧
      (action.calls answer).findSome? Call.replaced? = none ∧ (x.key?.isSome → action.time? answer = none) := by
  cases action with
  | store r =>
    rcases LockBackend.allows_store allowed with ⟨-, rfl | rfl | rfl⟩ | ⟨name, expires, -, rfl⟩ |
      ⟨name, own, -, rfl⟩ | ⟨name, own, -, rfl⟩
    all_goals cases stage <;> exact ⟨rfl, trivial, rfl, fun _ => rfl⟩
  | now =>
    rcases inert with rfl | keyed
    · refine ⟨rfl, trivial, rfl, fun keyed => ?_⟩
      cases x <;> first | exact allowed.elim | cases keyed
    · cases x <;> first | exact allowed.elim | cases keyed
  | patience => cases stage <;> exact ⟨rfl, trivial, rfl, fun _ => rfl⟩
  | _ => cases x <;> exact allowed.elim

/-- What follows the protocol of locks follows that of rounds, and leaves the record alone. -/
theorem lock_follows {α : Type} {p : Program α} {x : LockPhase} {rests : LockPhase → α → Prop} {stage : Stage}
    (follows : p.Follows (LockBackend.protocol locks) rests x) (kept : ∀ name own, x ≠ .left name own)
    (inert : stage = .fresh ∨ x.key?.isSome) :
    p.Follows (c.protocol key locks context change)
      (fun y a => ∃ x, y = ⟨x, stage⟩ ∧ (∀ name own, x ≠ .left name own) ∧ rests x a) ⟨x, stage⟩ := by
  -- the lock moves on as it does without the record, and the stage stays as it is
  refine (follows.lift (fun x y => y = ⟨x, stage⟩ ∧ (∀ name own, x ≠ .left name own) ∧
    (stage = .fresh ∨ x.key?.isSome)) ?_ ?_ ⟨rfl, kept, inert⟩).mono ?_
  · rintro x _ ⟨rfl, -⟩ waits
    exact waits
  · rintro x _ action ⟨rfl, -, inert⟩ allowed
    refine ⟨.inl allowed, fun answer ⟨expected, fine, _⟩ => ⟨expected, ?_, fine, ?_⟩⟩
    · show RoundPhase.mk _ _ = _
      rw [(lock_apart key allowed inert answer).1]
    · exact inert.imp_right fun keyed => LockBackend.isSome_key?_after locks keyed _ answer
  · rintro _ a ⟨x, ⟨rfl, kept, -⟩, rests⟩
    exact ⟨x, rfl, kept, rests⟩

theorem release_follows (pollDelay : Nat) (own : String) (stage : Stage) :
    ((LockBackend.overStore locks pollDelay).release (c.lockName key)).Follows (c.protocol key locks context change)
      (fun x result => x = ⟨.gone (c.lockName key) own, stage⟩ ∧ result = .ok ())
      ⟨.holding (c.lockName key) own, stage⟩ := by
  have released := @LockBackend.release_follows locks pollDelay (c.lockName key) own
  refine (lock_follows released nofun (.inr rfl)).mono ?_
  rintro _ (e | ⟨⟩) ⟨x, rfl, kept, given⟩
  · exact absurd given (kept _ _)
  · obtain rfl : x = .gone (c.lockName key) own := given
    exact ⟨rfl, rfl⟩

/-! ### Loading, saving and the whole round -/

/-- Why a round has failed that has given its lock back. -/
def Failed (c : RecordCollection ρ) (context : SaveContext) (change : ρ → ρ) (e : ClientError) : Stage → Prop
  | .loaded document => ∀ time, c.revise context change time document = .error e
  | .timed document time => c.revise context change time document = .error e
  | .refused document time refusal => (∃ revised, c.revise context change time document = .ok revised) ∧
    refusal.Blames c.name ∧ e = refusal.translate .save (Record.typeName ρ)
  | _ => False

/-- What is left of a round that has failed: it has given its lock back, or has never had it. -/
def Broken (c : RecordCollection ρ) (key : String) (context : SaveContext) (change : ρ → ρ) (x : RoundPhase)
    (e : ClientError) : Prop :=
  x = ⟨.away (c.lockName key), .fresh⟩ ∨
    ∃ own, x.lock = .gone (c.lockName key) own ∧ c.Failed context change e x.stage

def Ended (c : RecordCollection ρ) (key : String) (context : SaveContext) (change : ρ → ρ) :
    RoundPhase → Except ClientError (ρ × String) → Prop :=
  Program.Settles (fun x _ => ∃ own, x = ⟨.gone (c.lockName key) own, .saved⟩) (c.Broken key context change)

variable {pollDelay : Nat} {own : String}

theorem acquire_follows (configured : c.db.config.lockBackend = some (.overStore locks pollDelay)) :
    (c.acquire key).Follows (c.protocol key locks context change)
      (Program.Settles (fun x guard => guard = ⟨.overStore locks pollDelay, c.lockName key, false⟩ ∧
          ∃ own, x = ⟨.holding (c.lockName key) own, .fresh⟩) (c.Broken key context change))
      ⟨.away (c.lockName key), .fresh⟩ := by
  have taken : ((LockBackend.overStore locks pollDelay).acquire (c.lockName key) true).Follows
      (c.protocol key locks context change) _ ⟨.away (c.lockName key), .fresh⟩ :=
    lock_follows (LockBackend.acquire_follows pollDelay (c.lockName key) true) nofun (.inl rfl)
  simp only [RecordCollection.acquire, lock, configured]
  refine .bind taken ?_
  rintro _ (e | free | free) ⟨x, rfl, -, rests⟩
  · exact .inl (congrArg (RoundPhase.mk · .fresh) rests)
  · exact .inl (congrArg (RoundPhase.mk · .fresh) rests)
  · obtain ⟨own, rfl⟩ := rests
    exact ⟨rfl, own, rfl⟩

/-- A round drops its guard if something fails while it holds the lock. -/
theorem drop_follows {α : Type} {good : RoundPhase → α → Prop} {stage : Stage} {e : ClientError}
    (failed : c.Failed context change e stage) :
    ((LockGuard.mk (.overStore locks pollDelay) (c.lockName key) false).drop.bind fun () =>
        .done (.error e)).Follows (c.protocol key locks context change)
      (Program.Settles good (c.Broken key context change)) ⟨.holding (c.lockName key) own, stage⟩ := by
  have dropped : (LockGuard.mk (.overStore locks pollDelay) (c.lockName key) false).drop =
      ((LockBackend.overStore locks pollDelay).release (c.lockName key)).bind fun _ => .done () := rfl
  rw [dropped, Program.bind_assoc]
  refine .bind (release_follows pollDelay own stage) ?_
  rintro _ result ⟨rfl, -⟩
  exact .inr ⟨own, rfl, failed⟩

theorem lockAndLoad_follows (configured : c.db.config.lockBackend = some (.overStore locks pollDelay)) :
    (c.lockAndLoad key).Follows (c.protocol key locks context change)
      (Program.Settles (fun x (r, guard) => guard = ⟨.overStore locks pollDelay, c.lockName key, false⟩ ∧
          ∃ own document, x = ⟨.holding (c.lockName key) own, .loaded document⟩ ∧ document.Shows key ∧
            Record.ofValue (.object document) = .ok r) (c.Broken key context change))
      ⟨.away (c.lockName key), .fresh⟩ := by
  refine .andThen (acquire_follows configured) ?_
  rintro _ guard ⟨rfl, own, rfl⟩
  refine ⟨.inr ⟨⟨own, rfl⟩, rfl, rfl⟩, fun answer expected => ?_⟩
  obtain ⟨document, rfl, shows⟩ := expected.2.2
  show (Program.bind (.done (Record.ofValue (.object document))) _).Follows _ _
    (RoundPhase.mk (.holding (c.lockName key) own) (.loaded document))
  cases read : (Record.ofValue (.object document) : Except ClientError ρ) with
  | error e => exact drop_follows fun time => by simp only [revise, read]
  | ok r => exact ⟨rfl, own, document, rfl, shows, read⟩

theorem note_follows (types : List RecordType) (document : Document) (time : Nat) :
    (Database.note types).Follows (c.protocol key locks context change)
      (fun x _ => x = ⟨.holding (c.lockName key) own, .timed document time⟩)
      ⟨.holding (c.lockName key) own, .timed document time⟩ := by
  unfold Database.note
  split
  · rfl
  · exact ⟨.inr ⟨⟨own, rfl⟩, trivial⟩, fun _ _ => rfl⟩

/-- The document of the save is the one that the change leads to, at the time that the hook is told. -/
theorem hookAndEncode_follows {document : Document} {r : ρ} (read : Record.ofValue (.object document) = .ok r) :
    (c.db.hookAndEncode c.name false context (change r)).Follows (c.protocol key locks context change)
      (fun x result => ∃ time, x = ⟨.holding (c.lockName key) own, .timed document time⟩ ∧
        result.1 = c.revise context change time document) ⟨.holding (c.lockName key) own, .loaded document⟩ := by
  refine ⟨.inr ⟨⟨own, rfl⟩, trivial⟩, fun time _ => ?_⟩
  show (match Record.beforeSave false context time (change r) with
    | (.error e, r) => .done (.error e, r)
    | (.ok (), r) => (Database.note (Record.asked r c.db.directory)).bind fun _ =>
        .done (Record.document r c.db.directory c.name, r) : Program _).Follows _ _
    (RoundPhase.mk (.holding (c.lockName key) own) (.timed document time))
  cases hook : Record.beforeSave false context time (change r) with
  | mk result r' =>
    cases result with
    | error e => exact ⟨time, rfl, by simp only [revise, read, hook]⟩
    | ok =>
      refine .bind (note_follows _ document time) ?_
      rintro _ _ rfl
      exact ⟨time, rfl, by simp only [revise, read, hook]⟩

theorem save_follows {document : Document} {r : ρ} (read : Record.ofValue (.object document) = .ok r)
    (written : Record.isPersisted (change r) = true) :
    (c.save context (change r)).Follows (c.protocol key locks context change)
      (fun x result => ∃ stage, x = ⟨.holding (c.lockName key) own, stage⟩ ∧
        match result.1 with
        | .ok () => stage = .saved
        | .error e => c.Failed context change e stage) ⟨.holding (c.lockName key) own, .loaded document⟩ := by
  have replaces : ∀ revised, SaveTarget.collection.write (Record.kind ρ) false c.name revised =
      Program.request (.replace c.name revised) := fun revised => by
    cases Record.kind ρ <;> rfl
  simp only [save, Database.persist, written, Bool.not_true, Bool.false_eq_true, if_false, Program.done_bind, replaces]
  refine .bind (hookAndEncode_follows read) ?_
  rintro _ ⟨result, r'⟩ ⟨time, rfl, revised⟩
  cases result with
  | error e => exact ⟨.timed document time, rfl, revised.symm⟩
  | ok written =>
    refine ⟨.inr ⟨⟨own, rfl⟩, rfl, revised.symm⟩, fun answer expected => ?_⟩
    cases answer with
    | ok header => exact ⟨.saved, rfl, rfl⟩
    | error e => exact ⟨.refused document time e, rfl, ⟨written, revised.symm⟩, expected.2.2 e rfl, rfl⟩

theorem update_follows [LawfulRecord ρ] (configured : c.db.config.lockBackend = some (.overStore locks pollDelay))
    (payload : ∀ r, Record.stamp (change r) = Record.stamp r) :
    (c.update key context change).Follows (c.protocol key locks context change) (c.Ended key context change)
      ⟨.away (c.lockName key), .fresh⟩ := by
  refine .andThen (lockAndLoad_follows configured) ?_
  rintro _ ⟨r, guard⟩ ⟨rfl, own, document, rfl, ⟨keyed, rev, new, revised⟩, read⟩
  have written : Record.isPersisted (change r) = true := by
    have stamped : Record.stamp (change r) = ⟨some key, rev⟩ :=
      (payload r).trans (Record.stamp_ofValue read keyed revised)
    simp [Record.isPersisted, Record.rev, stamped, new]
  refine .bind (save_follows read written) ?_
  rintro _ ⟨result, r'⟩ ⟨stage, rfl, settled⟩
  cases result with
  | error e => exact drop_follows settled
  | ok =>
    obtain rfl : stage = .saved := settled
    refine .bind (release_follows pollDelay own .saved) ?_
    rintro _ _ ⟨rfl, rfl⟩
    exact ⟨own, rfl⟩

end RecordCollection
end RecordStore
