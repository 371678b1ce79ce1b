import RecordStore.Proofs.Client.RoundProtocol
import RecordStore.Proofs.Store.Current

/-!
# The invariant of rounds

However rounds take turns, the record is what their saves make of it one after another, in the order in which they have
taken the lock. A round that holds the lock is the last one of that order, and what it has loaded is what the rounds
before it have left. So what it has loaded is still stored when it saves.
-/

namespace RecordStore

open LockBackend (LockStep)

variable {ρ : Type}

/-! ### What rounds have saved -/

namespace RoundSystem

theorem saves_set {σ : RoundSystem ρ} {i : Nat} {r r' : Round ρ} (there : σ.rounds[i]? = some r) (w : World)
    (order : List Nat) {rounds : List Nat} (same : r'.save? = r.save? ∨ i ∉ rounds) :
    (mk w (σ.rounds.set i r') order).saves rounds = σ.saves rounds := by
  refine List.filterMap_congr fun j listed => ?_
  by_cases here : j = i
  · subst here
    rcases same with same | absent
    · have inside := (List.getElem?_eq_some_iff.mp there).1
      dsimp only
      rw [List.getElem?_set_self inside, there, Option.bind_some, Option.bind_some, same]
    · exact absurd listed absent
  · dsimp only
    rw [List.getElem?_set_ne (Ne.symm here)]

theorem saves_append (σ : RoundSystem ρ) {r : Round ρ} (unsaved : r.save? = none) (w : World)
    (order rounds : List Nat) : (RoundSystem.mk w (σ.rounds ++ [r]) order).saves rounds = σ.saves rounds := by
  refine List.filterMap_congr fun j _ => ?_
  dsimp only
  rcases Nat.lt_trichotomy j σ.rounds.length with before | rfl | after
  · rw [List.getElem?_append_left before]
  · rw [List.getElem?_concat_length, List.getElem?_eq_none (Nat.le_refl _)]
    exact unsaved
  · rw [List.getElem?_eq_none (by simp; omega), List.getElem?_eq_none (by omega)]

theorem notMem_before (σ : RoundSystem ρ) (i : Nat) : i ∉ σ.before i := fun listed => by
  simpa using List.all_eq_true.mp List.all_takeWhile i listed

theorem saves_before_set {σ : RoundSystem ρ} {i : Nat} {r r' : Round ρ} (there : σ.rounds[i]? = some r) (w : World)
    (order : List Nat) : (RoundSystem.mk w (σ.rounds.set i r') order).saves (σ.before i) = σ.saves (σ.before i) :=
  saves_set there w order (.inr (σ.notMem_before i))

theorem takeWhile_append_of_mem {order : List Nat} {i : Nat} (listed : i ∈ order) (more : List Nat) :
    (order ++ more).takeWhile (· ≠ i) = order.takeWhile (· ≠ i) := by
  induction order with
  | nil => cases listed
  | cons j rest ih =>
    by_cases same : j = i
    · simp [same]
    · have later : i ∈ rest := by simpa [Ne.symm same] using listed
      rw [List.cons_append, List.takeWhile_cons_of_pos (by simpa using same), ih later,
        List.takeWhile_cons_of_pos (by simpa using same)]

theorem saves_concat (σ : RoundSystem ρ) (rounds : List Nat) (i : Nat) :
    σ.saves (rounds ++ [i]) = σ.saves rounds ++ (σ.rounds[i]?.bind Round.save?).toList := by
  unfold saves
  rw [List.filterMap_append]
  cases h : σ.rounds[i]?.bind Round.save? <;> simp [h]

end RoundSystem

variable [Record ρ] {c : RecordCollection ρ} {key locks : String}

/-- A document with the system attributes that a header tells. -/
def Header.sign (h : Header) (document : Document) : Document :=
  ((document.setText Attribute.key h.key).setText Attribute.id h.id).setText Attribute.rev h.rev

/-- What saves make of a document one after another: each change is applied to what the save before it has left. -/
def RecordCollection.replay (c : RecordCollection ρ) : List (Save ρ) → Document → Except ClientError Document
  | [], document => .ok document
  | save :: rest, document =>
    match c.revise save.context save.change save.time document with
    | .error e => .error e
    | .ok revised => c.replay rest (save.header.sign revised)

theorem RecordCollection.replay_concat {saves : List (Save ρ)} {save : Save ρ} {first document revised : Document}
    (before : c.replay saves first = .ok document)
    (last : c.revise save.context save.change save.time document = .ok revised) :
    c.replay (saves ++ [save]) first = .ok (save.header.sign revised) := by
  induction saves generalizing first with
  | nil =>
    obtain rfl := Except.ok.inj before
    simp only [List.nil_append, replay, last]
  | cons other rest ih =>
    rw [List.cons_append, replay]
    rw [replay] at before
    split
    · rename_i failed
      rw [failed] at before
      cases before
    · rename_i done
      rw [done] at before
      exact ih before

/-! ### One round -/

namespace Stage

def time? : Stage → Option Nat
  | timed _ time | refused _ time _ => some time
  | _ => none

end Stage

structure Round.Sound (c : RecordCollection ρ) (key locks : String) (r : Round ρ) (x : RoundPhase) : Prop where
  payload : ∀ r', Record.stamp (r.change r') = Record.stamp r'
  follows : r.program.Follows (c.protocol key locks r.context r.change) (c.Ended key r.context r.change) x
  named : x.lock.name? = some (c.lockName key)
  kept : ∀ name own, x.lock ≠ .left name own
  inert : x.stage = .fresh ∨ x.lock.key?.isSome
  time : ∀ time, x.stage.time? = some time → r.time = time
  saved : r.save?.isSome ↔ x.stage = .saved
  own : ∀ save, r.save? = some save → save.context = r.context ∧ save.change = r.change

namespace Round

variable {r : Round ρ} {x : RoundPhase}

theorem start_sound [LawfulRecord ρ] {pollDelay : Nat}
    (configured : c.db.config.lockBackend = some (.overStore locks pollDelay)) {change : ρ → ρ}
    (payload : ∀ r, Record.stamp (change r) = Record.stamp r) (context : SaveContext) :
    (start c key context change).Sound c key locks ⟨.away (c.lockName key), .fresh⟩ :=
  ⟨payload, c.update_follows configured payload, rfl, nofun, .inl rfl, nofun, ⟨nofun, nofun⟩, nofun⟩

theorem Sound.act (sound : r.Sound c key locks x) {action : Action}
    {next : action.Answer → Program (Except ClientError (ρ × String))} (acts : r.program = .act action next) {t : Turn}
    {w : World}
    (expected : (c.protocol key locks r.context r.change).expects x action (w.answerIn t action).1) :
    (r.act t w).1.Sound c key locks
      ((c.protocol key locks r.context r.change).after x action (w.answerIn t action).1) := by
  have follows := sound.follows
  rw [acts] at follows
  obtain ⟨allowed, goesOn⟩ := follows
  rw [act_eq acts]
  generalize (w.answerIn t action).1 = answer at *
  have later := goesOn answer expected
  have recorded : ∀ save, ((action.calls answer).findSome? Call.replaced? |>.map (Save.mk r.context r.change r.time)).or
      r.save? = some save → save.context = r.context ∧ save.change = r.change := by
    intro save saves
    rcases Option.or_eq_some_iff.mp saves with saves | ⟨-, before⟩
    · obtain ⟨header, -, rfl⟩ := Option.map_eq_some_iff.mp saves
      exact ⟨rfl, rfl⟩
    · exact sound.own save before
  rcases RecordCollection.allows_cases allowed with lock | ⟨own, holding, works⟩
  · obtain ⟨same, -, nothing, untimed⟩ := RecordCollection.lock_apart key lock sound.inert answer
    have stage : ((c.protocol key locks r.context r.change).after x action answer).stage = x.stage := same
    refine ⟨sound.payload, later, ?_, expected.2.1, ?_, fun time told => ?_, ?_, recorded⟩
    · rcases RecordCollection.lock_cases lock answer with ⟨name, own, away, holding, -⟩ | ⟨-, names, -⟩
      · have named := sound.named
        rw [away] at named
        exact (congrArg LockPhase.name? holding).trans named
      · exact names _ sound.named
    · rw [stage]
      exact sound.inert.imp_right fun keyed => LockBackend.isSome_key?_after locks keyed _ answer
    · rw [stage] at told
      have keyed : x.lock.key?.isSome := by
        rcases sound.inert with fresh | keyed
        · rw [fresh] at told
          cases told
        · exact keyed
      dsimp only
      rw [untimed keyed]
      exact sound.time time told
    · rw [stage]
      dsimp only
      rw [nothing]
      exact sound.saved
  · obtain ⟨lock, stage⟩ := x
    obtain rfl : lock = .holding (c.lockName key) own := holding
    have unsaved : ∀ {next : Stage}, stage ≠ .saved → next ≠ .saved → (r.save?.isSome ↔ next = .saved) := by
      intro next here there
      simp [mt sound.saved.mp here, there]
    rcases works with ⟨fresh, rfl⟩ | ⟨document, loaded, rfl⟩ | ⟨document, time, subjects, timed, rfl⟩ |
      ⟨document, time, revised, timed, rfl, -⟩
    · obtain rfl : stage = .fresh := fresh
      obtain ⟨document, rfl, -⟩ := expected.2.2
      exact ⟨sound.payload, later, rfl, nofun, .inr rfl, nofun, unsaved nofun nofun, recorded⟩
    · obtain rfl : stage = .loaded document := loaded
      exact ⟨sound.payload, later, rfl, nofun, .inr rfl, fun time told => Option.some.inj told, unsaved nofun nofun,
        recorded⟩
    · obtain rfl : stage = .timed document time := timed
      exact ⟨sound.payload, later, rfl, nofun, .inr rfl, sound.time, unsaved nofun nofun, recorded⟩
    · obtain rfl : stage = .timed document time := timed
      cases answer with
      | ok header => exact ⟨sound.payload, later, rfl, nofun, .inr rfl, nofun, ⟨fun _ => rfl, fun _ => rfl⟩, recorded⟩
      | error e => exact ⟨sound.payload, later, rfl, nofun, .inr rfl, sound.time, unsaved nofun nofun, recorded⟩

end Round

/-! ### The order of the rounds -/

/-- The order in which the rounds have taken the lock: those that have or had it, and whoever has it now comes last. -/
structure Ordered (order : List Nat) (phase : Nat → LockPhase) : Prop where
  once : order.Nodup
  member : ∀ i, i ∈ order ↔ (phase i).key?.isSome
  last : ∀ i stored, (phase i).stored? = some stored → order.getLast? = some i

namespace Ordered

variable {order : List Nat} {phase : Nat → LockPhase}

theorem step (ordered : Ordered order phase) {i : Nat} {action : Action}
    (allowed : (LockBackend.protocol locks).allows (phase i) action) (answer : action.Answer)
    (apart : let later := Function.update phase i ((LockBackend.protocol locks).after (phase i) action answer)
      ∀ j k stored other, (later j).stored? = some stored → (later k).stored? = some other → j = k) :
    let next := if (action.calls answer).any (Call.inserts locks) then order ++ [i] else order
    Ordered next (Function.update phase i ((LockBackend.protocol locks).after (phase i) action answer)) ∧
      (next = order ∨ next = order ++ [i] ∧ (phase i).key? = none) := by
  have others : ∀ (x : LockPhase) j, j ≠ i → Function.update phase i x j = phase j := fun x j other =>
    Function.update_of_ne other x phase
  rcases RecordCollection.lock_cases allowed answer with ⟨name, own, away, holding, took⟩ | ⟨keyed, -, stored, took⟩
  · -- nobody else has the lock stored then, since its name would be the same
    rw [holding] at apart ⊢
    dsimp only
    rw [if_pos took]
    have keyless : (phase i).key? = none := by
      rw [away]
      rfl
    have new : i ∉ order := fun listed => by simpa [keyless] using (ordered.member i).mp listed
    refine ⟨⟨?_, fun j => ?_, fun j lock stored => ?_⟩, .inr ⟨rfl, keyless⟩⟩
    · refine List.nodup_append.mpr ⟨ordered.once, List.pairwise_singleton _ _, ?_⟩
      rintro j listed _ isNew rfl
      exact new (List.mem_singleton.mp isNew ▸ listed)
    · by_cases same : j = i
      · subst same
        simp [LockPhase.key?]
      · rw [others _ j same, List.mem_append, ordered.member j]
        simp [same]
    · obtain rfl : j = i := apart j i lock (name, own) stored (by rw [Function.update_self]; rfl)
      simp
  · dsimp only
    rw [if_neg (by simp [took])]
    refine ⟨⟨ordered.once, fun j => ?_, fun j lock later => ?_⟩, .inl rfl⟩
    · by_cases same : j = i
      · subst same
        rw [Function.update_self, keyed, ordered.member]
      · rw [others _ j same, ordered.member]
    · by_cases same : j = i
      · subst same
        rw [Function.update_self] at later
        exact ordered.last j lock (stored lock later)
      · rw [others _ j same] at later
        exact ordered.last j lock later

theorem keyless (ordered : Ordered order phase) {i : Nat} {x : LockPhase} (before : (phase i).key? = none)
    (after : x.key? = none) : Ordered order (Function.update phase i x) := by
  refine ⟨ordered.once, fun j => ?_, fun j stored later => ?_⟩
  · by_cases same : j = i
    · subst same
      rw [Function.update_self, ordered.member, before, after]
    · rw [Function.update_of_ne same, ordered.member]
  · by_cases same : j = i
    · subst same
      rw [Function.update_self] at later
      cases after.symm.trans (LockPhase.key?_of_stored? later)
    · rw [Function.update_of_ne same] at later
      exact ordered.last j stored later

theorem eq_concat (ordered : Ordered order phase) {i : Nat} {stored : String × String}
    (holds : (phase i).stored? = some stored) : order = order.takeWhile (· ≠ i) ++ [i] := by
  obtain ⟨before, split⟩ := List.getLast?_eq_some_iff.mp (ordered.last i stored holds)
  have once := ordered.once
  rw [split, List.nodup_append] at once
  have others : ∀ j ∈ before, decide (j ≠ i) = true := fun j listed => by
    simpa using once.2.2 j listed i List.mem_cons_self
  conv_rhs => rw [split]
  rw [List.takeWhile_append_of_pos others]
  simpa using split

theorem notMem_before (ordered : Ordered order phase) {i j : Nat} {stored : String × String}
    (holds : (phase i).stored? = some stored) (listed : j ∈ order) (other : j ≠ i) : i ∉ order.takeWhile (· ≠ j) := by
  have split := ordered.eq_concat holds
  have earlier : j ∈ order.takeWhile (· ≠ i) := by
    rw [split] at listed
    simpa [other] using List.mem_append.mp listed
  rw [split, RoundSystem.takeWhile_append_of_mem earlier]
  intro there
  simpa using List.all_eq_true.mp List.all_takeWhile i ((List.takeWhile_sublist _).subset there)

end Ordered

/-! ### The invariant of the system -/

namespace RoundSystem

/-- A system whose rounds are in certain phases, and whose record was a certain document at first. -/
structure Sound (c : RecordCollection ρ) (key locks : String) (first : Document) (phase : Nat → RoundPhase)
    (σ : RoundSystem ρ) : Prop where
  plain : σ.world.store = ⟨σ.store, []⟩
  indexed : LockBackend.Indexed locks σ.store
  held : LockBackend.Locks locks (fun i => (phase i).lock) σ.store
  rounds : ∀ (i : Nat) (r : Round ρ), σ.rounds[i]? = some r → r.Sound c key locks (phase i)
  outside : ∀ i, σ.rounds.length ≤ i → phase i = ⟨.outside, .fresh⟩
  ordered : Ordered σ.order fun i => (phase i).lock
  stored : ∃ document, σ.store.document? c.name key = some document ∧ document.Shows key ∧
    c.replay (σ.saves σ.order) first = .ok document
  found : ∀ i document, (phase i).stage.found? = some document →
    c.replay (σ.saves (σ.before i)) first = .ok document

variable {first : Document} {phase : Nat → RoundPhase} {σ : RoundSystem ρ}

/-- The record of a round that holds the lock and has not saved is what the rounds before it have left. -/
theorem Sound.saves_before (sound : Sound c key locks first phase σ) {i : Nat} {own : String}
    (holding : (phase i).lock = .holding (c.lockName key) own) (unsaved : (phase i).stage ≠ .saved) :
    σ.saves σ.order = σ.saves (σ.before i) := by
  have last := sound.ordered.eq_concat (i := i) (by rw [holding]; rfl)
  have nothing : σ.rounds[i]?.bind Round.save? = none := by
    cases there : σ.rounds[i]? with
    | none => rfl
    | some r => simpa using mt (sound.rounds i r there).saved.mp unsaved
  conv_lhs => rw [last]
  rw [saves_concat, nothing]
  exact List.append_nil _

theorem Sound.current (sound : Sound c key locks first phase σ) {i : Nat} {own : String} {document : Document}
    (holding : (phase i).lock = .holding (c.lockName key) own) (found : (phase i).stage.found? = some document) :
    σ.store.document? c.name key = some document := by
  have unsaved : (phase i).stage ≠ .saved := fun saved => by
    rw [saved] at found
    cases found
  obtain ⟨here, stored, -, replayed⟩ := sound.stored
  rw [sound.saves_before holding unsaved, sound.found i document found] at replayed
  rw [stored, Except.ok.inj replayed]

/-! ### What an action does to the record -/

/-- A turn in which no call is lost and others leave the record and the collection of locks alone. -/
structure Spares (c : RecordCollection ρ) (key locks : String) (σ : RoundSystem ρ) (t : Turn) : Prop where
  faultless : t.lost = none
  locks : σ.store.Spares locks t.before
  record : (σ.store.afterAll t.before).document? c.name key = σ.store.document? c.name key

/-- What an action of a round does: it leaves the record alone, it loads it, or it saves it. -/
inductive Work (c : RecordCollection ρ) (key : String) (r : Round ρ) (x : RoundPhase) (s t : Store) (calls : List Call)
    (next : Stage) : Prop where
  | aside (record : t.document? c.name key = s.document? c.name key) (nothing : calls.findSome? Call.replaced? = none)
      (found : ∀ document, next.found? = some document → x.stage.found? = some document)
  | loads {own : String} {document : Document} (record : t.document? c.name key = s.document? c.name key)
      (nothing : calls.findSome? Call.replaced? = none) (holding : x.lock = .holding (c.lockName key) own)
      (fresh : x.stage = .fresh) (loaded : next = .loaded document) (stored : s.document? c.name key = some document)
  | saves {own : String} {document revised : Document} {time : Nat} {header : Header}
      (holding : x.lock = .holding (c.lockName key) own) (timed : x.stage = .timed document time)
      (leads : c.revise r.context r.change time document = .ok revised)
      (answered : calls.findSome? Call.replaced? = some header) (saved : next = .saved)
      (record : t.document? c.name key = some (header.sign revised)) (shows : (header.sign revised).Shows key)

structure Worked (c : RecordCollection ρ) (key locks : String) (phase : Nat → RoundPhase) (σ : RoundSystem ρ) (i : Nat)
    (r : Round ρ) (action : Action) (answer : action.Answer) (t : Store) : Prop where
  expected : (c.protocol key locks r.context r.change).expects (phase i) action answer
  indexed : LockBackend.Indexed locks t
  held : LockBackend.Locks locks (Function.update (fun j => (phase j).lock) i
    ((LockBackend.protocol locks).after (phase i).lock action answer)) t
  work : Work c key r (phase i) σ.store t (action.calls answer) ((phase i).stage.after action answer)

theorem stamp_shows (name key : String) (n : Nat) (document : Document) :
    (Store.stamp name key n document).Shows key :=
  ⟨Store.text?_key_stamp .., Store.revision n, Store.revision_ne_empty n, Store.text?_rev_stamp ..⟩

theorem Sound.worked_lock (sound : Sound c key locks first phase σ) (separate : c.name ≠ locks) {i : Nat} {r : Round ρ}
    (there : σ.rounds[i]? = some r) {t : Turn} (spares : σ.Spares c key locks t) {action : Action}
    (lock : (LockBackend.protocol locks).allows (phase i).lock action) :
    ∃ s, (σ.world.answerIn t action).2.store = ⟨s, []⟩ ∧
      Worked c key locks phase σ i r action (σ.world.answerIn t action).1 s := by
  have own := sound.rounds i r there
  obtain ⟨s, plain, acted⟩ := LockBackend.action_granted sound.held sound.plain spares.locks lock
  have kept := LockBackend.action_given_back sound.held sound.plain spares.locks spares.faultless lock own.kept
  obtain ⟨same, expects, nothing, -⟩ := RecordCollection.lock_apart key lock own.inert (σ.world.answerIn t action).1
  refine ⟨s, plain, ⟨acted.expected, kept, expects⟩, acted.step.indexed sound.indexed, acted.locks, ?_⟩
  rw [same]
  refine .aside ?_ nothing fun _ found => found
  rw [← spares.record, Store.document?, Store.document?, acted.elsewhere c.name separate]

theorem Sound.answered (sound : Sound c key locks first phase σ) {t : Turn} (spares : σ.Spares c key locks t)
    (r : Request) : σ.world.answerIn t (.store r) = (((σ.store.afterAll t.before).answer r).1,
      { σ.world.await t with store := ⟨((σ.store.afterAll t.before).answer r).2, []⟩ }) := by
  rcases World.answerIn_store (t := t) sound.plain r with ⟨e, answer, lost, -⟩ | ⟨-, answered⟩
  · cases spares.faultless.symm.trans lost
  · exact answered

/-- What a round has loaded is still stored when it saves, so only the new document itself can be a reason to refuse. -/
theorem Sound.saving [LawfulRecord ρ] (sound : Sound c key locks first phase σ) (named : key ≠ "") {i : Nat}
    {r : Round ρ} (there : σ.rounds[i]? = some r) {t : Turn} (spares : σ.Spares c key locks t) {own : String}
    (holding : (phase i).lock = .holding (c.lockName key) own) {document revised : Document} {time : Nat}
    (timed : (phase i).stage = .timed document time)
    (leads : c.revise r.context r.change time document = .ok revised) :
    let s := σ.store.afterAll t.before
    (∃ e, s.answer (.replace c.name revised) = (.error e, s) ∧ s.Rejects c.name key revised e) ∨
      ∃ l, s.answer (.replace c.name revised) =
          (.ok ⟨Store.idOf c.name key, key, Store.revision (s.revCounter + 1)⟩, s.replaced c.name l key revised) ∧
        l.find? key = some document := by
  have current := sound.current holding (by rw [timed]; rfl)
  obtain ⟨stored, same, ⟨keyed, rev, new, shown⟩, -⟩ := sound.stored
  obtain rfl : document = stored := Option.some.inj (current.symm.trans same)
  obtain ⟨keyed', presented⟩ := RecordCollection.revise_shows (sound.rounds i r there).payload new keyed shown leads
  exact Store.replace_current (spares.record.trans current) shown named keyed' presented

theorem Sound.worked_own [LawfulRecord ρ] (sound : Sound c key locks first phase σ) (separate : c.name ≠ locks)
    (named : key ≠ "") {i : Nat} {r : Round ρ} (there : σ.rounds[i]? = some r) {t : Turn}
    (spares : σ.Spares c key locks t) {own : String} (holding : (phase i).lock = .holding (c.lockName key) own)
    {action : Action}
    (works : ((phase i).stage = .fresh ∧ action = .store (.get c.name key)) ∨
      (∃ document, (phase i).stage = .loaded document ∧ action = .now) ∨
      (∃ document time subjects, (phase i).stage = .timed document time ∧ action = .note subjects) ∨
      ∃ document time revised, (phase i).stage = .timed document time ∧ action = .store (.replace c.name revised) ∧
        c.revise r.context r.change time document = .ok revised) :
    ∃ s, (σ.world.answerIn t action).2.store = ⟨s, []⟩ ∧
      Worked c key locks phase σ i r action (σ.world.answerIn t action).1 s := by
  have waited : ∀ own, LockStep locks own σ.store (σ.store.afterAll t.before) := fun own => .of_spares spares.locks
  have await : (σ.world.await t).store = ⟨σ.store.afterAll t.before, []⟩ := World.await_store sound.plain
  -- none of these actions has to do with locks
  have apart : ∀ answer, (LockBackend.protocol locks).expects (phase i).lock action answer ∧
      (LockBackend.protocol locks).after (phase i).lock action answer = (phase i).lock := by
    rw [holding]
    rcases works with ⟨-, rfl⟩ | ⟨_, -, rfl⟩ | ⟨_, _, _, -, rfl⟩ | ⟨_, _, _, -, rfl, -⟩ <;>
      exact fun _ => ⟨trivial, rfl⟩
  have worked : ∀ answer s, LockStep locks none σ.store s → (phase i).stage.expects key action answer →
      Work c key r (phase i) σ.store s (action.calls answer) ((phase i).stage.after action answer) →
      Worked c key locks phase σ i r action answer s := by
    intro answer s step expected work
    obtain ⟨expects, same⟩ := apart answer
    refine ⟨⟨expects, ?_, expected⟩, step.indexed sound.indexed, ?_, work⟩
    · rw [same, holding]
      nofun
    · rw [same, Function.update_eq_self i fun j => (phase j).lock]
      exact sound.held.stay step
  rcases works with ⟨fresh, rfl⟩ | ⟨document, loaded, rfl⟩ | ⟨document, time, subjects, timed, rfl⟩ |
    ⟨document, time, revised, timed, rfl, leads⟩
  · obtain ⟨document, stored, shows, -⟩ := sound.stored
    rw [sound.answered spares, Store.answer_get (spares.record.trans stored)]
    refine ⟨_, rfl, worked _ _ (waited none) ?_ (.loads spares.record rfl holding fresh ?_ stored)⟩
    · rw [fresh]
      exact ⟨document, rfl, shows⟩
    · rw [fresh]
      rfl
  · refine ⟨_, await, worked _ _ (waited none) ?_ (.aside spares.record rfl ?_)⟩ <;> rw [loaded]
    · trivial
    · exact fun _ found => found
  · refine ⟨_, await, worked _ _ (waited none) ?_ (.aside spares.record rfl ?_)⟩ <;> rw [timed]
    · trivial
    · exact fun _ found => found
  · rw [sound.answered spares]
    rcases sound.saving named there spares holding timed leads with ⟨e, refused, l, -, blames⟩ | ⟨l, done, found⟩
    · rw [refused]
      refine ⟨_, rfl, worked _ _ (waited none) ?_ (.aside spares.record rfl ?_)⟩ <;> rw [timed]
      · rintro _ ⟨⟩
        rcases blames with ⟨field, -, rfl⟩ | ⟨index, -, rfl⟩
        · exact .inr ⟨field, rfl⟩
        · exact .inl ⟨index.fields, rfl⟩
      · exact fun _ found => found
    · rw [done]
      refine ⟨_, rfl, worked _ _ ((waited none).trans (.of_same ?_ (Nat.le_refl _))) ?_
        (.saves holding timed leads rfl ?_ (Store.document?_replaced found revised) (stamp_shows ..))⟩
      · exact Table.get?_set_of_ne _ _ separate
      · rw [timed]
        nofun
      · rw [timed]
        rfl

/-! ### The invariant is kept -/

theorem lock_update (phase : Nat → RoundPhase) (i : Nat) (x : RoundPhase) :
    (fun j => (Function.update phase i x j).lock) = Function.update (fun j => (phase j).lock) i x.lock := by
  funext j
  by_cases same : j = i
  · subst same
    simp
  · simp [Function.update_of_ne same]

theorem Sound.mem_of_found (sound : Sound c key locks first phase σ) {i : Nat} {document : Document}
    (found : (phase i).stage.found? = some document) : i ∈ σ.order := by
  rw [sound.ordered.member]
  rcases Nat.lt_or_ge i σ.rounds.length with inside | beyond
  · rcases (sound.rounds i _ (List.getElem?_eq_getElem inside)).inert with fresh | keyed
    · rw [fresh] at found
      cases found
    · exact keyed
  · rw [sound.outside i beyond] at found
    cases found

theorem Sound.name_of_stored? (sound : Sound c key locks first phase σ) {i : Nat} {name own : String}
    (stored : (phase i).lock.stored? = some (name, own)) : name = c.lockName key := by
  rcases Nat.lt_or_ge i σ.rounds.length with inside | beyond
  · have named := (sound.rounds i _ (List.getElem?_eq_getElem inside)).named
    exact Option.some.inj ((LockPhase.name?_of_stored? stored).symm.trans named)
  · rw [sound.outside i beyond] at stored
    cases stored

theorem Sound.reordered (sound : Sound c key locks first phase σ) {i : Nat} {r : Round ρ} {action : Action}
    {answer : action.Answer} {s : Store} (worked : Worked c key locks phase σ i r action answer s)
    (allowed : (c.protocol key locks r.context r.change).allows (phase i) action)
    (named : ((LockBackend.protocol locks).after (phase i).lock action answer).name? = some (c.lockName key)) :
    let next := if (action.calls answer).any (Call.inserts locks) then σ.order ++ [i] else σ.order
    Ordered next (Function.update (fun j => (phase j).lock) i
        ((LockBackend.protocol locks).after (phase i).lock action answer)) ∧
      (next = σ.order ∨ next = σ.order ++ [i] ∧ (phase i).lock.key? = none) := by
  rcases RecordCollection.allows_cases allowed with lock | ⟨own, holding, works⟩
  · refine sound.ordered.step lock answer ?_
    intro later j k ⟨name, own⟩ ⟨other, own'⟩ here there
    have names : ∀ j name own, (later j).stored? = some (name, own) → name = c.lockName key := by
      intro j name own stored
      by_cases same : j = i
      · subst same
        rw [show later j = _ from Function.update_self ..] at stored
        exact Option.some.inj ((LockPhase.name?_of_stored? stored).symm.trans named)
      · rw [show later j = _ from Function.update_of_ne same ..] at stored
        exact sound.name_of_stored? stored
    obtain rfl := names j name own here
    obtain rfl := names k other own' there
    exact worked.held.eq_of_stored? here there
  · have same : (LockBackend.protocol locks).after (phase i).lock action answer = (phase i).lock := by
      rw [holding]
      rcases works with ⟨-, rfl⟩ | ⟨_, -, rfl⟩ | ⟨_, _, _, -, rfl⟩ | ⟨_, _, _, -, rfl, -⟩ <;> rfl
    have took : (action.calls answer).any (Call.inserts locks) = false := by
      rcases works with ⟨-, rfl⟩ | ⟨_, -, rfl⟩ | ⟨_, _, _, -, rfl⟩ | ⟨_, _, _, -, rfl, -⟩ <;> rfl
    dsimp only
    rw [same, if_neg (by simp [took]), Function.update_eq_self i fun j => (phase j).lock]
    exact ⟨sound.ordered, .inl rfl⟩

section Record

variable {i : Nat} {r r' : Round ρ} {t : Store} {calls : List Call} {next : Stage} {order : List Nat}

theorem Sound.unsaved_of_keyless (sound : Sound c key locks first phase σ) (there : σ.rounds[i]? = some r)
    (keyless : (phase i).lock.key? = none) : r.save? = none := by
  have own := sound.rounds i r there
  rcases own.inert with fresh | keyed
  · simpa [fresh] using own.saved
  · rw [keyless] at keyed
    cases keyed

/-- The record is what the saves make of it, also after an action. -/
theorem Sound.stored_after (sound : Sound c key locks first phase σ) (there : σ.rounds[i]? = some r)
    (work : Work c key r (phase i) σ.store t calls next)
    (save : r'.save? = ((calls.findSome? Call.replaced?).map (Save.mk r.context r.change r.time)).or r.save?)
    (cases : order = σ.order ∨ order = σ.order ++ [i] ∧ (phase i).lock.key? = none) (w : World) :
    ∃ document, t.document? c.name key = some document ∧ document.Shows key ∧
      c.replay ((RoundSystem.mk w (σ.rounds.set i r') order).saves order) first = .ok document := by
  -- a round that has just taken the lock is new in the order, and has saved nothing
  have kept : calls.findSome? Call.replaced? = none →
      (RoundSystem.mk w (σ.rounds.set i r') order).saves order = σ.saves σ.order := by
    intro nothing
    rw [nothing] at save
    rw [saves_set there w order (.inl save)]
    rcases cases with rfl | ⟨rfl, keyless⟩
    · rfl
    · rw [saves_concat, there, Option.bind_some, sound.unsaved_of_keyless there keyless]
      exact List.append_nil _
  obtain ⟨document, stored, shows, replayed⟩ := sound.stored
  cases work with
  | aside record nothing found => exact ⟨document, record.trans stored, shows, (kept nothing).symm ▸ replayed⟩
  | loads record nothing holding fresh loaded here =>
    exact ⟨document, record.trans stored, shows, (kept nothing).symm ▸ replayed⟩
  | @saves own document revised time header holding timed leads answered saved record shows =>
    have stored : (phase i).lock.stored? = some (c.lockName key, own) := by
      rw [holding]
      rfl
    have told : r.time = time := (sound.rounds i r there).time time (by rw [timed]; rfl)
    have fresh : r'.save? = some ⟨r.context, r.change, r.time, header⟩ := by
      rw [save, answered]
      rfl
    obtain rfl : order = σ.order := by
      rcases cases with same | ⟨-, keyless⟩
      · exact same
      · rw [holding] at keyless
        cases keyless
    have before := sound.found i document (by rw [timed]; rfl)
    rw [← saves_before_set there w σ.order] at before
    have inside := (List.getElem?_eq_some_iff.mp there).1
    -- the round holds the lock, so it is the last one, and its save comes after all others
    refine ⟨_, record, shows, ?_⟩
    conv_lhs => rw [sound.ordered.eq_concat stored]
    rw [saves_concat]
    dsimp only
    rw [List.getElem?_set_self inside, Option.bind_some, fresh]
    exact c.replay_concat before (told.symm ▸ leads)

/-- What a round has loaded is what the rounds before it have left, also after an action. -/
theorem Sound.found_after (sound : Sound c key locks first phase σ) (there : σ.rounds[i]? = some r)
    (work : Work c key r (phase i) σ.store t calls next)
    (save : r'.save? = ((calls.findSome? Call.replaced?).map (Save.mk r.context r.change r.time)).or r.save?)
    (cases : order = σ.order ∨ order = σ.order ++ [i] ∧ (phase i).lock.key? = none) (w : World) (lock : LockPhase)
    {j : Nat} {document : Document} (found : (Function.update phase i ⟨lock, next⟩ j).stage.found? = some document) :
    c.replay ((RoundSystem.mk w (σ.rounds.set i r') order).saves (order.takeWhile (· ≠ j))) first = .ok document := by
  have before : ∀ j ∈ σ.order, order.takeWhile (· ≠ j) = σ.before j := by
    intro j listed
    rcases cases with rfl | ⟨rfl, -⟩
    · rfl
    · exact takeWhile_append_of_mem listed [i]
  by_cases same : j = i
  · subst same
    rw [Function.update_self] at found
    cases work with
    | aside record nothing unchanged =>
      have here := unchanged document found
      rw [before j (sound.mem_of_found here), saves_before_set there w order]
      exact sound.found j document here
    | @loads own' document' record nothing holding fresh loaded here =>
      obtain rfl : document' = document := by
        rw [loaded] at found
        exact Option.some.inj found
      have listed : j ∈ σ.order := (sound.ordered.member j).mpr (by rw [holding]; rfl)
      obtain ⟨stored, there', -, replayed⟩ := sound.stored
      obtain rfl : document' = stored := Option.some.inj (here.symm.trans there')
      rw [before j listed, saves_before_set there, ← sound.saves_before holding (by rw [fresh]; nofun)]
      exact replayed
    | saves holding timed leads answered saved record shows =>
      rw [saved] at found
      cases found
  · rw [Function.update_of_ne same] at found
    have listed := sound.mem_of_found found
    -- a round that saves holds the lock, so it comes before no other one
    have kept : r'.save? = r.save? ∨ i ∉ σ.before j := by
      cases work with
      | aside record nothing unchanged => exact .inl (by rw [save, nothing]; rfl)
      | loads record nothing holding fresh loaded here => exact .inl (by rw [save, nothing]; rfl)
      | @saves own document revised time header holding timed leads answered saved record shows =>
        have stored : (phase i).lock.stored? = some (c.lockName key, own) := by
          rw [holding]
          rfl
        exact .inr (sound.ordered.notMem_before stored listed same)
    rw [before j listed, saves_set there w order kept]
    exact sound.found j document found

end Record

theorem Sound.replace (sound : Sound c key locks first phase σ) {i : Nat} {r r' : Round ρ} {x : RoundPhase} {w : World}
    {s : Store} {order : List Nat} (there : σ.rounds[i]? = some r) (plain : w.store = ⟨s, []⟩)
    (indexed : LockBackend.Indexed locks s)
    (held : LockBackend.Locks locks (Function.update (fun j => (phase j).lock) i x.lock) s)
    (next : r'.Sound c key locks x) (ordered : Ordered order (Function.update (fun j => (phase j).lock) i x.lock))
    (stored : ∃ document, s.document? c.name key = some document ∧ document.Shows key ∧
      c.replay ((RoundSystem.mk w (σ.rounds.set i r') order).saves order) first = .ok document)
    (found : ∀ j document, (Function.update phase i x j).stage.found? = some document →
      c.replay ((RoundSystem.mk w (σ.rounds.set i r') order).saves (order.takeWhile (· ≠ j))) first = .ok document) :
    Sound c key locks first (Function.update phase i x) ⟨w, σ.rounds.set i r', order⟩ := by
  have phased : Phased (Round.Sound c key locks) ⟨.outside, .fresh⟩ σ.rounds phase := ⟨sound.rounds, sound.outside⟩
  obtain ⟨rounds, outside⟩ := phased.set (List.getElem?_eq_some_iff.mp there).1 next
  have store : store ⟨w, σ.rounds.set i r', order⟩ = s := by rw [RoundSystem.store, plain]
  rw [← lock_update] at held ordered
  exact ⟨store ▸ plain, store ▸ indexed, store ▸ held, rounds, outside, ordered, store ▸ stored, found⟩

variable [LawfulRecord ρ]

theorem Sound.act (sound : Sound c key locks first phase σ) (separate : c.name ≠ locks) (named : key ≠ "") {i : Nat}
    {t : Turn} (spares : σ.Spares c key locks t) :
    ∃ phase', Sound c key locks first phase' (σ.step c key locks (.act i t)) := by
  cases there : σ.rounds[i]? with
  | none =>
    refine ⟨phase, ?_⟩
    simp only [step, there]
    exact sound
  | some r =>
    cases acts : r.program with
    | done | stalled =>
      have same : σ.rounds.set i r = σ.rounds := by
        obtain ⟨inside, rfl⟩ := List.getElem?_eq_some_iff.mp there
        exact List.set_getElem_self inside
      have idle : r.act t σ.world = (r, [], σ.world) := by simp only [Round.act, acts]
      refine ⟨phase, ?_⟩
      simp only [step, there, idle, same]
      exact sound
    | act action next =>
      have own := sound.rounds i r there
      have follows := own.follows
      rw [acts] at follows
      have worked : ∃ s, (σ.world.answerIn t action).2.store = ⟨s, []⟩ ∧
          Worked c key locks phase σ i r action (σ.world.answerIn t action).1 s := by
        rcases RecordCollection.allows_cases follows.1 with lock | ⟨own, holding, works⟩
        · exact sound.worked_lock separate there spares lock
        · exact sound.worked_own separate named there spares holding works
      obtain ⟨s, plain, worked⟩ := worked
      have next := own.act acts worked.expected
      obtain ⟨ordered, cases⟩ := sound.reordered worked follows.1 next.named
      have acted := Round.act_eq acts t σ.world
      have save := congrArg (fun acted : Round ρ × List Call × World => acted.1.save?) acted
      have stepped : σ.step c key locks (.act i t) = ⟨(σ.world.answerIn t action).2, σ.rounds.set i (r.act t σ.world).1,
          if (action.calls (σ.world.answerIn t action).1).any (Call.inserts locks) then σ.order ++ [i]
          else σ.order⟩ := by
        simp only [step, there]
        rw [acted]
      rw [stepped]
      exact ⟨_, sound.replace there plain worked.indexed worked.held next ordered
        (sound.stored_after there worked.work save cases _)
        fun j document found => sound.found_after there worked.work save cases _ _ found⟩

theorem Sound.start (sound : Sound c key locks first phase σ) {pollDelay : Nat}
    (configured : c.db.config.lockBackend = some (.overStore locks pollDelay)) {change : ρ → ρ}
    (payload : ∀ r, Record.stamp (change r) = Record.stamp r) (context : SaveContext) :
    ∃ phase', Sound c key locks first phase' (σ.step c key locks (.start context change)) := by
  have fresh : (Round.start c key context change).Sound c key locks _ := Round.start_sound configured payload context
  have here := sound.outside σ.rounds.length (Nat.le_refl _)
  have saves := σ.saves_append (r := .start c key context change) rfl σ.world σ.order
  have phased : Phased (Round.Sound c key locks) ⟨.outside, .fresh⟩ σ.rounds phase := ⟨sound.rounds, sound.outside⟩
  obtain ⟨rounds, outside⟩ := phased.concat fresh
  refine ⟨Function.update phase σ.rounds.length ⟨.away (c.lockName key), .fresh⟩, sound.plain, sound.indexed, ?_,
    rounds, outside, ?_, ?_, fun j document found => ?_⟩
  · rw [lock_update]
    exact sound.held.step (.of_same rfl (Nat.le_refl _)) (.keyless rfl fun _ => sound.indexed)
  · rw [lock_update]
    exact sound.ordered.keyless (by rw [here]; rfl) rfl
  · obtain ⟨document, stored, shows, replayed⟩ := sound.stored
    exact ⟨document, stored, shows, (saves σ.order).symm ▸ replayed⟩
  · by_cases same : j = σ.rounds.length
    · subst same
      rw [Function.update_self] at found
      cases found
    · rw [Function.update_of_ne same] at found
      exact (saves (σ.before j)).symm ▸ sound.found j document found

end RoundSystem
end RecordStore
