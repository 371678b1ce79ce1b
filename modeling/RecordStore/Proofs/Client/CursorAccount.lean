import RecordStore.Proofs.Client.CursorInvariant
import RecordStore.Proofs.Client.Tidy

/-!
# Cursors accounted for

However any number of clients search, read, close and drop in turns, among anything else that the store is asked, no
cursor of the store is forgotten (`Accounted`). One that was opened for a record cursor is open until it is closed, its
last batch is fetched or the record cursor is dropped, and closing says whether there was one that was still open.
-/

namespace RecordStore

open RecordCursor (protocol Rests Kept)

/-! ### Closing -/

namespace RecordCursor

variable {ρ : Type} {c : RecordCursor ρ} {w : World} {s : Store}

theorem close_whole (unnamed : c.id = none) (ignoreMissing : Bool) (w : World) :
    ∃ d, (c.close ignoreMissing).run w = (some (.ok .nothingToClose, d), w) := by
  unfold close
  rw [unnamed]
  exact ⟨_, rfl⟩

theorem close_named {name : String} (named : c.id = some name) (plain : w.store = ⟨s, []⟩) (ignoreMissing : Bool) :
    ∃ d t, (c.close ignoreMissing).run w = (some (
        if s.isOpen name then .ok .closed
        else if ignoreMissing then .ok .alreadyGone
        else .error (.cursorNotFound (Refusal.cursorMissing name).message), d), { w with store := ⟨t, []⟩ }) ∧
      t.isOpen name = false := by
  have released := s.answer_closeCursor name
  have answered := World.answer_plain plain (.closeCursor name)
  unfold close
  rw [named]
  simp only [Program.request, Program.ofAction, Program.bind, Program.run_act, answered]
  generalize (s.answer (.closeCursor name)).1 = answer at released ⊢
  generalize (s.answer (.closeCursor name)).2 = t at released ⊢
  cases released with
  | missing gone =>
    rw [gone]
    cases ignoreMissing with
    | true => exact ⟨_, s, rfl, gone⟩
    | false => exact ⟨_, s, rfl, gone⟩
  | closed held =>
    rw [held]
    refine ⟨_, _, rfl, ?_⟩
    simp [Store.isOpen, Table.has_erase]

end RecordCursor

/-! ### Handles follow the protocol -/

namespace Handle

variable {h : Handle} {x : CursorPhase} {w : World} {s : Store}

/-- A handle in a phase, with what it remembers of the first batch. -/
structure Sound (h : Handle) (x : CursorPhase) : Prop where
  follows : h.program.Follows protocol Rests x
  fresh : x = .finding → h.opening = none
  begun : x ≠ .finding → ∃ o, h.opening = some o ∧ o.batch.id = x.name? ∧ (o.isWhole = true ↔ x.name? = none)

theorem Sound.id (sound : h.Sound x) : h.id = x.name? := by
  unfold Handle.id
  by_cases finding : x = .finding
  · rw [sound.fresh finding, finding]
    rfl
  · obtain ⟨o, begun, named, -⟩ := sound.begun finding
    rw [begun]
    exact named

theorem Sound.goOn (sound : h.Sound x) {name : String} (own : x.name? = some name) {y : CursorPhase}
    (same : y.name? = x.name?) {program : Program (Option (RecordCursor h.Item))}
    (follows : program.Follows protocol Rests y) : Sound { h with program := program } y where
  follows := follows
  fresh finding := by
    rw [own, finding] at same
    cases same
  begun _ := by
    have begun := sound.begun fun finding => by rw [finding] at own; cases own
    rwa [same]

theorem finding_sound {ρ : Type} [Record ρ] (c : RecordCollection ρ) (options : Find.Options) :
    (finding c options).Sound .finding where
  follows := .bind (c.find_follows options) fun y result settled => by
    cases result with
    | ok d => exact settled
    | error e =>
      obtain rfl : y = .finding := settled
      rfl
  fresh _ := rfl
  begun inside := absurd rfl inside

theorem begin_sound (sound : h.Sound x) (use : CursorUse) : (h.begin use).Sound x := by
  unfold begin
  split
  · rename_i c resting
    have fits := sound.follows
    rw [resting] at fits
    exact ⟨@RecordCursor.use_follows h.Item c x h.record fits use, sound.fresh, sound.begun⟩
  · exact sound

theorem opening_of_execute {q : BoundQuery} {b : Batch} (plain : w.store = ⟨s, []⟩)
    (answered : (s.answer (.execute q)).1 = .ok b) :
    ∃ o, Action.opening? w (.store (.execute q)) (.ok b) = some o ∧ o.batch.id = b.id ∧
      (o.isWhole = true ↔ b.id = none) := by
  obtain ⟨results, evaluated, whole⟩ := Store.execute_whole (Store.execute_of_answer answered)
  refine ⟨_, rfl, rfl, ?_⟩
  rw [plain, evaluated]
  exact decide_eq_true_iff.trans whole

theorem act_eq {action : Action} {next : action.Answer → Program (Option (RecordCursor h.Item))}
    (acts : h.program = .act action next) (w : World) :
    h.act w = ({ h with
        program := next (w.answer action).1
        opening := (action.opening? w (w.answer action).1).or h.opening },
      action.calls (w.answer action).1, (w.answer action).2) := by
  simp only [act, acts]

theorem act_sound (sound : h.Sound x) {action : Action}
    {next : action.Answer → Program (Option (RecordCursor h.Item))} (acts : h.program = .act action next)
    (plain : w.store = ⟨s, []⟩) (allowed : protocol.allows x action)
    (expected : protocol.expects x action (w.answer action).1) :
    (h.act w).1.Sound (protocol.after x action (w.answer action).1) := by
  have follows := sound.follows
  rw [acts] at follows
  rw [act_eq acts]
  have goesOn := follows.2 _ expected
  rcases RecordCursor.allows_cases allowed with rfl | ⟨rfl, ⟨subjects, rfl⟩ | ⟨q, rfl⟩⟩ | ⟨name, own, rfl | rfl⟩
  · exact ⟨goesOn, sound.fresh, sound.begun⟩
  · exact ⟨goesOn, sound.fresh, sound.begun⟩
  · rw [World.answer_plain plain] at goesOn ⊢
    dsimp only at goesOn ⊢
    cases answered : (s.answer (.execute q)).1 with
    | error e =>
      rw [answered] at goesOn
      exact ⟨goesOn, sound.fresh, sound.begun⟩
    | ok b =>
      rw [answered] at goesOn
      obtain ⟨o, opening, named, whole⟩ := opening_of_execute plain answered
      refine ⟨goesOn, fun finding => ?_, fun _ => ⟨o, ?_, ?_, ?_⟩⟩
      · exact absurd finding (CursorPhase.ofBatch_ne_finding b)
      · show (Action.opening? w (.store (.execute q)) (.ok b)).or h.opening = some o
        rw [opening, Option.some_or]
      · exact named.trans (CursorPhase.name?_ofBatch b).symm
      · exact whole.trans (iff_of_eq (congrArg (· = none) (CursorPhase.name?_ofBatch b).symm))
  · exact sound.goOn own (x.name?_fetched _) goesOn
  · exact sound.goOn own (x.name?_closed _) goesOn

theorem Sound.unopened (sound : h.Sound x) (dropped : h.dropped = true) : x.isOpened = false := by
  unfold Handle.dropped at dropped
  split at dropped
  · rename_i gone
    have rests := sound.follows
    rw [gone] at rests
    exact rests
  · cases dropped

end Handle

/-! ### The invariant of the system -/

namespace CursorSystem

/-- A system whose handles are in certain phases. A handle that there is not yet is about to search. -/
structure Sound (phase : Nat → CursorPhase) (σ : CursorSystem) : Prop where
  plain : σ.world.store = ⟨σ.store, []⟩
  kept : Kept phase σ.store σ.calls σ.foreign
  handles : ∀ i h, σ.handles[i]? = some h → Handle.Sound h (phase i)
  outside : ∀ i, σ.handles.length ≤ i → phase i = .finding

variable {σ : CursorSystem} {phase : Nat → CursorPhase}

theorem Sound.phased (sound : Sound phase σ) : Phased Handle.Sound .finding σ.handles phase :=
  ⟨sound.handles, sound.outside⟩

theorem Sound.find (sound : Sound phase σ) {ρ : Type} [Record ρ] (c : RecordCollection ρ) (options : Find.Options) :
    Sound phase (σ.step (.find c options)) := by
  have same : Function.update phase σ.handles.length .finding = phase := by
    rw [← sound.outside σ.handles.length (Nat.le_refl _)]
    exact Function.update_eq_self _ _
  have phased := sound.phased.concat (Handle.finding_sound c options)
  rw [same] at phased
  exact ⟨sound.plain, sound.kept, phased.inside, phased.beyond⟩

theorem Sound.replace (sound : Sound phase σ) {i : Nat} {h h' : Handle} {x : CursorPhase} {w : World} {s : Store}
    {calls : List Call} (there : σ.handles[i]? = some h) (plain : w.store = ⟨s, []⟩)
    (kept : Kept (Function.update phase i x) s calls σ.foreign) (next : h'.Sound x) :
    Sound (Function.update phase i x) ⟨w, σ.handles.set i h', calls, σ.foreign⟩ := by
  obtain ⟨handles, outside⟩ := sound.phased.set (List.getElem?_eq_some_iff.mp there).1 next
  have store : store ⟨w, σ.handles.set i h', calls, σ.foreign⟩ = s := by rw [CursorSystem.store, plain]
  exact ⟨store ▸ plain, store ▸ kept, handles, outside⟩

theorem Sound.step (sound : Sound phase σ) (m : CursorMove) : ∃ phase', Sound phase' (σ.step m) := by
  cases m with
  | find c options => exact ⟨phase, sound.find c options⟩
  | use i use =>
    dsimp only [CursorSystem.step]
    split
    · rename_i h there
      refine ⟨_, sound.replace there sound.plain ?_ (Handle.begin_sound (sound.handles i h there) use)⟩
      rw [Function.update_eq_self]
      exact sound.kept
    · exact ⟨phase, sound⟩
  | act i =>
    dsimp only [CursorSystem.step]
    split
    · rename_i h there
      have own := sound.handles i h there
      cases acts : h.program with
      | act action next =>
        have follows := own.follows
        rw [acts] at follows
        obtain ⟨expected, t, left, kept⟩ := sound.kept.act sound.plain follows.1
        have acted := Handle.act_sound own acts sound.plain follows.1 expected
        rw [Handle.act_eq acts] at acted ⊢
        exact ⟨_, sound.replace there left kept acted⟩
      | done | stalled =>
        have rests : h.act σ.world = (h, [], σ.world) := by simp only [Handle.act, acts]
        rw [rests, List.append_nil]
        refine ⟨_, sound.replace there sound.plain ?_ own⟩
        rw [Function.update_eq_self]
        exact sound.kept
    · exact ⟨phase, sound⟩
  | other action =>
    obtain ⟨t, left, kept⟩ := sound.kept.aside sound.plain action
    have store : (σ.step (.other action)).store = t := congrArg FaultyStore.store left
    exact ⟨phase, store ▸ left, store ▸ kept, sound.handles, sound.outside⟩

/-- The systems to which clients of an empty store can come, whatever else is done there. -/
inductive Reachable (batchSize : Nat) : CursorSystem → Prop where
  | start (w : World) (empty : w.store = ⟨Store.empty batchSize, []⟩) : Reachable batchSize { world := w }
  | step {σ : CursorSystem} (before : Reachable batchSize σ) (m : CursorMove) : Reachable batchSize (σ.step m)

theorem Reachable.sound {batchSize : Nat} (reachable : Reachable batchSize σ) : ∃ phase, Sound phase σ := by
  induction reachable with
  | start w empty =>
    have store : CursorSystem.store { world := w } = Store.empty batchSize := congrArg FaultyStore.store empty
    have cursors : (Store.empty batchSize).CursorsNamed := fun name held => by cases held
    exact ⟨_, store ▸ empty, .start (store ▸ cursors), by simp, fun _ _ => rfl⟩
  | step before m ih =>
    obtain ⟨phase, sound⟩ := ih
    exact sound.step m

/-! ### What holds at every moment -/

def closed (σ : CursorSystem) (name : String) : Bool := σ.calls.any (Call.closes name)

def drained (σ : CursorSystem) (name : String) : Bool := σ.calls.any (Call.drains name)

/-- Whether nobody else has fetched from the cursor of a client or closed it. -/
def spared (σ : CursorSystem) (name : String) : Bool := RecordCursor.spared σ.foreign name

/-- The cursors of the store that were opened for clients are accounted for, and those who close one are told so. -/
structure Accounted (σ : CursorSystem) : Prop where
  kept : ∀ h ∈ σ.handles, ∀ name, h.id = some name →
    (σ.store.isOpen name = true ↔ h.dropped = false ∧ σ.closed name = false ∧ σ.drained name = false)
  own : ∀ (i j : Nat) g h name, σ.handles[i]? = some g → σ.handles[j]? = some h → g.id = some name → h.id = some name →
    i = j
  known : ∀ h ∈ σ.handles, ∀ c, h.program = .done (some c) → ∀ name, h.id = some name →
    (σ.store.isOpen name = true → c.released = false ∧ c.hasMore = true) ∧
      (σ.spared name = true → c.released = false → c.hasMore = true → σ.store.isOpen name = true)
  close : ∀ h ∈ σ.handles, ∀ c, h.program = .done (some c) → ∃ o, h.opening = some o ∧
    ∀ ignoreMissing, ∃ answer d w, (c.close ignoreMissing).run σ.world = (some (answer, d), w) ∧
      (answer = .ok .nothingToClose ↔ o.isWhole = true) ∧
      (answer = .ok .closed ↔ ∃ name, h.id = some name ∧ σ.store.isOpen name = true) ∧
      ∀ name, h.id = some name → w.store.store.isOpen name = false ∧ (σ.store.isOpen name = false →
        answer = if ignoreMissing then .ok .alreadyGone
          else .error (.cursorNotFound (Refusal.cursorMissing name).message))
  operations : ∀ {α : Type} (p : Program α), PlainOperation p →
    (p.run σ.world).2.store.store.cursors = σ.store.cursors

theorem Sound.closes (sound : Sound phase σ) {h : Handle} (listed : h ∈ σ.handles) {c : RecordCursor h.Item}
    (resting : h.program = .done (some c)) :
    ∃ o, h.opening = some o ∧ ∀ ignoreMissing, ∃ answer d w,
      (c.close ignoreMissing).run σ.world = (some (answer, d), w) ∧
      (answer = .ok .nothingToClose ↔ o.isWhole = true) ∧
      (answer = .ok .closed ↔ ∃ name, h.id = some name ∧ σ.store.isOpen name = true) ∧
      ∀ name, h.id = some name → w.store.store.isOpen name = false ∧ (σ.store.isOpen name = false →
        answer = if ignoreMissing then .ok .alreadyGone
          else .error (.cursorNotFound (Refusal.cursorMissing name).message)) := by
  obtain ⟨i, there⟩ := List.mem_iff_getElem?.mp listed
  have own := sound.handles i h there
  have fits : c.Fits (phase i) := by
    have follows := own.follows
    rw [resting] at follows
    exact follows
  obtain ⟨o, opening, -, whole⟩ := own.begun fun finding => by rw [finding] at fits; exact fits
  have named : c.id = h.id := fits.id.trans own.id.symm
  rw [← own.id] at whole
  refine ⟨o, opening, fun ignoreMissing => ?_⟩
  rw [whole]
  cases id : h.id with
  | none =>
    obtain ⟨d, ran⟩ := RecordCursor.close_whole (named.trans id) ignoreMissing σ.world
    exact ⟨_, d, _, ran, by simp, by simp, by simp⟩
  | some name =>
    obtain ⟨d, t, ran, gone⟩ := RecordCursor.close_named (named.trans id) sound.plain ignoreMissing
    refine ⟨_, d, _, ran, ?_, ?_, ?_⟩
    · cases σ.store.isOpen name <;> cases ignoreMissing <;> simp
    · cases held : σ.store.isOpen name <;> cases ignoreMissing <;> simp [held]
    · rintro _ ⟨⟩
      exact ⟨gone, fun unheld => by rw [unheld]; rfl⟩

theorem Sound.accounted (sound : Sound phase σ) : Accounted σ where
  kept h listed name named := by
    obtain ⟨i, there⟩ := List.mem_iff_getElem?.mp listed
    have own := sound.handles i h there
    have here : (phase i).name? = some name := own.id.symm.trans named
    have accounted : σ.store.isOpen name = (!σ.closed name && !σ.drained name) := sound.kept.accounted i name here
    refine ⟨fun held => ⟨?_, ?_⟩, fun ⟨_, unclosed, undrained⟩ => by rw [accounted, unclosed, undrained]; rfl⟩
    · refine Bool.eq_false_iff.mpr fun dropped => ?_
      cases held.symm.trans ((sound.kept.holds i).gone (own.unopened dropped) here)
    · simpa [accounted] using held
  own i j g h name here there first second :=
    sound.kept.distinct i j name ((sound.handles i g here).id.symm.trans first)
      ((sound.handles j h there).id.symm.trans second)
  known h listed c resting name named := by
    obtain ⟨i, there⟩ := List.mem_iff_getElem?.mp listed
    have own := sound.handles i h there
    have fits := own.follows
    rw [resting] at fits
    exact (sound.kept.holds i).known fits (own.id.symm.trans named)
  close _ listed _ resting := sound.closes listed resting
  operations p operation := by
    obtain ⟨t, left, -, same⟩ := operation.tidy σ.world σ.store sound.plain sound.kept.cursors
    rw [left]
    exact same

/-- What clients of one empty store hold is accounted for at every moment. -/
theorem no_cursor_leaked {batchSize : Nat} (reachable : Reachable batchSize σ) : Accounted σ := by
  obtain ⟨phase, sound⟩ := reachable.sound
  exact sound.accounted

theorem Reachable.foldl {batchSize : Nat} (reachable : Reachable batchSize σ) (moves : List CursorMove) :
    Reachable batchSize (moves.foldl CursorSystem.step σ) := by
  induction moves generalizing σ with
  | nil => exact reachable
  | cons m rest ih => exact ih (reachable.step m)

/-- Two clients search the same three documents at the same time, and another one closes the cursor of the first. -/
theorem interleaved_searches_accounted :
    let c : RecordCollection LockDocument := ⟨{}, "c"⟩
    let moves : List CursorMove :=
      [.other (.store (.createCollection "c" {})), .other (.store (.insertMany "c" [[], [], []])), .find c {},
        .find c {}, .act 1, .act 0, .other (.store (.closeCursor "cursor-1"))]
    let σ := moves.foldl step { world := World.empty 1 }
    Reachable 1 σ ∧ σ.handles.map Handle.id = [some "cursor-2", some "cursor-1"] ∧
      σ.store.isOpen "cursor-1" = false ∧ σ.store.isOpen "cursor-2" = true ∧ Accounted σ := by
  intro c moves σ
  have reachable : Reachable 1 σ := (Reachable.start (World.empty 1) rfl).foldl moves
  let s := (Store.empty 1).afterAll [.createCollection "c" {}, .insertMany "c" [[], [], []]]
  obtain ⟨l, present⟩ : ∃ l, s.collections.get? "c" = some l := Option.isSome_iff_exists.mp (by decide +kernel)
  have three : (s.collections.get? "c").map (·.contents.length) = some 3 := by decide +kernel
  rw [present, Option.map_some, Option.some_inj] at three
  have batchSize : s.batchSize = 1 := by decide +kernel
  have counter : s.cursorCounter = 0 := by decide +kernel
  obtain ⟨query, made, openings, store⟩ : ∃ query, Find.query c.name {} c.db.directory = .ok query ∧
      σ.handles.map Handle.opening =
        [(Action.opening? { store := ⟨(s.answer (.execute query)).2, []⟩ } (.store (.execute query))
            ((s.answer (.execute query)).2.answer (.execute query)).1).or none,
          (Action.opening? { store := ⟨s, []⟩ } (.store (.execute query)) (s.answer (.execute query)).1).or none] ∧
      σ.store = (((s.answer (.execute query)).2.answer (.execute query)).2.answer (.closeCursor "cursor-1")).2 :=
    ⟨_, rfl, rfl, rfl⟩
  have single : query.options = {} := Find.query_options made
  obtain ⟨first, pending, named, executed⟩ := Store.execute_opens (Find.evaluate_all made present)
    (by simp [single, batchSize, three])
  rw [executed] at openings store
  let t : Store := { s with
    cursorCounter := s.cursorCounter + 1
    cursors := s.cursors.set (Store.cursorName (s.cursorCounter + 1)) pending }
  have again : t.collections.get? c.name = some l := present
  obtain ⟨second, waiting, other, executes⟩ := Store.execute_opens (Find.evaluate_all made again)
    (by simp [single, t, batchSize, three])
  have names : Store.cursorName (s.cursorCounter + 1) = "cursor-1" ∧
      Store.cursorName (t.cursorCounter + 1) = "cursor-2" := by
    rw [show t.cursorCounter = s.cursorCounter + 1 from rfl, counter]
    exact ⟨by decide, by decide⟩
  rw [names.1] at named
  rw [names.2] at other
  dsimp only at openings store
  rw [executes] at openings store
  let u : Store := { t with
    cursorCounter := t.cursorCounter + 1
    cursors := t.cursors.set (Store.cursorName (t.cursorCounter + 1)) waiting }
  have opened : u.isOpen "cursor-1" = true ∧ u.isOpen "cursor-2" = true := by
    simp [u, Store.isOpen, Table.has_set, names.1, names.2, t]
  have closed := u.answer_closeCursor "cursor-1"
  have ids : σ.handles.map Handle.id = (σ.handles.map Handle.opening).map (·.bind (·.batch.id)) := by
    rw [List.map_map]
    rfl
  refine ⟨reachable, ?_, ?_, ?_, no_cursor_leaked reachable⟩
  · rw [ids, openings, ← other, ← named]
    rfl
  · rw [store, closed.isOpen, opened.1]
    simp [Request.closes, closed.isOk, opened.1]
  · rw [store, closed.isOpen, opened.2]
    simp [Request.closes]

end CursorSystem
end RecordStore
