import RecordStore.Client.Errand
import RecordStore.Proofs.Client.LockInvariant

/-!
# Mutual exclusion

However the errands of any number of clients take turns, and whichever of their calls are lost, a lock is held by one
guard at most. Giving a lock back is not atomic: a client asks for the locks of the name and then deletes them by their
keys. It is safe because its own lock keeps all others out until it is deleted, and because its key is never given out
again. Nor does it stall: it ends after three actions of its own, whatever the others do meanwhile.
-/

namespace RecordStore

open LockBackend (protocol Locks LockStep)

variable {collection : String}

/-! ### Errands follow the protocol -/

/-- The phases in which an errand rests. -/
def Rest.In (collection : String) (x : LockPhase) : Rest → Prop
  | .over => x.key? = none
  | .ready backend => x = .prepared ∧ ∃ pollDelay, backend = .overStore collection pollDelay
  | .holding guard =>
    ∃ key pollDelay, x = .holding guard.name key ∧ guard = ⟨.overStore collection pollDelay, guard.name, false⟩
  | .returned guard =>
    ∃ key pollDelay, (x = .gone guard.name key ∨ x = .left guard.name key) ∧
      guard = ⟨.overStore collection pollDelay, guard.name, false⟩

/-- An errand in a phase, with the key of its lock and a note if that could not be given back. -/
structure Errand.Sound (collection : String) (e : Errand) (x : LockPhase) : Prop where
  document : e.document = x.key?
  failed : ∀ name key, x = .left name key → e.failed = true
  follows : e.program.Follows (protocol collection) (Rest.In collection) x

namespace Errand

theorem preparing_sound : (preparing collection).Sound collection .outside := by
  refine ⟨rfl, fun _ _ => nofun, .bind LockBackend.create_follows ?_⟩
  rintro x (e | backend) rests
  · exact (congrArg LockPhase.key? rests : x.key? = none)
  · exact ⟨rests.1, _, rests.2⟩

theorem rests_of_taken {name : String} {x : LockPhase} {result : Except ClientError Bool} (pollDelay : Nat)
    (taken : LockBackend.Taken name x result) :
    match result with
    | .ok true => Rest.In collection x (.holding ⟨.overStore collection pollDelay, name, false⟩)
    | _ => Rest.In collection x .over := by
  rcases result with e | free | free
  · obtain rfl : x = .away name := taken
    rfl
  · obtain rfl : x = .away name := taken
    rfl
  · obtain ⟨key, rfl⟩ := taken
    exact ⟨key, pollDelay, rfl, rfl⟩

theorem taking_sound (pollDelay : Nat) (name : String) (block : Bool) :
    (taking ⟨.overStore collection pollDelay, name⟩ block).Sound collection (.away name) := by
  refine ⟨rfl, fun _ _ => nofun, ?_⟩
  have acquired := @LockBackend.acquire_follows collection pollDelay name block
  cases block with
  | true =>
    show (((LockBackend.overStore collection pollDelay).acquire name true).bind _ |>.bind _).Follows _ _ _
    rw [Program.bind_assoc]
    exact .bind acquired fun x result taken => by
      rcases result with e | free | free <;> exact rests_of_taken pollDelay taken
  | false =>
    show (((LockBackend.overStore collection pollDelay).acquire name false).bind _ |>.bind _).Follows _ _ _
    rw [Program.bind_assoc]
    exact .bind acquired fun x result taken => by
      rcases result with e | free | free <;> exact rests_of_taken pollDelay taken

/-- Dropping a guard that holds a lock and releasing it are one program. -/
theorem returning_program (e : Errand) (name : String) (pollDelay : Nat) (drop : Bool) :
    (e.returning ⟨.overStore collection pollDelay, name, false⟩ drop).program =
      ((LockBackend.overStore collection pollDelay).release name).bind fun _ =>
        .done (.returned ⟨.overStore collection pollDelay, name, false⟩) := by
  cases drop with
  | false => rfl
  | true => exact Program.bind_assoc ..

theorem returning_sound {e : Errand} {x : LockPhase} {guard : LockGuard} (sound : e.Sound collection x)
    (held : e.program = .done (.holding guard)) (drop : Bool) : (e.returning guard drop).Sound collection x := by
  have rests := sound.follows
  rw [held] at rests
  obtain ⟨key, pollDelay, rfl, same⟩ := rests
  refine ⟨sound.document, fun _ _ => nofun, ?_⟩
  rw [same, returning_program]
  refine .bind (LockBackend.release_follows pollDelay guard.name key) ?_
  rintro y (e | ⟨⟩) given
  · exact ⟨key, pollDelay, .inr given, rfl⟩
  · exact ⟨key, pollDelay, .inl given, rfl⟩

/-- An errand that gives a lock back is done after three actions. -/
theorem returning_ends {e : Errand} {x : LockPhase} {guard : LockGuard} (sound : e.Sound collection x)
    (held : e.program = .done (.holding guard)) (drop : Bool) :
    (e.returning guard drop).program.EndsWithin (protocol collection) (· = .returned guard) 3 x := by
  have rests := sound.follows
  rw [held] at rests
  obtain ⟨key, pollDelay, rfl, same⟩ := rests
  rw [same, returning_program]
  exact (LockBackend.release_ends pollDelay guard.name key).bind_done fun _ => rfl

theorem key?_after {x : LockPhase} {action : Action} (allowed : (protocol collection).allows x action)
    (answer : action.Answer) :
    ((action.calls answer).findSome? Call.storedKey?).or x.key? =
      ((protocol collection).after x action answer).key? := by
  cases action with
  | store r =>
    rcases LockBackend.allows_store allowed with ⟨rfl, rfl | rfl | rfl⟩ | ⟨name, expires, rfl, rfl⟩ |
      ⟨name, key, rfl, rfl⟩ | ⟨name, key, rfl, rfl⟩
    · rfl
    · rfl
    · cases answer <;> rfl
    · cases answer <;> rfl
    · cases answer <;> rfl
    · cases answer <;> rfl
  | now | patience => cases x <;> rfl
  | _ => cases x <;> exact allowed.elim

theorem failed_of_left {x : LockPhase} {action : Action} (allowed : (protocol collection).allows x action)
    {answer : action.Answer} {name key : String} (left : (protocol collection).after x action answer = .left name key) :
    x = .left name key ∨ (action.calls answer).any Call.failed = true := by
  cases action with
  | store r =>
    rcases LockBackend.allows_store allowed with ⟨rfl, rfl | rfl | rfl⟩ | ⟨name, expires, rfl, rfl⟩ |
      ⟨name, key, rfl, rfl⟩ | ⟨name, key, rfl, rfl⟩
    · cases left
    · cases left
    · cases answer <;> cases left
    · cases answer <;> cases left
    · cases answer with
      | ok batch => cases left
      | error e => exact .inr rfl
    · cases answer with
      | ok deleted => cases left
      | error e => exact .inr rfl
  | now | patience => cases x <;> exact .inl left
  | _ => cases x <;> exact allowed.elim

/-- A call of a client with a lock that fails leaves the lock stored. -/
theorem left_of_failed {x : LockPhase} {action : Action} (allowed : (protocol collection).allows x action)
    (keyed : x.key?.isSome) {answer : action.Answer} (failed : (action.calls answer).any Call.failed = true) :
    ∃ name key, (protocol collection).after x action answer = .left name key := by
  cases action with
  | store r =>
    rcases LockBackend.allows_store allowed with ⟨rfl, -⟩ | ⟨name, expires, rfl, -⟩ | ⟨name, key, rfl, rfl⟩ |
      ⟨name, key, rfl, rfl⟩
    · cases keyed
    · cases keyed
    · cases answer with
      | ok batch => cases failed
      | error e => exact ⟨name, key, rfl⟩
    · cases answer with
      | ok deleted => cases failed
      | error e => exact ⟨name, key, rfl⟩
  | _ => cases failed

theorem act_sound {e : Errand} {x : LockPhase} (sound : e.Sound collection x) {action : Action}
    {next : action.Answer → Program Rest} (acts : e.program = .act action next) {t : Turn} {w : World}
    (allowed : (protocol collection).allows x action)
    (expected : (protocol collection).expects x action (w.answerIn t action).1) :
    (e.act t w).2 = (w.answerIn t action).2 ∧
      (e.act t w).1.Sound collection ((protocol collection).after x action (w.answerIn t action).1) := by
  have follows := sound.follows
  rw [acts] at follows
  have acted : e.act t w =
      (⟨next (w.answerIn t action).1,
          ((action.calls (w.answerIn t action).1).findSome? Call.storedKey?).or e.document,
          e.failed || (action.calls (w.answerIn t action).1).any Call.failed⟩, (w.answerIn t action).2) := by
    simp only [act, acts]
  rw [acted]
  refine ⟨rfl, ?_, fun name key left => ?_, follows.2 _ expected⟩
  · rw [sound.document]
    exact key?_after allowed _
  · rcases failed_of_left allowed left with before | failed
    · simp [sound.failed name key before]
    · simp [failed]

/-- How an errand in a phase goes on with a move, if it has a turn in it: at rest it stays as it is, and otherwise its
action is answered as it may expect. While it has a lock, no call of it fails unless it is lost. -/
inductive Goes (collection : String) (e : Errand) (x : LockPhase) : Option Turn → Errand → LockPhase → Prop where
  | waits : Goes collection e x none e x
  | rests (t : Turn) (idle : ∀ action next, e.program ≠ .act action next) : Goes collection e x (some t) e x
  | acts (t : Turn) {action : Action} {next : action.Answer → Program Rest} (acts : e.program = .act action next)
      (answer : action.Answer) (expected : (protocol collection).expects x action answer) {e' : Errand}
      (program : e'.program = next answer)
      (fine : t.lost = none → x.key?.isSome → e.failed = false → e'.failed = false) :
      Goes collection e x (some t) e' ((protocol collection).after x action answer)

namespace Goes

variable {e e' : Errand} {x x' : LockPhase} {turn : Option Turn} {rests : Rest → Prop} {n later : Nat}

/-- A turn brings an errand nearer to its end, and the moves of others do not take it away from there. -/
theorem ends (goes : e.Goes collection x turn e' x') (ends : e.program.EndsWithin (protocol collection) rests n x)
    (enough : n ≤ turn.toList.length + later) :
    ∃ k ≤ later, e'.program.EndsWithin (protocol collection) rests k x' := by
  cases goes with
  | waits => exact ⟨n, by simpa using enough, ends⟩
  | rests t idle =>
    refine ⟨0, Nat.zero_le _, ?_⟩
    cases resting : e.program with
    | act action next => exact absurd resting (idle action next)
    | done | stalled =>
      rw [resting] at ends
      exact ends
  | acts t acts answer expected program =>
    rw [acts] at ends
    cases n with
    | zero => cases ends
    | succ n =>
      rw [Option.toList_some, List.length_singleton] at enough
      refine ⟨n, by omega, ?_⟩
      rw [program]
      exact ends answer expected

theorem isSome_key? (goes : e.Goes collection x turn e' x') (keyed : x.key?.isSome) : x'.key?.isSome := by
  cases goes with
  | waits | rests => exact keyed
  | acts t acts answer => exact LockBackend.isSome_key?_after collection keyed _ answer

theorem fine (goes : e.Goes collection x turn e' x') (keyed : x.key?.isSome)
    (faultless : ∀ t ∈ turn.toList, t.lost = none) (fine : e.failed = false) : e'.failed = false := by
  cases goes with
  | waits | rests => exact fine
  | acts t acts answer expected program preserves => exact preserves (faultless t (.head _)) keyed fine

end Goes
end Errand

namespace LockMove

def turnOf? (i : Nat) : LockMove → Option Turn
  | .act j t => if j = i then some t else none
  | _ => none

def alone : LockMove → Bool
  | .act _ t => t.before.isEmpty
  | _ => true

def turnsOf (i : Nat) (moves : List LockMove) : List Turn :=
  moves.filterMap (turnOf? i)

theorem turnsOf_cons (i : Nat) (m : LockMove) (rest : List LockMove) :
    turnsOf i (m :: rest) = (m.turnOf? i).toList ++ turnsOf i rest := by
  unfold turnsOf
  rw [List.filterMap_cons]
  cases m.turnOf? i <;> rfl

end LockMove

/-! ### The invariant of the system -/

namespace LockSystem

/-- A system whose errands are in certain phases. An errand that has not begun is outside. -/
structure Sound (collection : String) (phase : Nat → LockPhase) (σ : LockSystem) : Prop where
  plain : σ.world.store = ⟨σ.store, []⟩
  locks : Locks collection phase σ.store
  errands : ∀ i e, σ.errands[i]? = some e → Errand.Sound collection e (phase i)
  outside : ∀ i, σ.errands.length ≤ i → phase i = .outside

/-- A move in which others leave the collection of locks alone. -/
def Spares (collection : String) (σ : LockSystem) : LockMove → Prop
  | .act _ turn => σ.store.Spares collection turn.before
  | _ => True

variable {σ : LockSystem} {phase : Nat → LockPhase}

theorem Sound.begin (sound : Sound collection phase σ) {e : Errand} {x : LockPhase} (fresh : e.Sound collection x)
    (keyless : x.key? = none) (indexed : x ≠ .outside → LockBackend.Indexed collection σ.store) :
    Sound collection (Function.update phase σ.errands.length x) { σ with errands := σ.errands ++ [e] } := by
  have phased : Phased (Errand.Sound collection) .outside σ.errands phase := ⟨sound.errands, sound.outside⟩
  obtain ⟨errands, outside⟩ := phased.concat fresh
  have locks := sound.locks.step (i := σ.errands.length) (.of_same rfl (Nat.le_refl _)) (.keyless keyless indexed)
  exact ⟨sound.plain, locks, errands, outside⟩

theorem Sound.replace (sound : Sound collection phase σ) {i : Nat} {e e' : Errand} {x : LockPhase} {w : World}
    {s : Store} (there : σ.errands[i]? = some e) (plain : w.store = ⟨s, []⟩)
    (locks : Locks collection (Function.update phase i x) s) (next : e'.Sound collection x) :
    Sound collection (Function.update phase i x) ⟨w, σ.errands.set i e'⟩ := by
  have phased : Phased (Errand.Sound collection) .outside σ.errands phase := ⟨sound.errands, sound.outside⟩
  obtain ⟨errands, outside⟩ := phased.set (List.getElem?_eq_some_iff.mp there).1 next
  have store : store ⟨w, σ.errands.set i e'⟩ = s := by rw [LockSystem.store, plain]
  exact ⟨store ▸ plain, store ▸ locks, errands, outside⟩

theorem step_act {i : Nat} {e : Errand} (there : σ.errands[i]? = some e) (t : Turn) :
    σ.step collection (.act i t) = ⟨(e.act t σ.world).2, σ.errands.set i (e.act t σ.world).1⟩ := by
  simp only [step, there]

/-- An action keeps the invariant, and leaves all locks alone but that of its errand. -/
theorem Sound.act (sound : Sound collection phase σ) {i : Nat} {e : Errand} (there : σ.errands[i]? = some e) {t : Turn}
    (spares : σ.store.Spares collection t.before) :
    ∃ x, Sound collection (Function.update phase i x) (σ.step collection (.act i t)) ∧
      LockStep collection e.document σ.store (σ.step collection (.act i t)).store ∧
      e.Goes collection (phase i) (some t) (e.act t σ.world).1 x := by
  have own := sound.errands i e there
  rw [step_act there]
  cases acts : e.program with
  | act action next =>
    have follows := own.follows
    rw [acts] at follows
    obtain ⟨s, plain, acted⟩ := LockBackend.action_granted sound.locks sound.plain spares follows.1
    obtain ⟨world, next⟩ := Errand.act_sound own acts follows.1 acted.expected
    refine ⟨_, sound.replace there (world ▸ plain) acted.locks next, ?_, ?_⟩
    · rw [own.document, world]
      show LockStep collection (phase i).key? σ.store (σ.world.answerIn t action).2.store.store
      rw [plain]
      exact acted.step
    · refine .acts t acts _ acted.expected (by simp only [Errand.act, acts]) fun faultless keyed fine => ?_
      -- an errand that could not give its lock back has noted that
      have kept : ∀ name key, phase i ≠ .left name key := by
        intro name key left
        cases fine.symm.trans (own.failed name key left)
      have stored := LockBackend.action_given_back sound.locks sound.plain spares faultless follows.1 kept
      simp only [Errand.act, acts, fine, Bool.false_or]
      refine Bool.eq_false_iff.mpr fun failed => ?_
      obtain ⟨name, key, left⟩ := Errand.left_of_failed follows.1 keyed failed
      exact stored name key left
  | done | stalled =>
    have rests : e.act t σ.world = (e, σ.world) := by simp only [Errand.act, acts]
    rw [rests]
    refine ⟨_, sound.replace there sound.plain ?_ own, .of_same rfl (Nat.le_refl _), .rests t ?_⟩
    · rw [Function.update_eq_self]
      exact sound.locks
    · rw [acts]
      nofun

theorem step_giveBack {i : Nat} {e : Errand} {g : LockGuard} (there : σ.errands[i]? = some e)
    (held : e.program = .done (.holding g)) (drop : Bool) :
    σ.step collection (.giveBack i drop) = { σ with errands := σ.errands.set i (e.returning g drop) } := by
  simp only [step, there, held]

theorem Sound.giveBack (sound : Sound collection phase σ) {i : Nat} {e : Errand} {g : LockGuard}
    (there : σ.errands[i]? = some e) (held : e.program = .done (.holding g)) (drop : Bool) :
    Sound collection phase { σ with errands := σ.errands.set i (e.returning g drop) } := by
  have next := Errand.returning_sound (sound.errands i e there) held drop
  have replaced := sound.replace there sound.plain (by rw [Function.update_eq_self]; exact sound.locks) next
  rwa [Function.update_eq_self] at replaced

theorem goes_beside {i : Nat} {e : Errand} (there : σ.errands[i]? = some e) (fresh : Errand) (x : LockPhase) :
    ∃ e', (σ.errands ++ [fresh])[i]? = some e' ∧
      e.Goes collection (phase i) none e' (Function.update phase σ.errands.length x i) := by
  have before := (List.getElem?_eq_some_iff.mp there).1
  rw [List.getElem?_append_left before, Function.update_of_ne (Nat.ne_of_lt before)]
  exact ⟨e, there, .waits⟩

/-- A turn of one errand is none of another. -/
theorem Sound.goes_act (sound : Sound collection phase σ) (i : Nat) {t : Turn}
    (spares : σ.store.Spares collection t.before) :
    ∃ phase', Sound collection phase' (σ.step collection (.act i t)) ∧
      ∀ (j : Nat) (d : Errand), σ.errands[j]? = some d → ∃ d', (σ.step collection (.act i t)).errands[j]? = some d' ∧
        d.Goes collection (phase j) (LockMove.turnOf? j (.act i t)) d' (phase' j) := by
  cases there : σ.errands[i]? with
  | some e =>
    obtain ⟨x, kept, -, goes⟩ := sound.act there spares
    refine ⟨_, kept, fun j d here => ?_⟩
    rw [step_act there]
    by_cases same : i = j
    · subst same
      obtain rfl := Option.some.inj (there.symm.trans here)
      refine ⟨_, List.getElem?_set_self (List.getElem?_eq_some_iff.mp there).1, ?_⟩
      rw [Function.update_self, LockMove.turnOf?, if_pos rfl]
      exact goes
    · refine ⟨d, by rw [List.getElem?_set_ne same, here], ?_⟩
      rw [Function.update_of_ne (Ne.symm same), LockMove.turnOf?, if_neg same]
      exact .waits
  | none =>
    have unchanged : σ.step collection (.act i t) = σ := by simp only [LockSystem.step, there]
    rw [unchanged]
    refine ⟨phase, sound, fun j d here => ⟨d, here, ?_⟩⟩
    have other : i ≠ j := by
      rintro rfl
      cases there.symm.trans here
    rw [LockMove.turnOf?, if_neg other]
    exact .waits

/-- Every move keeps the invariant, in phases that it may change. An errand that holds no lock goes on in it only by a
turn of its own. -/
theorem Sound.goes (sound : Sound collection phase σ) (m : LockMove) (spares : σ.Spares collection m) :
    ∃ phase', Sound collection phase' (σ.step collection m) ∧ ∀ i e, σ.errands[i]? = some e → σ.guard? i = none →
      ∃ e', (σ.step collection m).errands[i]? = some e' ∧ e.Goes collection (phase i) (m.turnOf? i) e' (phase' i) := by
  have stays : ∃ phase', Sound collection phase' σ ∧ ∀ i e, σ.errands[i]? = some e → σ.guard? i = none →
      ∃ e', σ.errands[i]? = some e' ∧ e.Goes collection (phase i) none e' (phase' i) :=
    ⟨phase, sound, fun i e there _ => ⟨e, there, .waits⟩⟩
  cases m with
  | prepare =>
    refine ⟨_, sound.begin Errand.preparing_sound rfl fun inside => absurd rfl inside, ?_⟩
    intro i e there _
    exact goes_beside there _ _
  | take i name block =>
    dsimp only [LockSystem.step]
    split
    · rename_i backend document failed there
      obtain ⟨prepared, pollDelay, rfl⟩ := (sound.errands i _ there).follows
      refine ⟨_, sound.begin (Errand.taking_sound pollDelay name block) rfl fun _ => sound.locks.indexed i ?_, ?_⟩
      · rw [prepared]
        nofun
      · intro j e here _
        exact goes_beside here _ _
    · exact stays
  | giveBack i drop =>
    dsimp only [LockSystem.step]
    split
    · rename_i e there
      split
      · rename_i guard held
        refine ⟨phase, sound.giveBack there held drop, fun j d here idle => ⟨d, ?_, .waits⟩⟩
        -- the errand whose lock is given back holds one, so it is none of those in question
        have other : i ≠ j := by
          rintro rfl
          simp [guard?, there, held] at idle
        rw [List.getElem?_set_ne other, here]
      · exact stays
    · exact stays
  | act i t =>
    obtain ⟨phase', kept, goes⟩ := sound.goes_act i spares
    exact ⟨phase', kept, fun j d here _ => goes j d here⟩

theorem Sound.step (sound : Sound collection phase σ) (m : LockMove) (spares : σ.Spares collection m) :
    ∃ phase', Sound collection phase' (σ.step collection m) := by
  obtain ⟨phase', kept, -⟩ := sound.goes m spares
  exact ⟨phase', kept⟩

/-! ### Giving back comes to an end -/

/-- Moves one after another in which others leave the collection of locks alone. -/
def SparesAlong (collection : String) (σ : LockSystem) : List LockMove → Prop
  | [] => True
  | m :: rest => σ.Spares collection m ∧ (σ.step collection m).SparesAlong collection rest

theorem guard?_eq_some {i : Nat} {g : LockGuard} (held : σ.guard? i = some g) :
    ∃ e, σ.errands[i]? = some e ∧ e.program = .done (.holding g) := by
  obtain ⟨e, there, rest⟩ := Option.bind_eq_some_iff.mp held
  split at rest
  · rename_i guard holds
    obtain rfl := Option.some.inj rest
    exact ⟨e, there, holds⟩
  · cases rest

/-- An errand that has a lock and is to end after some actions has ended after as many turns of its own, among any moves
of others. If none of these turns is lost, no call of it has failed. -/
theorem Sound.ended {moves : List LockMove} {i n : Nat} {e : Errand} {g : LockGuard} (sound : Sound collection phase σ)
    (spares : σ.SparesAlong collection moves) (there : σ.errands[i]? = some e)
    (ends : e.program.EndsWithin (protocol collection) (· = .returned g) n (phase i)) (keyed : (phase i).key?.isSome)
    (enough : n ≤ (LockMove.turnsOf i moves).length) :
    ∃ phase' e', Sound collection phase' (moves.foldl (LockSystem.step collection) σ) ∧
      (moves.foldl (LockSystem.step collection) σ).errands[i]? = some e' ∧ e'.program = .done (.returned g) ∧
      ((∀ t ∈ LockMove.turnsOf i moves, t.lost = none) → e.failed = false → e'.failed = false) := by
  -- on the moves, from any system and phases: a turn of the errand uses up one of its actions, other moves none
  induction moves generalizing σ phase n e with
  | nil =>
    obtain rfl : n = 0 := Nat.eq_zero_of_le_zero enough
    refine ⟨phase, e, sound, there, ?_, fun _ fine => fine⟩
    cases rests : e.program with
    | done rest =>
      rw [rests] at ends
      exact congrArg _ ends
    | stalled | act =>
      rw [rests] at ends
      exact ends.elim
  | cons m rest ih =>
    obtain ⟨spared, spares⟩ := spares
    -- a program that ends in giving back a guard does not rest with one
    have idle : σ.guard? i = none := by
      by_contra held
      obtain ⟨guard, held⟩ := Option.ne_none_iff_exists'.mp held
      obtain ⟨d, here, holds⟩ := guard?_eq_some held
      obtain rfl := Option.some.inj (there.symm.trans here)
      rw [holds] at ends
      cases ends
    obtain ⟨phase₁, sound₁, goes⟩ := sound.goes m spared
    obtain ⟨e₁, there₁, goes⟩ := goes i e there idle
    rw [LockMove.turnsOf_cons] at enough ⊢
    obtain ⟨k, few, ends₁⟩ := goes.ends ends (by rwa [List.length_append] at enough)
    obtain ⟨phase', e', sound', there', done, fine⟩ := ih sound₁ spares there₁ ends₁ (goes.isSome_key? keyed) few
    refine ⟨phase', e', sound', there', done, fun faultless before => ?_⟩
    refine fine (fun t listed => faultless t (List.mem_append_right _ listed)) ?_
    exact goes.fine keyed (fun t listed => faultless t (List.mem_append_left _ listed)) before

/-- The systems that errands over a collection can lead to. At first there is no such collection, or it is empty and has
no index; later nobody but the errands writes to it. -/
inductive Reachable (collection : String) : LockSystem → Prop where
  | start (w : World) (s : Store) (plain : w.store = ⟨s, []⟩)
      (unused : ∀ c, s.collections.get? collection = some c → c.documents = [] ∧ c.indexes = []) :
      Reachable collection ⟨w, []⟩
  | step {σ : LockSystem} (before : Reachable collection σ) (m : LockMove) (spares : σ.Spares collection m) :
      Reachable collection (σ.step collection m)

theorem Reachable.sound (reachable : Reachable collection σ) : ∃ phase, Sound collection phase σ := by
  induction reachable with
  | start w s plain unused =>
    have store : LockSystem.store ⟨w, []⟩ = s := by rw [LockSystem.store, plain]
    exact ⟨fun _ => .outside, store.symm ▸ plain, store.symm ▸ .of_unused unused, by simp, fun _ _ => rfl⟩
  | step before m spares ih =>
    obtain ⟨phase, sound⟩ := ih
    exact sound.step m spares

theorem Reachable.foldl (reachable : Reachable collection σ) {moves : List LockMove}
    (spares : σ.SparesAlong collection moves) : Reachable collection (moves.foldl (LockSystem.step collection) σ) := by
  induction moves generalizing σ with
  | nil => exact reachable
  | cons m rest ih =>
    obtain ⟨spared, spares⟩ := spares
    exact ih (reachable.step m spared) spares

theorem sparesAlong_of_alone (σ : LockSystem) {moves : List LockMove} (alone : moves.all LockMove.alone = true) :
    σ.SparesAlong collection moves := by
  induction moves generalizing σ with
  | nil => trivial
  | cons m rest ih =>
    obtain ⟨first, others⟩ := Bool.and_eq_true_iff.mp alone
    refine ⟨?_, ih _ others⟩
    cases m with
    | act i t =>
      have none : t.before = [] := List.isEmpty_iff.mp first
      simp only [LockSystem.Spares, none, Store.Spares]
    | prepare | take | giveBack => trivial

theorem Reachable.alone (reachable : Reachable collection σ) (moves : List LockMove)
    (alone : moves.all LockMove.alone = true) : Reachable collection (moves.foldl (LockSystem.step collection) σ) :=
  reachable.foldl (sparesAlong_of_alone σ alone)

/-! ### What holds at every moment -/

/-- The lock of a guard is gone for good, and its name can be taken again unless another errand has taken it since. -/
structure Returned (collection : String) (σ : LockSystem) (e : Errand) (g : LockGuard) : Prop where
  gone : ∃ key, e.document = some key ∧ σ.store.document? collection key = none
  free : (∀ key document, σ.store.document? collection key = some document → document.text? "name" ≠ some g.name) →
    ∃ w, (NamedLock.mk g.backend g.name).tryAcquire.run σ.world = (some (.ok (some g)), w)

/-- The documents of a collection of locks: one for each name at most, and one for each guard that is held. What an
action of an errand removes is its own document. Giving a lock back ends with the third turn of the errand at the
latest, whatever moves come between its turns, and if none of them is lost no call fails; a lock that has been given
back without a failure is gone. -/
structure Exclusive (collection : String) (σ : LockSystem) : Prop where
  guards : ∀ i j g h, σ.guard? i = some g → σ.guard? j = some h → g.name = h.name → i = j
  documents : ∀ c, σ.store.collections.get? collection = some c →
    c.documents.Pairwise fun a b => a.2.text? "name" ≠ b.2.text? "name"
  held : ∀ (i : Nat) (e : Errand) g, σ.errands[i]? = some e → σ.guard? i = some g →
    ∃ key document, e.document = some key ∧ σ.store.document? collection key = some document ∧
      document.text? "name" = some g.name
  own : ∀ (i j : Nat) (d e : Errand) key, σ.errands[i]? = some d → σ.errands[j]? = some e → d.document = some key →
    e.document = some key → i = j
  kept : ∀ (i : Nat) (e : Errand) t, σ.errands[i]? = some e → σ.store.Spares collection t.before → ∀ key document,
    e.document ≠ some key → σ.store.document? collection key = some document →
    (σ.step collection (.act i t)).store.document? collection key = some document
  ends : ∀ (i : Nat) g drop later τ, σ.guard? i = some g → σ.SparesAlong collection (.giveBack i drop :: later) →
    3 ≤ (LockMove.turnsOf i later).length → τ = (.giveBack i drop :: later).foldl (LockSystem.step collection) σ →
    ∃ e, τ.errands[i]? = some e ∧ e.program = .done (.returned g) ∧
      ((∀ t ∈ LockMove.turnsOf i later, t.lost = none) → e.failed = false ∧ Returned collection τ e g)
  returned : ∀ (i : Nat) (e : Errand) g, σ.errands[i]? = some e → e.program = .done (.returned g) → e.failed = false →
    Returned collection σ e g

theorem Sound.holding (sound : Sound collection phase σ) {i : Nat} {g : LockGuard} (held : σ.guard? i = some g) :
    ∃ e key document, σ.errands[i]? = some e ∧ phase i = .holding g.name key ∧ e.document = some key ∧
      σ.store.document? collection key = some document ∧
      LockBackend.IsLock collection g.name (key, document) := by
  obtain ⟨e, there, holds⟩ := guard?_eq_some held
  have own := sound.errands i e there
  have rests := own.follows
  rw [holds] at rests
  obtain ⟨key, pollDelay, here, -⟩ := rests
  obtain ⟨document, found, lock⟩ := sound.locks.stored i g.name key (by rw [here]; rfl)
  refine ⟨e, key, document, there, here, ?_, found, lock⟩
  rw [own.document, here]
  rfl

/-- A name that no lock has can be taken by a client that acts alone. -/
theorem Sound.tryAcquire (sound : Sound collection phase σ)
    (plain : LockBackend.OfDocuments collection σ.store) (pollDelay : Nat) {name : String}
    (free : ∀ key document, σ.store.document? collection key = some document → document.text? "name" ≠ some name) :
    ∃ w, (NamedLock.mk (.overStore collection pollDelay) name).tryAcquire.run σ.world =
      (some (.ok (some ⟨.overStore collection pollDelay, name, false⟩)), w) := by
  obtain ⟨c, present, kind⟩ := plain
  have tidy := sound.locks.tidy c present
  have unused : ∀ entry ∈ c.documents, ¬LockBackend.IsLock collection name entry := by
    intro entry stored lock
    refine free entry.1 entry.2 ?_ lock.text?_name
    rw [LockBackend.document?_eq present, Collection.find?_of_mem tidy.keyed stored]
  obtain ⟨header, s, inserted⟩ := Store.insert_free_lock present tidy kind unused
    (σ.world.clock / 1000 + LockBackend.timeToLive)
  have answered : σ.world.answer (.store (.insert collection
      (LockDocument.attributes ⟨⟨none, ""⟩, name, (σ.world.answer .now).1 / 1000 + LockBackend.timeToLive⟩))) =
      (.ok header, { σ.world with store := ⟨s, []⟩ }) := by
    simp only [World.answer, sound.plain, FaultyStore.answer_unprepared]
    simp only [Store.answer, Store.reply]
    rw [show LockDocument.attributes _ = LockBackend.lockDocument name _ from rfl, inserted]
    rfl
  have time : (σ.world.answer .now).2 = σ.world := rfl
  refine ⟨{ σ.world with store := ⟨s, []⟩ }, ?_⟩
  simp only [NamedLock.tryAcquire, LockBackend.acquire, LockBackend.tryInsert, Program.mapOk, Program.ofAction,
    Program.request, Program.bind, Program.run_act, Bool.false_eq_true, if_false, time, answered]
  rfl

theorem Sound.returned (sound : Sound collection phase σ) {i : Nat} {e : Errand} {g : LockGuard}
    (there : σ.errands[i]? = some e) (rests : e.program = .done (.returned g)) (fine : e.failed = false) :
    Returned collection σ e g := by
  have own := sound.errands i e there
  have resting := own.follows
  rw [rests] at resting
  obtain ⟨key, pollDelay, gone | left, backend⟩ := resting
  · have noted : e.document = some key := by
      rw [own.document, gone]
      rfl
    refine ⟨⟨key, noted, sound.locks.gone i g.name key gone⟩, fun free => ?_⟩
    rw [backend]
    exact sound.tryAcquire (sound.locks.ofDocuments i key (by rw [gone]; rfl)) pollDelay free
  · cases fine.symm.trans (own.failed g.name key left)

theorem Sound.given (sound : Sound collection phase σ) {i : Nat} {g : LockGuard} {drop : Bool} {later : List LockMove}
    (held : σ.guard? i = some g) (spares : σ.SparesAlong collection (.giveBack i drop :: later))
    (enough : 3 ≤ (LockMove.turnsOf i later).length) :
    ∃ phase' e, Sound collection phase' ((.giveBack i drop :: later).foldl (LockSystem.step collection) σ) ∧
      ((.giveBack i drop :: later).foldl (LockSystem.step collection) σ).errands[i]? = some e ∧
      e.program = .done (.returned g) ∧ ((∀ t ∈ LockMove.turnsOf i later, t.lost = none) → e.failed = false) := by
  obtain ⟨d, key, document, there, here, -⟩ := sound.holding held
  obtain ⟨d', there', holds⟩ := guard?_eq_some held
  obtain rfl := Option.some.inj (there.symm.trans there')
  obtain ⟨-, spares⟩ := spares
  rw [List.foldl_cons, step_giveBack there holds] at *
  have begun : (σ.errands.set i (d.returning g drop))[i]? = some (d.returning g drop) :=
    List.getElem?_set_self (List.getElem?_eq_some_iff.mp there).1
  have ends := Errand.returning_ends (sound.errands i d there) holds drop
  obtain ⟨phase', e, kept, rests, done, fine⟩ := (sound.giveBack there holds drop).ended spares begun ends
    (by rw [here]; rfl) enough
  exact ⟨phase', e, kept, rests, done, fun faultless => fine faultless rfl⟩

theorem Sound.exclusive (sound : Sound collection phase σ) : Exclusive collection σ where
  guards i j g h held holds same := by
    obtain ⟨d, key, document, -, here, -⟩ := sound.holding held
    obtain ⟨e, other, document', -, there, -⟩ := sound.holding holds
    rw [← same] at there
    exact sound.locks.eq_of_stored? (by rw [here]; rfl) (by rw [there]; rfl)
  documents c present := (sound.locks.tidy c present).single
  held i e g there holds := by
    obtain ⟨e', key, document, here, -, noted, found, lock⟩ := sound.holding holds
    obtain rfl := Option.some.inj (here.symm.trans there)
    exact ⟨key, document, noted, found, lock.text?_name⟩
  own i j d e key here there first second := by
    rw [(sound.errands i d here).document] at first
    rw [(sound.errands j e there).document] at second
    exact sound.locks.distinct i j key first second
  kept i e t there spares key document other found := by
    obtain ⟨x, -, step, -⟩ := sound.act there spares
    exact step.kept key document found other
  ends i g drop later τ held spares enough run := by
    obtain ⟨phase', e, kept, there, rests, fine⟩ := sound.given held spares enough
    rw [← run] at kept there
    exact ⟨e, there, rests, fun faultless => ⟨fine faultless, kept.returned there rests (fine faultless)⟩⟩
  returned i e g there rests fine := sound.returned there rests fine

/-- Locks exclude each other, however any number of errands take turns and whichever of their calls are lost. -/
theorem reachable_exclusive (reachable : Reachable collection σ) : Exclusive collection σ := by
  obtain ⟨phase, sound⟩ := reachable.sound
  exact sound.exclusive

/-- Of two clients that try to take the same lock one gets it. The first call of the other one is lost, and it finds the
lock taken when it tries again, even while the lock is being given back. Then it gets the lock. A lock with another name
stays all the while. -/
theorem second_client_excluded :
    let turns (i n : Nat) : List LockMove := List.replicate n (.act i {})
    let taking : List LockMove :=
      .prepare :: turns 0 1 ++ .prepare :: turns 1 3 ++ turns 0 2 ++ [.take 0 "a" false, .take 1 "a" false] ++
        turns 2 2 ++ [.act 3 {}, .act 3 { lost := some (.transport "cut") }, .take 1 "a" false, .take 1 "b" false] ++
        turns 4 2 ++ turns 5 2
    let giving : List LockMove := [.act 2 {}, .take 1 "a" false, .act 6 {}, .act 2 {}, .act 6 {}]
    let again : List LockMove := .take 1 "a" false :: turns 7 2
    let σ := taking.foldl (LockSystem.step "locks") ⟨World.empty 1, []⟩
    let τ := (.giveBack 2 false :: giving).foldl (LockSystem.step "locks") σ
    let υ := τ.step "locks" (.act 2 {})
    let names (σ : LockSystem) := (List.range 8).map fun i => (σ.guard? i).map LockGuard.name
    Reachable "locks" σ ∧ names σ = [none, none, some "a", none, none, some "b", none, none] ∧ Exclusive "locks" σ ∧
      (∃ key document, document.text? "name" = some "b" ∧ τ.store.document? "locks" key = some document ∧
        υ.store.document? "locks" key = some document) ∧
      (∃ e g, υ.errands[2]? = some e ∧ e.program = .done (.returned g) ∧ g.name = "a" ∧ e.failed = false ∧
        Returned "locks" υ e g) ∧
      names υ = [none, none, none, none, none, some "b", none, none] ∧
      names (again.foldl (LockSystem.step "locks") υ) = [none, none, none, none, none, some "b", none, some "a"] ∧
      Exclusive "locks" (again.foldl (LockSystem.step "locks") υ) := by
  intro turns taking giving again σ τ υ names
  have reachable : Reachable "locks" σ := by
    refine Reachable.alone (.start (World.empty 1) (Store.empty 1) rfl fun c present => ?_) taking rfl
    cases present
  have begun : Reachable "locks" τ := reachable.alone (.giveBack 2 false :: giving) rfl
  have given : Reachable "locks" υ := begun.step (.act 2 {}) trivial
  obtain ⟨g, held, named⟩ : ∃ g, σ.guard? 2 = some g ∧ g.name = "a" :=
    ⟨⟨.overStore "locks" LockBackend.defaultPollDelay, "a", false⟩, by decide +kernel, rfl⟩
  obtain ⟨h, beside, other⟩ : ∃ h, τ.guard? 5 = some h ∧ h.name = "b" :=
    ⟨⟨.overStore "locks" LockBackend.defaultPollDelay, "b", false⟩, by decide +kernel, rfl⟩
  refine ⟨reachable, by decide +kernel, reachable_exclusive reachable, ?_, ?_, by decide +kernel, by decide +kernel,
    reachable_exclusive (given.alone again rfl)⟩
  · have exclusive := reachable_exclusive begun
    obtain ⟨e, there, -⟩ := guard?_eq_some beside
    obtain ⟨key, document, noted, found, lock⟩ := exclusive.held 5 e h there beside
    obtain ⟨d, here⟩ : ∃ d, τ.errands[2]? = some d := Option.isSome_iff_exists.mp (by decide +kernel)
    refine ⟨key, document, other ▸ lock, found, exclusive.kept 2 d {} here trivial key document (fun same => ?_) found⟩
    cases exclusive.own 2 5 d e key here there same noted
  · clear_value σ
    have run : υ = (.giveBack 2 false :: (giving ++ [.act 2 {}])).foldl (LockSystem.step "locks") σ := by
      rw [← List.cons_append, List.foldl_append]
      rfl
    have its : LockMove.turnsOf 2 (giving ++ [.act 2 {}]) = [{}, {}, {}] := rfl
    obtain ⟨e, there, rests, fine⟩ := (reachable_exclusive reachable).ends 2 g false (giving ++ [.act 2 {}]) υ held
      (sparesAlong_of_alone σ rfl) (by rw [its]; exact Nat.le_refl 3) run
    exact ⟨e, g, there, rests, named, fine (by simp [its])⟩

end LockSystem
end RecordStore
