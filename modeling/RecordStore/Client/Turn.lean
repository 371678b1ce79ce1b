import RecordStore.Client.World

/-!
# Turns

A program among others. Before each of its actions others may have asked the store for anything, time may have
passed, and the request that it is about to send may be lost. How long something is held is up to its holder, so a
program that waits may be given any number of tries beyond those that the world alone makes necessary. A program that
runs alone is one to which none of this happens.
-/

namespace RecordStore

/-- The circumstances of one action of a program. -/
structure Turn where
  /-- What others ask of the store before the action. -/
  before : List Request := []
  /-- How many milliseconds have passed. -/
  elapsed : Nat := 0
  /-- How many more tries there are than the world asks for. -/
  extra : Nat := 0
  /-- The error that takes the place of the action, if it is a request. -/
  lost : Option StoreError := none

structure Call where
  request : Request
  answer : request.Answer

/-- What became of a program: its result unless it has stalled, its calls and the world that it left. -/
structure Run (α : Type) where
  result : Option α
  calls : List Call
  world : World

def Action.calls : (action : Action) → action.Answer → List Call
  | .store r, answer => [⟨r, answer⟩]
  | _, _ => []

namespace World

/-- The world as an action finds it. -/
def await (w : World) (t : Turn) : World :=
  { w with
    store := { w.store with store := w.store.store.afterAll t.before }
    clock := w.clock + t.elapsed }

/-- What an action is answered in its turn, and how the world is afterwards. A lost request has no effect. -/
def answerIn (w : World) (t : Turn) : (action : Action) → action.Answer × World
  | .store r =>
    match t.lost.bind fun e => FaultyStore.substitute? r (.error e) with
    | some answer => (answer, w.await t)
    | none => (w.await t).answer (.store r)
  | .patience => ((w.await t).store.patience + t.extra, w.await t)
  | action => (w.await t).answer action

theorem answerIn_alone (w : World) (action : Action) : w.answerIn {} action = w.answer action := by
  cases action <;> rfl

end World

namespace Program

variable {α β : Type}

/-- Runs a program, each of its actions in a turn of its own. -/
def runAmong : (Nat → Turn) → Program α → World → Run α
  | _, done a, w => ⟨some a, [], w⟩
  | _, stalled, w => ⟨none, [], w⟩
  | turns, act action next, w =>
    let answered := w.answerIn (turns 0) action
    let later := (next answered.1).runAmong (fun n => turns (n + 1)) answered.2
    ⟨later.result, action.calls answered.1 ++ later.calls, later.world⟩

@[simp] theorem runAmong_done (turns : Nat → Turn) (a : α) (w : World) :
    (done a).runAmong turns w = ⟨some a, [], w⟩ := rfl

@[simp] theorem runAmong_stalled (turns : Nat → Turn) (w : World) :
    (stalled : Program α).runAmong turns w = ⟨none, [], w⟩ := rfl

theorem runAmong_alone (p : Program α) (w : World) :
    p.run w = ((p.runAmong (fun _ => {}) w).result, (p.runAmong (fun _ => {}) w).world) := by
  induction p generalizing w with
  | done a => rfl
  | stalled => rfl
  | act action next ih =>
    rw [run_act, ih]
    simp only [runAmong, World.answerIn_alone]

end Program
end RecordStore
