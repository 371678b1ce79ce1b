import RecordStore.Client.Collection
import RecordStore.Client.Turn

/-!
# Rounds

Clients that change one record under its lock. In a round a client locks the record and loads it, changes and saves it,
and gives the lock back. Rounds take turns in any order, one action at a time, and new ones begin at any time; a client
that goes through one round after another has several rounds.
-/

namespace RecordStore

def Action.time? : (action : Action) → action.Answer → Option Nat
  | .now, time => some time
  | _, _ => none

namespace Call

def inserts (collection : String) : Call → Bool
  | ⟨.insert name _, answer⟩ => name = collection && answer.isOk
  | _ => false

def replaced? : Call → Option Header
  | ⟨.replace _ _, answer⟩ => answer.toOption
  | _ => none

end Call

structure Save (ρ : Type) where
  context : SaveContext
  change : ρ → ρ
  /-- The time that the hook was told. -/
  time : Nat
  header : Header

/-- One round of a client: what it wants to change and how far it has come. -/
structure Round (ρ : Type) where
  context : SaveContext
  change : ρ → ρ
  program : Program (Except ClientError (ρ × String))
  /-- The time that the client was told last. -/
  time : Nat := 0
  save? : Option (Save ρ) := none

namespace Round

variable {ρ : Type}

def start [Record ρ] (c : RecordCollection ρ) (key : String) (context : SaveContext) (change : ρ → ρ) : Round ρ where
  context := context
  change := change
  program := c.update key context change

def act (r : Round ρ) (t : Turn) (w : World) : Round ρ × List Call × World :=
  match r.program with
  | .act action next =>
    let answered := w.answerIn t action
    let calls := action.calls answered.1
    let save? := (calls.findSome? Call.replaced?).map (Save.mk r.context r.change r.time)
    ({ r with
        program := next answered.1
        time := (action.time? answered.1).getD r.time
        save? := save?.or r.save? }, calls, answered.2)
  | _ => (r, [], w)

theorem act_eq {r : Round ρ} {action : Action} {next : action.Answer → Program (Except ClientError (ρ × String))}
    (acts : r.program = .act action next) (t : Turn) (w : World) :
    r.act t w = ({ r with
        program := next (w.answerIn t action).1
        time := (action.time? (w.answerIn t action).1).getD r.time
        save? := (((action.calls (w.answerIn t action).1).findSome? Call.replaced?).map
          (Save.mk r.context r.change r.time)).or r.save? },
      action.calls (w.answerIn t action).1, (w.answerIn t action).2) := by
  simp only [act, acts]

end Round

structure RoundSystem (ρ : Type) where
  world : World
  rounds : List (Round ρ) := []
  /-- The rounds that have taken the lock, in this order. -/
  order : List Nat := []

inductive RoundMove (ρ : Type) where
  | start (context : SaveContext) (change : ρ → ρ)
  | act (round : Nat) (turn : Turn)

namespace RoundSystem

variable {ρ : Type}

def store (σ : RoundSystem ρ) : Store := σ.world.store.store

/-- The rounds that have taken the lock before another one. -/
def before (σ : RoundSystem ρ) (i : Nat) : List Nat := σ.order.takeWhile (· ≠ i)

def saves (σ : RoundSystem ρ) (rounds : List Nat) : List (Save ρ) :=
  rounds.filterMap fun i => σ.rounds[i]?.bind Round.save?

/-- The system after a move, where all rounds are about one record and its lock is kept in a collection. A move that is
not possible changes nothing. -/
def step [Record ρ] (c : RecordCollection ρ) (key locks : String) (σ : RoundSystem ρ) : RoundMove ρ → RoundSystem ρ
  | .start context change => { σ with rounds := σ.rounds ++ [.start c key context change] }
  | .act i turn =>
    match σ.rounds[i]? with
    | some r =>
      let (r, calls, world) := r.act turn σ.world
      ⟨world, σ.rounds.set i r, if calls.any (Call.inserts locks) then σ.order ++ [i] else σ.order⟩
    | none => σ

end RoundSystem
end RecordStore
