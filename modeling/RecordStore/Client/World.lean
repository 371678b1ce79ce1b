import RecordStore.Client.Program
import RecordStore.Store.Faults

/-!
# Worlds

What the programs of clients act on: a store with its faults, a clock, and what one process keeps in memory,
which are its locks, the names that were asked for, and how many keys it has generated.
-/

namespace RecordStore

structure World where
  store : FaultyStore
  /-- The time in milliseconds. -/
  clock : Nat := 0
  /-- How many keys have been generated. -/
  keysMade : Nat := 0
  /-- The locks that are held in the memory of the process. -/
  claimed : List String := []
  /-- What names have been asked for, each once. -/
  noted : List Subject := []
  deriving Repr

namespace Effect

/-- How many results an effect can hand out. -/
def itemCount : Effect → Nat
  | batch b => b.items.length
  | _ => 0

end Effect

namespace FaultyStore

/-- More than how often a client can fetch from one cursor, or can find a lock that is free to be taken by a
fault: every fetch delivers a result that is still there or uses a fault up. -/
def patience (s : FaultyStore) : Nat :=
  s.store.cursors.foldl (fun count entry => count + entry.2.items.length) 0 +
    s.faults.foldl (fun count f => count + f.effect.itemCount) 0 + s.faults.length + 1

end FaultyStore

namespace World

def empty (batchSize : Nat) : World :=
  ⟨⟨Store.empty batchSize, []⟩, 0, 0, [], []⟩

def addAll : List Subject → List Subject → List Subject
  | noted, [] => noted
  | noted, subject :: rest =>
    addAll (if noted.contains subject then noted else noted ++ [subject]) rest

def answer (w : World) : (action : Action) → action.Answer × World
  | .store r =>
    let (answer, store) := w.store.answer r
    (answer, { w with store := store })
  | .keyNumber => (w.keysMade, { w with keysMade := w.keysMade + 1 })
  | .now => (w.clock, w)
  | .note subjects => ((), { w with noted := addAll w.noted subjects })
  | .claim lock =>
    if w.claimed.contains lock then (false, w) else (true, { w with claimed := w.claimed ++ [lock] })
  | .yield lock => ((), { w with claimed := w.claimed.filter (· ≠ lock) })
  | .patience => (w.store.patience, w)

/-- How many types of records have had their names asked for. -/
def notedCollections (w : World) : Nat :=
  w.noted.countP fun subject => match subject with
    | .collection _ => true
    | .graph _ => false

def notedGraphs (w : World) : Nat :=
  w.noted.countP fun subject => match subject with
    | .collection _ => false
    | .graph _ => true

end World

namespace Program

variable {α β : Type}

/-- Runs a program alone to its end; there is no result if it stalls. -/
def run : Program α → World → Option α × World
  | done a, w => (some a, w)
  | stalled, w => (none, w)
  | act action next, w =>
    let answered := w.answer action
    (next answered.1).run answered.2

@[simp] theorem run_done (a : α) (w : World) : (done a).run w = (some a, w) := rfl

@[simp] theorem run_stalled (w : World) : (stalled : Program α).run w = (none, w) := rfl

@[simp] theorem run_act (action : Action) (next : action.Answer → Program α) (w : World) :
    (act action next).run w = (next (w.answer action).1).run (w.answer action).2 := rfl

theorem run_bind (p : Program α) (f : α → Program β) (w : World) :
    (p.bind f).run w =
      match p.run w with
      | (some a, w) => (f a).run w
      | (none, w) => (none, w) := by
  induction p generalizing w with
  | done a => rfl
  | stalled => rfl
  | act action next ih => simp only [bind, run_act, ih]

end Program
end RecordStore
