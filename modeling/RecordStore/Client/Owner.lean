import RecordStore.Client.Graph
import RecordStore.Client.Turn

/-!
# Owners

A client with a record of its own, which it saves, inserts, reloads and deletes time and again in any collections and
graphs. The record is used for one thing at a time; each use goes on by single actions, and between these anybody else
may do anything. The system keeps of each use what it asked of the store, how it found the store and how it left it.
-/

namespace RecordStore

/-- A call, with the store as the request found it and as it left it. -/
structure Contact extends Call where
  before : Store
  after : Store

inductive RecordUse (ρ : Type) where
  | save (c : RecordCollection ρ) (context : SaveContext)
  | saveThrough (g : RecordGraph) (context : SaveContext)
  /-- Inserts the record with one request for several records, some of them before it and some after it. -/
  | insertAmong (c : RecordCollection ρ) (context : SaveContext) (before after : List ρ)
  | reload (c : RecordCollection ρ)
  | delete (c : RecordCollection ρ) (ignoreMissing : Bool)
  | deleteThrough (g : RecordGraph) (kind : RecordKind) (ignoreMissing : Bool)

namespace RecordUse

variable {ρ : Type}

def db : RecordUse ρ → Database
  | save c _ | insertAmong c _ _ _ | reload c | delete c _ => c.db
  | saveThrough g _ | deleteThrough g _ _ => g.db

def saves : RecordUse ρ → Bool
  | save _ _ | saveThrough _ _ => true
  | _ => false

/-- What the client does then. It has the record again in the end. -/
def program [Record ρ] (r : ρ) : RecordUse ρ → Program (Except ClientError Unit × ρ)
  | save c context => c.save context r
  | saveThrough g context => g.save context r
  | insertAmong c context before after =>
    (c.insertMany context (before ++ r :: after)).bind fun (answer, records) =>
      .done (answer, records[before.length]?.getD r)
  | reload c => c.reload r
  | delete c ignoreMissing => (c.delete r ignoreMissing).bind fun answer => .done (answer.map fun _ => (), r)
  | deleteThrough g kind ignoreMissing =>
    (g.deleteAs kind r ignoreMissing).bind fun answer => .done (answer.map fun _ => (), r)

end RecordUse

structure PendingUse (ρ : Type) where
  use : RecordUse ρ
  start : ρ
  program : Program (Except ClientError Unit × ρ)
  contacts : List Contact := []

structure Episode (ρ : Type) where
  use : RecordUse ρ
  start : ρ
  contacts : List Contact
  answer : Except ClientError Unit
  finish : ρ

structure OwnerSystem (ρ : Type) where
  world : World
  /-- The record as it is between its uses. -/
  record : ρ
  current : Option (PendingUse ρ) := none
  past : List (Episode ρ) := []

inductive OwnerMove (ρ : Type) where
  /-- The client changes the record itself. -/
  | change (f : ρ → ρ)
  | begin (use : RecordUse ρ)
  | act (turn : Turn)
  /-- The client has its record again. -/
  | finish
  /-- Anybody else does something. -/
  | other (action : Action)

namespace OwnerSystem

variable {ρ : Type}

/-- The system after a move. A move that is not possible changes nothing. -/
def step [Record ρ] (σ : OwnerSystem ρ) : OwnerMove ρ → OwnerSystem ρ
  | .change f =>
    match σ.current with
    | none => { σ with record := f σ.record }
    | some _ => σ
  | .begin use =>
    match σ.current with
    | none => { σ with current := some ⟨use, σ.record, use.program σ.record, []⟩ }
    | some _ => σ
  | .act turn =>
    match σ.current with
    | some ⟨use, start, .act action next, contacts⟩ =>
      let found := (σ.world.await turn).store.store
      let answered := σ.world.answerIn turn action
      let left := answered.2.store.store
      let more := (action.calls answered.1).map fun call => ⟨call, found, left⟩
      { σ with world := answered.2, current := some ⟨use, start, next answered.1, contacts ++ more⟩ }
    | _ => σ
  | .finish =>
    match σ.current with
    | some ⟨use, start, .done (answer, r), contacts⟩ =>
      { σ with record := r, current := none, past := σ.past ++ [⟨use, start, contacts, answer, r⟩] }
    | _ => σ
  | .other action => { σ with world := (σ.world.answer action).2 }

end OwnerSystem
end RecordStore
