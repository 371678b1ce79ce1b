import RecordStore.Client.Lock
import RecordStore.Client.Turn

/-!
# Errands

Clients that share a collection of locks. What a client does with a backend or a lock is an errand; a client with
several locks, or with one lock after another, has several errands. Errands take turns in any order, one action at a
time, and new ones begin at any time.
-/

namespace RecordStore

namespace Call

def storedKey? : Call → Option String
  | ⟨.insert _ _, answer⟩ => answer.toOption.map Header.key
  | _ => none

def failed (c : Call) : Bool := c.request.refused c.answer

end Call

/-- How an errand comes to rest. -/
inductive Rest where
  /-- Nothing has come of it. -/
  | over
  | ready (backend : LockBackend)
  | holding (guard : LockGuard)
  /-- The guard has been used up. -/
  | returned (guard : LockGuard)

/-- What a client is doing with a backend or a lock. -/
structure Errand where
  program : Program Rest
  /-- The key under which the store has stored the document of the lock. -/
  document : Option String := none
  /-- Whether a call has failed since the errand was last begun. -/
  failed : Bool := false

namespace Errand

def preparing (collection : String) : Errand where
  program := (LockBackend.create collection).bind fun
    | .ok backend => .done (.ready backend)
    | .error _ => .done .over

def taking (l : NamedLock) (block : Bool) : Errand where
  program :=
    if block then
      l.acquire.bind fun
        | .ok guard => .done (.holding guard)
        | .error _ => .done .over
    else
      l.tryAcquire.bind fun
        | .ok (some guard) => .done (.holding guard)
        | _ => .done .over

def returning (e : Errand) (guard : LockGuard) (drop : Bool) : Errand where
  program :=
    if drop then guard.drop.bind fun () => .done (.returned guard)
    else guard.release.bind fun _ => .done (.returned guard)
  document := e.document

def act (e : Errand) (t : Turn) (w : World) : Errand × World :=
  match e.program with
  | .act action next =>
    let answered := w.answerIn t action
    let calls := action.calls answered.1
    ({ program := next answered.1
       document := (calls.findSome? Call.storedKey?).or e.document
       failed := e.failed || calls.any Call.failed }, answered.2)
  | _ => (e, w)

end Errand

structure LockSystem where
  world : World
  errands : List Errand := []

inductive LockMove where
  /-- A client sets out to prepare a backend. -/
  | prepare
  /-- A client sets out to take a lock with the backend that an errand has prepared. -/
  | take (errand : Nat) (name : String) (block : Bool)
  /-- A client sets out to give back the lock that an errand holds. -/
  | giveBack (errand : Nat) (drop : Bool)
  | act (errand : Nat) (turn : Turn)

namespace LockSystem

def store (σ : LockSystem) : Store := σ.world.store.store

def guard? (σ : LockSystem) (i : Nat) : Option LockGuard :=
  σ.errands[i]?.bind fun e => match e.program with
    | .done (.holding guard) => some guard
    | _ => none

/-- The system after a move over a collection of locks. A move that is not possible changes nothing. -/
def step (collection : String) (σ : LockSystem) : LockMove → LockSystem
  | .prepare => { σ with errands := σ.errands ++ [.preparing collection] }
  | .take i name block =>
    match σ.errands[i]? with
    | some ⟨.done (.ready backend), _, _⟩ => { σ with errands := σ.errands ++ [.taking ⟨backend, name⟩ block] }
    | _ => σ
  | .giveBack i drop =>
    match σ.errands[i]? with
    | some e =>
      match e.program with
      | .done (.holding guard) => { σ with errands := σ.errands.set i (e.returning guard drop) }
      | _ => σ
    | none => σ
  | .act i turn =>
    match σ.errands[i]? with
    | some e => ⟨(e.act turn σ.world).2, σ.errands.set i (e.act turn σ.world).1⟩
    | none => σ

end LockSystem
end RecordStore
