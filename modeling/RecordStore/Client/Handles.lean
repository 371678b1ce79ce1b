import RecordStore.Client.Collection
import RecordStore.Client.Turn

/-!
# Handles

Clients that read from one store through record cursors. A handle is a record cursor from the search that opens it
until it is dropped. What clients do with their handles takes turns, one action at a time, among any other actions. The
system keeps what the store was asked and what it answered.
-/

namespace RecordStore

/-- The first batch of a query, and all results that there were when it ran. -/
structure Opening where
  batch : Batch
  results : List Value

namespace Opening

def isWhole (o : Opening) : Bool := o.results.length ≤ o.batch.items.length

end Opening

def Action.opening? (w : World) : (action : Action) → action.Answer → Option Opening
  | .store (.execute q), .ok batch =>
    some ⟨batch, match w.store.store.evaluate q with
      | .ok results => results.items
      | .error _ => []⟩
  | _, _ => none

inductive CursorUse where
  | next
  | toList
  | close (ignoreMissing : Bool)
  | drop
  deriving DecidableEq, Repr

namespace CursorUse

variable {ρ : Type} [Record ρ]

/-- What a client does then. It has the cursor again in the end, unless it has dropped it. -/
def program (c : RecordCursor ρ) : CursorUse → Program (Option (RecordCursor ρ))
  | next => c.next.bind fun (_, c) => .done (some c)
  | toList => c.toList.bind fun (_, c) => .done (some c)
  | close ignoreMissing => (c.close ignoreMissing).bind fun (_, c) => .done (some c)
  | drop => c.drop.bind fun () => .done none

end CursorUse

structure Handle where
  Item : Type
  record : Record Item
  /-- What the client does now. It ends with the cursor, or with nothing if the search has failed or the cursor has been
  dropped. -/
  program : Program (Option (RecordCursor Item))
  opening : Option Opening := none

namespace Handle

def finding {ρ : Type} [record : Record ρ] (c : RecordCollection ρ) (options : Find.Options) : Handle where
  Item := ρ
  record := record
  program := (c.find options).bind fun
    | .ok cursor => .done (some cursor)
    | .error _ => .done none

/-- The cursor that the store keeps for a handle, if it has to keep one. -/
def id (h : Handle) : Option String := h.opening.bind (·.batch.id)

def dropped (h : Handle) : Bool :=
  match h.program with
  | .done none => h.opening.isSome
  | _ => false

def begin (h : Handle) (use : CursorUse) : Handle :=
  match h.program with
  | .done (some c) => { h with program := @CursorUse.program h.Item h.record c use }
  | _ => h

def act (h : Handle) (w : World) : Handle × List Call × World :=
  match h.program with
  | .act action next =>
    let answered := w.answer action
    ({ h with program := next answered.1, opening := (action.opening? w answered.1).or h.opening },
      action.calls answered.1, answered.2)
  | _ => (h, [], w)

end Handle

structure CursorSystem where
  world : World
  handles : List Handle := []
  /-- What the store was asked since the beginning, with its answers. -/
  calls : List Call := []
  /-- Those among the calls that came from elsewhere. -/
  foreign : List Call := []

inductive CursorMove where
  /-- A client sets out to search a collection. -/
  | find {ρ : Type} [Record ρ] (c : RecordCollection ρ) (options : Find.Options)
  /-- A client sets out to do something with its cursor. -/
  | use (handle : Nat) (use : CursorUse)
  | act (handle : Nat)
  /-- Anything else happens. -/
  | other (action : Action)

namespace CursorSystem

def store (σ : CursorSystem) : Store := σ.world.store.store

/-- The system after a move. A move that is not possible changes nothing. -/
def step (σ : CursorSystem) : CursorMove → CursorSystem
  | @CursorMove.find _ record c options => { σ with handles := σ.handles ++ [@Handle.finding _ record c options] }
  | .use i use =>
    match σ.handles[i]? with
    | some h => { σ with handles := σ.handles.set i (h.begin use) }
    | none => σ
  | .act i =>
    match σ.handles[i]? with
    | some h =>
      let (h, calls, w) := h.act σ.world
      { σ with world := w, handles := σ.handles.set i h, calls := σ.calls ++ calls }
    | none => σ
  | .other action =>
    let (answer, w) := σ.world.answer action
    let calls := action.calls answer
    { σ with world := w, calls := σ.calls ++ calls, foreign := σ.foreign ++ calls }

end CursorSystem
end RecordStore
