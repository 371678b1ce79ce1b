import RecordStore.Client.Error
import RecordStore.Names
import RecordStore.Store.Request

/-!
# Programs

A program of a client is a finite tree of actions. It does one thing at a time and goes on with what it is
answered. Several programs can therefore take turns after any action. A program that would wait for ever is
stalled: waiting is bounded by a number of tries that it asks for beforehand.
-/

namespace RecordStore

inductive Action where
  /-- Sends a request to the store. -/
  | store (r : Request)
  /-- Takes the next number for a generated key. -/
  | keyNumber
  /-- Reads the time in milliseconds. -/
  | now
  /-- Takes note that names were asked for. -/
  | note (subjects : List Subject)
  /-- Takes a lock in the memory of the process if it is free. -/
  | claim (lock : String)
  /-- Gives a lock in the memory of the process back. -/
  | yield (lock : String)
  /-- Asks how often to try again what may not succeed at once. -/
  | patience

namespace Action

/-- What an action is answered. -/
abbrev Answer : Action → Type
  | store r => r.Answer
  | keyNumber => Nat
  | now => Nat
  | note _ => Unit
  | claim _ => Bool
  | yield _ => Unit
  | patience => Nat

end Action

inductive Program (α : Type) where
  | done (result : α)
  | stalled
  | act (action : Action) (next : action.Answer → Program α)

namespace Program

variable {α β γ : Type}

def bind : Program α → (α → Program β) → Program β
  | done a, f => f a
  | stalled, _ => stalled
  | act action next, f => act action fun answer => (next answer).bind f

instance : Monad Program where
  pure := done
  bind := bind

/-- One action whose answer is the result. -/
def ofAction (action : Action) : Program action.Answer :=
  act action done

def request (r : Request) : Program r.Answer :=
  ofAction (.store r)

/-- Sends a request whose errors mean something to the client. -/
def requestOr {α : Type} (answer : Program (Except StoreError α)) (meaning : StoreError → ClientError) :
    Program (Except ClientError α) :=
  answer.bind fun result => done (result.mapError meaning)

def andThen (p : Program (Except ClientError α)) (f : α → Program (Except ClientError β)) :
    Program (Except ClientError β) :=
  p.bind fun result =>
    match result with
    | .error e => done (.error e)
    | .ok a => f a

def mapOk (f : α → β) (p : Program (Except ClientError α)) : Program (Except ClientError β) :=
  p.bind fun result => done (result.map f)

@[simp] theorem pure_eq (a : α) : (pure a : Program α) = done a := rfl

@[simp] theorem bind_eq (p : Program α) (f : α → Program β) : (p >>= f) = p.bind f := rfl

@[simp] theorem done_bind (a : α) (f : α → Program β) : (done a).bind f = f a := rfl

@[simp] theorem stalled_bind (f : α → Program β) : (stalled : Program α).bind f = stalled := rfl

theorem bind_assoc (p : Program α) (f : α → Program β) (g : β → Program γ) :
    (p.bind f).bind g = p.bind fun a => (f a).bind g := by
  induction p with
  | done a => rfl
  | stalled => rfl
  | act action next ih => simp only [bind, ih]

end Program
end RecordStore
