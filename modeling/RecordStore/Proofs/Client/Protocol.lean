import Mathlib.Logic.Function.Basic
import RecordStore.Client.Database
import RecordStore.Client.Turn

/-!
# Protocols

A protocol says which actions are allowed in a phase, whether a program may wait there for ever, which answers may be
expected, and which phase an answer leads to. That a program follows a protocol is a statement about the program alone:
each action that it takes is allowed, and it goes on following the protocol after any answer that may be expected. What
the actions do to the world is the other half, which is proved once for the protocol and not for each program.
-/

namespace RecordStore

/-- What a program may do and expect in each phase. -/
structure Protocol (σ : Type) where
  allows : σ → Action → Prop
  /-- Where a program may wait for ever. -/
  waits : σ → Prop
  expects : σ → (action : Action) → action.Answer → Prop
  after : σ → (action : Action) → action.Answer → σ

namespace Program

variable {σ τ α β : Type} {P : Protocol σ} {Q : Protocol τ}

/-- A program that takes allowed actions only and comes to rest, if it does, in a phase that fits its result. -/
def Follows (P : Protocol σ) (rests : σ → α → Prop) : Program α → σ → Prop
  | done a, x => rests x a
  | stalled, x => P.waits x
  | act action next, x =>
    P.allows x action ∧
      ∀ answer, P.expects x action answer → (next answer).Follows P rests (P.after x action answer)

/-- A condition on a phase and a result that may be an error. -/
def Settles (good : σ → α → Prop) (bad : σ → ClientError → Prop) (x : σ) : Except ClientError α → Prop
  | .ok a => good x a
  | .error e => bad x e

namespace Follows

theorem mono {p : Program α} {x : σ} {rests weaker : σ → α → Prop} (follows : p.Follows P rests x)
    (weaken : ∀ y a, rests y a → weaker y a) : p.Follows P weaker x := by
  induction p generalizing x with
  | done a => exact weaken x a follows
  | stalled => exact follows
  | act action next ih =>
    obtain ⟨allowed, goesOn⟩ := follows
    exact ⟨allowed, fun answer expected => ih answer (goesOn answer expected)⟩

theorem bind {p : Program α} {f : α → Program β} {x : σ} {middle : σ → α → Prop} {rests : σ → β → Prop}
    (first : p.Follows P middle x) (second : ∀ y a, middle y a → (f a).Follows P rests y) :
    (p.bind f).Follows P rests x := by
  induction p generalizing x with
  | done a => exact second x a first
  | stalled => exact first
  | act action next ih =>
    obtain ⟨allowed, goesOn⟩ := first
    exact ⟨allowed, fun answer expected => ih answer (goesOn answer expected)⟩

theorem andThen {p : Program (Except ClientError α)} {f : α → Program (Except ClientError β)} {x : σ}
    {middle : σ → α → Prop} {good : σ → β → Prop} {bad : σ → ClientError → Prop}
    (first : p.Follows P (Settles middle bad) x)
    (second : ∀ y a, middle y a → (f a).Follows P (Settles good bad) y) :
    (p.andThen f).Follows P (Settles good bad) x := by
  refine .bind first fun y result here => ?_
  cases result with
  | ok a => exact second y a here
  | error e => exact here

/-- A program that follows a protocol follows every protocol that simulates it. -/
theorem lift {p : Program α} {rests : σ → α → Prop} (R : σ → τ → Prop)
    (waits : ∀ x y, R x y → P.waits x → Q.waits y)
    (step : ∀ x y action, R x y → P.allows x action → Q.allows y action ∧ ∀ answer, Q.expects y action answer →
      P.expects x action answer ∧ R (P.after x action answer) (Q.after y action answer))
    {x : σ} {y : τ} (start : R x y) (follows : p.Follows P rests x) :
    p.Follows Q (fun y a => ∃ x, R x y ∧ rests x a) y := by
  induction p generalizing x y with
  | done a => exact ⟨x, start, follows⟩
  | stalled => exact waits x y start follows
  | act action next ih =>
    obtain ⟨allowed, goesOn⟩ := follows
    obtain ⟨allows, simulates⟩ := step x y action start allowed
    refine ⟨allows, fun answer expected => ?_⟩
    obtain ⟨expects, related⟩ := simulates answer expected
    exact ih answer related (goesOn answer expects)

end Follows

/-- Along a protocol a program comes to rest, whatever answers it may expect, and needs so many actions at most. -/
def EndsWithin (P : Protocol σ) (rests : α → Prop) : Program α → Nat → σ → Prop
  | done a, _, _ => rests a
  | stalled, _, _ => False
  | act _ _, 0, _ => False
  | act action next, n + 1, x =>
    ∀ answer, P.expects x action answer → (next answer).EndsWithin P rests n (P.after x action answer)

/-- What a program goes on with at its end may be its result in another form. -/
theorem EndsWithin.bind_done {p : Program α} {f : α → β} {rests : β → Prop} {n : Nat} {x : σ}
    (ends : p.EndsWithin P (fun _ => True) n x) (here : ∀ a, rests (f a)) :
    (p.bind fun a => .done (f a)).EndsWithin P rests n x := by
  induction p generalizing n x with
  | done a => exact here a
  | stalled => exact ends
  | act action next ih =>
    cases n with
    | zero => exact ends
    | succ n =>
      intro answer expected
      exact ih answer (ends answer expected)

end Program

/-! ### Results alone -/

namespace Protocol

/-- The protocol of all programs, for what can be said of their results whatever they are answered. -/
def free : Protocol Unit where
  allows _ _ := True
  waits _ := True
  expects _ _ _ := True
  after _ _ _ := ()

end Protocol

/-- Whatever it is answered, a program has a result of a certain kind if it has one. -/
def Program.Yields {α : Type} (p : Program α) (kind : α → Prop) : Prop :=
  p.Follows Protocol.free (fun _ a => kind a) ()

namespace Program.Yields

variable {α β : Type} {p : Program α} {kind : α → Prop}

theorem done {a : α} (here : kind a) : (Program.done a).Yields kind := here

theorem act {action : Action} {next : action.Answer → Program α} (each : ∀ answer, (next answer).Yields kind) :
    (Program.act action next).Yields kind :=
  ⟨trivial, fun answer _ => each answer⟩

theorem bind {f : α → Program β} {other : β → Prop} (first : p.Yields kind)
    (second : ∀ a, kind a → (f a).Yields other) : (p.bind f).Yields other :=
  Follows.bind first fun _ a here => second a here

theorem run (yields : p.Yields kind) {w w' : World} {a : α} (ran : p.run w = (some a, w')) : kind a := by
  induction p generalizing w with
  | done b =>
    cases ran
    exact yields
  | stalled => cases ran
  | act action next ih => exact ih _ (yields.2 _ trivial) ran

end Program.Yields

/-! ### Calls -/

/-- The protocol whose phases are the calls that were made so far, where requests are answered credibly and a program may
wait in some phases. -/
def Protocol.recording (credible : (r : Request) → r.Answer → Prop) (waits : List Call → Prop) :
    Protocol (List Call) where
  allows _ _ := True
  waits := waits
  expects
    | _, .store r, answer => credible r answer
    | _, _, _ => True
  after calls action answer := calls ++ action.calls answer

section Recording

variable {credible : (r : Request) → r.Answer → Prop} {waits : List Call → Prop} {calls : List Call}

/-- What is no request adds no call. -/
theorem Program.aside_follows {action : Action} (quiet : ∀ r, action ≠ .store r) :
    (Program.ofAction action).Follows (.recording credible waits) (fun later _ => later = calls) calls := by
  refine ⟨trivial, fun _ _ => ?_⟩
  cases action with
  | store r => exact absurd rfl (quiet r)
  | _ => exact List.append_nil calls

theorem Database.note_follows (types : List RecordType) :
    (Database.note types).Follows (.recording credible waits) (fun later _ => later = calls) calls := by
  unfold Database.note
  split
  · rfl
  · exact Program.aside_follows nofun

end Recording

/-! ### Clients in their phases -/

/-- The clients of a system fit their phases, and those that have not begun are outside. -/
structure Phased {α : Type*} {σ : Type} (fits : α → σ → Prop) (outside : σ) (clients : List α)
    (phase : Nat → σ) : Prop where
  inside : ∀ (i : Nat) (a : α), clients[i]? = some a → fits a (phase i)
  beyond : ∀ i, clients.length ≤ i → phase i = outside

namespace Phased

variable {α : Type*} {σ : Type} {fits : α → σ → Prop} {outside : σ} {clients : List α} {phase : Nat → σ} {a : α} {x : σ}

theorem set (phased : Phased fits outside clients phase) {i : Nat} (there : i < clients.length) (fresh : fits a x) :
    Phased fits outside (clients.set i a) (Function.update phase i x) := by
  refine ⟨fun j other here => ?_, fun j beyond => ?_⟩
  · by_cases same : j = i
    · subst same
      rw [List.getElem?_set_self there] at here
      obtain rfl := Option.some.inj here
      rw [Function.update_self]
      exact fresh
    · rw [List.getElem?_set_ne (Ne.symm same)] at here
      rw [Function.update_of_ne same]
      exact phased.inside j other here
  · rw [List.length_set] at beyond
    rw [Function.update_of_ne (by omega)]
    exact phased.beyond j beyond

theorem concat (phased : Phased fits outside clients phase) (fresh : fits a x) :
    Phased fits outside (clients ++ [a]) (Function.update phase clients.length x) := by
  refine ⟨fun j other here => ?_, fun j beyond => ?_⟩
  · rcases Nat.lt_trichotomy j clients.length with before | rfl | after
    · rw [List.getElem?_append_left before] at here
      rw [Function.update_of_ne (Nat.ne_of_lt before)]
      exact phased.inside j other here
    · rw [List.getElem?_concat_length] at here
      obtain rfl := Option.some.inj here
      rw [Function.update_self]
      exact fresh
    · rw [List.getElem?_eq_none (by simp; omega)] at here
      cases here
  · rw [List.length_append, List.length_singleton] at beyond
    rw [Function.update_of_ne (by omega)]
    exact phased.beyond j (by omega)

end Phased
end RecordStore
