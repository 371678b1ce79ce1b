import RecordStore.Proofs.Client.CursorProtocol
import RecordStore.Proofs.Client.Turn
import RecordStore.Proofs.Store.OpenCursors

/-!
# The invariant of record cursors

What the phases of record cursors say of the store. A record cursor in the phase `opened` has its cursor open unless
others have asked the store for it, and in the phases `lost` and `shut` that cursor is gone for good. Each action keeps
this for the client that acts (`own_step`) and for all others (`Holds.answer`), and changes no cursor but the own one.
-/

namespace RecordStore

namespace Call

def of (s : Store) (r : Request) : Call := ⟨r, (s.answer r).1⟩

def closes (id : String) (c : Call) : Bool := c.request.closes id c.answer

def drains (id : String) (c : Call) : Bool := c.request.drains id c.answer

def uses (id : String) (c : Call) : Bool := c.request.uses id

end Call

/-! ### Own actions -/

namespace CursorPhase

variable {x : CursorPhase} {s t : Store} {spared : String → Bool} {name : String}

/-- What a phase says of the store, where a cursor is spared if nobody else has asked for it. -/
def Holds (spared : String → Bool) (s : Store) : CursorPhase → Prop
  | opened name => spared name = true → s.isOpen name = true
  | lost name => s.isOpen name = false ∧ spared name = false
  | shut name => s.isOpen name = false
  | _ => True

theorem holds_ofBatch {b : Batch} (done : s.Executed (.ok b) t) : (ofBatch b).Holds spared t := by
  cases done with
  | whole _ unnamed last => simp [ofBatch, unnamed, Holds]
  | kept _ pending named more => simp [ofBatch, named, Holds, Store.isOpen, Table.has_set]

theorem Holds.gone (holds : x.Holds spared s) (unopened : x.isOpened = false) (own : x.name? = some name) :
    s.isOpen name = false := by
  cases x with
  | finding | whole => cases own
  | opened => cases unopened
  | lost =>
    obtain ⟨⟩ := own
    exact holds.1
  | shut =>
    obtain ⟨⟩ := own
    exact holds

theorem Holds.isOpened (holds : x.Holds spared s) (own : x.name? = some name) {answer : Except StoreError Batch}
    (done : s.Fetched name answer t) (ok : answer.isOk = true) : x.isOpened = true := by
  cases unopened : x.isOpened with
  | true => rfl
  | false => cases (done.isOk.symm.trans ok).symm.trans (holds.gone unopened own)

theorem Holds.fetched (holds : x.Holds spared s) (own : x.name? = some name) {answer : Except StoreError Batch}
    (done : s.Fetched name answer t) : (x.fetched answer).Holds spared t := by
  cases done with
  | missing missed =>
    cases x with
    | opened =>
      obtain ⟨⟩ := own
      exact missed
    | _ => exact holds
  | last b held last =>
    have live := holds.isOpened own (.last b held last) rfl
    cases x with
    | opened =>
      obtain ⟨⟩ := own
      simp [CursorPhase.fetched, last, Holds, Store.isOpen, Table.has_erase]
    | _ => cases live
  | more b pending held more =>
    have live := holds.isOpened own (.more b pending held more) rfl
    cases x with
    | opened =>
      obtain ⟨⟩ := own
      simp [CursorPhase.fetched, more, Holds, Store.isOpen, Table.has_set]
    | _ => cases live

theorem Holds.closed (holds : x.Holds spared s) (own : x.name? = some name) {answer : Except StoreError Unit}
    (done : s.Released name answer t) : (x.closed answer).Holds spared t := by
  cases done with
  | missing missed =>
    cases x with
    | opened =>
      obtain ⟨⟩ := own
      exact ⟨missed, Bool.eq_false_iff.mpr fun spare => by cases (holds spare).symm.trans missed⟩
    | _ => exact holds
  | closed held =>
    cases x with
    | opened =>
      obtain ⟨⟩ := own
      simp [CursorPhase.closed, Holds, Store.isOpen, Table.has_erase]
    | _ => cases held.symm.trans (holds.gone rfl own)

/-- A client that rests knows whether its cursor is open if nobody else has asked for it. -/
theorem Holds.known (holds : x.Holds spared s) {ρ : Type} {c : RecordCursor ρ} (fits : c.Fits x)
    (own : x.name? = some name) :
    (s.isOpen name = true → c.released = false ∧ c.hasMore = true) ∧
      (spared name = true → c.released = false → c.hasMore = true → s.isOpen name = true) := by
  cases x with
  | finding | whole => cases own
  | opened =>
    obtain ⟨⟩ := own
    exact ⟨fun _ => fits.2, fun spare _ _ => holds spare⟩
  | lost =>
    obtain ⟨⟩ := own
    exact ⟨fun held => (by cases held.symm.trans holds.1), fun spare => by cases spare.symm.trans holds.2⟩
  | shut =>
    obtain ⟨⟩ := own
    refine ⟨fun held => (by cases held.symm.trans holds), fun _ unreleased more => ?_⟩
    rcases fits.2 with released | last
    · cases unreleased.symm.trans released
    · cases more.symm.trans last

end CursorPhase

namespace RecordCursor

/-- What an allowed action comes to. -/
structure OwnStep (spared : String → Bool) (s : Store) (x : CursorPhase) (action : Action) (answer : action.Answer)
    (t : Store) : Prop where
  expected : protocol.expects x action answer
  holds : (protocol.after x action answer).Holds spared t
  others : s.CursorsNamed → t.besides (protocol.after x action answer).name? = s.besides x.name?

variable {w : World} {s : Store} {x : CursorPhase} {spared : String → Bool}

theorem store_step (holds : x.Holds spared s) {r : Request} (allowed : protocol.allows x (.store r)) :
    OwnStep spared s x (.store r) (s.answer r).1 (s.answer r).2 := by
  rcases allows_cases allowed with waiting | ⟨rfl, ⟨_, noting⟩ | ⟨q, same⟩⟩ | ⟨name, own, same | same⟩
  · cases waiting
  · cases noting
  · cases same
    have done := s.answer_execute q
    generalize (s.answer (.execute q)).1 = answer at done
    generalize (s.answer (.execute q)).2 = t at done
    cases answer with
    | error e =>
      cases done
      exact ⟨fun b => nofun, trivial, fun _ => rfl⟩
    | ok b =>
      refine ⟨fun _ same => Except.ok.inj same ▸ done.hasMore, CursorPhase.holds_ofBatch done, fun named => ?_⟩
      show t.besides (CursorPhase.ofBatch b).name? = s.cursors
      rw [CursorPhase.name?_ofBatch]
      exact done.besides named
  · cases same
    have done := s.answer_nextBatch name
    refine ⟨holds.isOpened own done, holds.fetched own done, fun _ => ?_⟩
    show Store.besides _ (x.fetched (s.answer (.nextBatch name)).1).name? = _
    rw [CursorPhase.name?_fetched, own]
    exact done.besides
  · cases same
    have done := s.answer_closeCursor name
    refine ⟨trivial, holds.closed own done, fun _ => ?_⟩
    show Store.besides _ (x.closed (s.answer (.closeCursor name)).1).name? = _
    rw [CursorPhase.name?_closed, own]
    exact done.besides

/-- An action that the protocol allows is answered as expected, keeps what its phase says of the store, and leaves all
cursors besides the own one alone. -/
theorem own_step (plain : w.store = ⟨s, []⟩) (holds : x.Holds spared s) {action : Action}
    (allowed : protocol.allows x action) :
    ∃ t, (w.answer action).2.store = ⟨t, []⟩ ∧ OwnStep spared s x action (w.answer action).1 t ∧
      (s.CursorsNamed → t.CursorsNamed) := by
  cases action with
  | store r =>
    rw [World.answer_plain plain]
    exact ⟨_, rfl, store_step holds allowed, fun named => named.answer r⟩
  | note | patience => exact ⟨s, plain, ⟨trivial, holds, fun _ => rfl⟩, fun named => named⟩
  | _ => cases x <;> exact allowed.elim

/-- A program that runs alone keeps to its protocol. -/
theorem run_step {α : Type} {p : Program α} {rests : CursorPhase → α → Prop} (follows : p.Follows protocol rests x)
    (plain : w.store = ⟨s, []⟩) (named : s.CursorsNamed) (holds : x.Holds spared s) {a : α} {w' : World}
    (ran : p.run w = (some a, w')) :
    ∃ y t, w'.store = ⟨t, []⟩ ∧ t.CursorsNamed ∧ y.Holds spared t ∧ rests y a ∧
      t.besides y.name? = s.besides x.name? := by
  induction p generalizing w s x with
  | done b =>
    cases ran
    exact ⟨x, s, plain, named, holds, follows, rfl⟩
  | stalled => cases ran
  | act action next ih =>
    obtain ⟨allowed, goesOn⟩ := follows
    obtain ⟨t, left, step, stays⟩ := own_step plain holds allowed
    obtain ⟨y, u, final, still, held, rests, same⟩ := ih _ (goesOn _ step.expected) left (stays named) step.holds ran
    exact ⟨y, u, final, still, held, rests, same.trans (step.others named)⟩

theorem uses_of_allowed {r : Request} (allowed : protocol.allows x (.store r)) {name : String}
    (other : x.name? ≠ some name) : r.uses name = false := by
  rcases allows_cases allowed with waiting | ⟨-, ⟨_, noting⟩ | ⟨q, same⟩⟩ | ⟨own, here, same | same⟩
  · cases waiting
  · cases noting
  · cases same
    rfl
  · cases same
    exact beq_false_of_ne fun same => other (here.trans (congrArg some same))
  · cases same
    exact beq_false_of_ne fun same => other (here.trans (congrArg some same))

/-- A client has to do with one cursor, once one has been opened for it. -/
theorem name?_after {r : Request} (allowed : protocol.allows x (.store r)) (answer : r.Answer) :
    (protocol.after x (.store r) answer).name? = x.name? ∨
      x.name? = none ∧ ∃ name, (protocol.after x (.store r) answer).name? = some name ∧ r.opens name answer = true := by
  rcases allows_cases allowed with waiting | ⟨rfl, ⟨_, noting⟩ | ⟨q, same⟩⟩ | ⟨name, -, same | same⟩
  · cases waiting
  · cases noting
  · cases same
    cases answer with
    | error e => exact .inl rfl
    | ok b =>
      have after : (protocol.after .finding (.store (.execute q)) (.ok b)).name? = b.id := CursorPhase.name?_ofBatch b
      rw [after]
      cases named : b.id with
      | none => exact .inl rfl
      | some name => exact .inr ⟨rfl, name, rfl, by simp [Request.opens, Except.toOption, named]⟩
  · cases same
    exact .inl (x.name?_fetched answer)
  · cases same
    exact .inl (x.name?_closed answer)

end RecordCursor

/-! ### Other actions -/

namespace Store

variable {s : Store} {name : String}

theorem isOpen_answer_of_gone (named : s.HasNamed name) (gone : s.isOpen name = false) (r : Request) :
    (s.answer r).2.isOpen name = false := by
  have old : r.opens name (s.answer r).1 = false := Bool.eq_false_iff.mpr fun opened => (opens_fresh opened).1 named
  rw [answer_isOpen, old, gone, Bool.false_and, Bool.false_and, Bool.or_false]

theorem isOpen_answer_of_unused (held : s.isOpen name = true) {r : Request} (unused : r.uses name = false) :
    (s.answer r).2.isOpen name = true := by
  rw [answer_isOpen, held, Request.closes_of_unused unused, Request.drains_of_unused unused]
  exact Bool.or_true _

end Store

/-- Others may ask for anything. A cursor that they ask for is not spared any more. -/
theorem CursorPhase.Holds.answer {x : CursorPhase} {s : Store} {spared still : String → Bool} (holds : x.Holds spared s)
    (r : Request) (named : ∀ name, x.name? = some name → s.HasNamed name)
    (fewer : ∀ name, x.name? = some name → still name = true → spared name = true ∧ r.uses name = false) :
    x.Holds still (s.answer r).2 := by
  cases x with
  | finding | whole => trivial
  | opened name =>
    intro spare
    obtain ⟨before, unused⟩ := fewer name rfl spare
    exact Store.isOpen_answer_of_unused (holds before) unused
  | lost name =>
    -- a name is given once, so that a cursor that is gone is not opened again
    refine ⟨Store.isOpen_answer_of_gone (named name rfl) holds.1 r, Bool.eq_false_iff.mpr fun spare => ?_⟩
    cases holds.2.symm.trans (fewer name rfl spare).1
  | shut name => exact Store.isOpen_answer_of_gone (named name rfl) holds r

/-! ### All clients -/

namespace RecordCursor

/-- Nobody but its client has asked for a cursor. -/
def spared (foreign : List Call) (name : String) : Bool := !foreign.any (Call.uses name)

/-- The cursors that the store keeps for the clients in their phases, after some calls of which a part came from
elsewhere. -/
structure Kept (phase : Nat → CursorPhase) (s : Store) (calls foreign : List Call) : Prop where
  cursors : s.CursorsNamed
  released : ∀ name, calls.any (Call.closes name) = true ∨ calls.any (Call.drains name) = true → s.HasNamed name
  named : ∀ i name, (phase i).name? = some name → s.HasNamed name
  distinct : ∀ i j name, (phase i).name? = some name → (phase j).name? = some name → i = j
  accounted : ∀ i name, (phase i).name? = some name →
    s.isOpen name = (!calls.any (Call.closes name) && !calls.any (Call.drains name))
  holds : ∀ i, (phase i).Holds (spared foreign) s

namespace Kept

variable {phase : Nat → CursorPhase} {s : Store} {calls foreign : List Call}

theorem start (cursors : s.CursorsNamed) : Kept (fun _ => .finding) s [] [] where
  cursors := cursors
  released _ released := by rcases released with closed | drained <;> cases ‹_›
  named _ _ := nofun
  distinct _ _ _ := nofun
  accounted _ _ := nofun
  holds _ := trivial

theorem released_concat (kept : Kept phase s calls foreign) (r : Request) (name : String)
    (released : (calls ++ [Call.of s r]).any (Call.closes name) = true ∨
      (calls ++ [Call.of s r]).any (Call.drains name) = true) : (s.answer r).2.HasNamed name := by
  have counted := s.answer_cursorCounter r
  simp only [List.any_append, List.any_cons, List.any_nil, Bool.or_false, Bool.or_eq_true, Call.of, Call.closes,
    Call.drains] at released
  have before : s.HasNamed name := by
    rcases released with (closed | closed) | drained | drained
    · exact kept.released name (.inl closed)
    · exact kept.cursors name (Store.isOpen_of_released (.inl closed))
    · exact kept.released name (.inr drained)
    · exact kept.cursors name (Store.isOpen_of_released (.inr drained))
  exact before.mono counted

/-- A cursor stays open until it is closed or drained. -/
theorem accounted_concat (kept : Kept phase s calls foreign) (r : Request) {i : Nat} {name : String}
    (own : (phase i).name? = some name) :
    (s.answer r).2.isOpen name = (!(calls ++ [Call.of s r]).any (Call.closes name) &&
      !(calls ++ [Call.of s r]).any (Call.drains name)) := by
  have old : r.opens name (s.answer r).1 = false :=
    Bool.eq_false_iff.mpr fun opened => (Store.opens_fresh opened).1 (kept.named i name own)
  simp only [List.any_append, List.any_cons, List.any_nil, Bool.or_false, Call.of, Call.closes, Call.drains]
  rw [Store.answer_isOpen, old, kept.accounted i name own, Bool.false_or]
  generalize calls.any _ = closed, calls.any _ = drained, r.closes name _ = closes, r.drains name _ = drains
  cases closed <;> cases drained <;> cases closes <;> cases drains <;> rfl

theorem accounted_fresh (kept : Kept phase s calls foreign) {r : Request} {name : String}
    (opened : r.opens name (s.answer r).1 = true) :
    (s.answer r).2.isOpen name = (!(calls ++ [Call.of s r]).any (Call.closes name) &&
      !(calls ++ [Call.of s r]).any (Call.drains name)) := by
  have new : ¬s.HasNamed name := (Store.opens_fresh opened).1
  have unclosed : calls.any (Call.closes name) = false :=
    Bool.eq_false_iff.mpr fun closed => new (kept.released name (.inl closed))
  have undrained : calls.any (Call.drains name) = false :=
    Bool.eq_false_iff.mpr fun drained => new (kept.released name (.inr drained))
  have closes : r.closes name (s.answer r).1 = false :=
    Bool.eq_false_iff.mpr fun closed => new (kept.cursors name (Store.isOpen_of_released (.inl closed)))
  have drains : r.drains name (s.answer r).1 = false :=
    Bool.eq_false_iff.mpr fun drained => new (kept.cursors name (Store.isOpen_of_released (.inr drained)))
  simp only [List.any_append, List.any_cons, List.any_nil, Call.of, Call.closes, Call.drains] at unclosed undrained ⊢
  rw [Store.answer_isOpen, opened, unclosed, undrained, closes, drains]
  rfl

theorem other (kept : Kept phase s calls foreign) (r : Request) :
    Kept phase (s.answer r).2 (calls ++ [Call.of s r]) (foreign ++ [Call.of s r]) where
  cursors := kept.cursors.answer r
  released := kept.released_concat r
  named i name own := (kept.named i name own).mono (s.answer_cursorCounter r)
  distinct := kept.distinct
  accounted _ _ own := kept.accounted_concat r own
  holds i := by
    refine (kept.holds i).answer r (kept.named i) fun name own spare => ?_
    simpa [spared, Call.of, Call.uses] using spare

theorem own (kept : Kept phase s calls foreign) {i : Nat} {r : Request}
    (allowed : protocol.allows (phase i) (.store r)) :
    Kept (Function.update phase i (protocol.after (phase i) (.store r) (s.answer r).1)) (s.answer r).2
      (calls ++ [Call.of s r]) foreign := by
  have held := (store_step (kept.holds i) allowed).holds
  have after := name?_after allowed (s.answer r).1
  generalize protocol.after (phase i) (.store r) (s.answer r).1 = y at after held
  -- the cursor of a client is the one that it had, or has just been opened for the one that acts
  have owned : ∀ j name, (Function.update phase i y j).name? = some name →
      (phase j).name? = some name ∨ j = i ∧ r.opens name (s.answer r).1 = true := by
    intro j name own
    by_cases same : j = i
    · subst same
      rw [Function.update_self] at own
      rcases after with kept | ⟨-, opened, named, fresh⟩
      · exact .inl (kept.symm.trans own)
      · obtain rfl : opened = name := Option.some.inj (named.symm.trans own)
        exact .inr ⟨rfl, fresh⟩
    · rw [Function.update_of_ne same] at own
      exact .inl own
  have old : ∀ j name, (phase j).name? = some name → r.opens name (s.answer r).1 ≠ true :=
    fun j name own opened => (Store.opens_fresh opened).1 (kept.named j name own)
  refine ⟨kept.cursors.answer r, kept.released_concat r, fun j name own => ?_, fun j k name first second => ?_,
    fun j name own => ?_, fun j => ?_⟩
  · rcases owned j name own with before | ⟨-, opened⟩
    · exact (kept.named j name before).mono (s.answer_cursorCounter r)
    · exact (Store.opens_fresh opened).2
  · rcases owned j name first, owned k name second with ⟨before | ⟨rfl, opened⟩, later | ⟨rfl, opens⟩⟩
    · exact kept.distinct j k name before later
    · exact absurd opens (old j name before)
    · exact absurd opened (old k name later)
    · rfl
  · rcases owned j name own with before | ⟨-, opened⟩
    · exact kept.accounted_concat r before
    · exact kept.accounted_fresh opened
  · by_cases same : j = i
    · subst same
      rw [Function.update_self]
      exact held
    · rw [Function.update_of_ne same]
      refine (kept.holds j).answer r (kept.named j) fun name own spare => ⟨spare, ?_⟩
      exact uses_of_allowed allowed fun other => same (kept.distinct j i name own other)

variable {w : World}

/-- An action of a client is answered as it expects. -/
theorem act (kept : Kept phase s calls foreign) (plain : w.store = ⟨s, []⟩) {i : Nat} {action : Action}
    (allowed : protocol.allows (phase i) action) :
    protocol.expects (phase i) action (w.answer action).1 ∧ ∃ t, (w.answer action).2.store = ⟨t, []⟩ ∧
      Kept (Function.update phase i (protocol.after (phase i) action (w.answer action).1)) t
        (calls ++ action.calls (w.answer action).1) foreign := by
  obtain ⟨t, left, step, -⟩ := own_step plain (kept.holds i) allowed
  refine ⟨step.expected, ?_⟩
  cases action with
  | store r =>
    rw [World.answer_plain plain]
    exact ⟨_, rfl, kept.own allowed⟩
  | note | patience =>
    refine ⟨s, plain, ?_⟩
    show Kept (Function.update phase i (phase i)) s (calls ++ []) foreign
    rwa [Function.update_eq_self, List.append_nil]
  | _ => cases phase i <;> exact allowed.elim

theorem aside (kept : Kept phase s calls foreign) (plain : w.store = ⟨s, []⟩) (action : Action) :
    ∃ t, (w.answer action).2.store = ⟨t, []⟩ ∧ Kept phase t (calls ++ action.calls (w.answer action).1)
      (foreign ++ action.calls (w.answer action).1) := by
  have same : Kept phase s (calls ++ []) (foreign ++ []) := by rwa [List.append_nil, List.append_nil]
  cases action with
  | store r =>
    rw [World.answer_plain plain]
    exact ⟨_, rfl, kept.other r⟩
  | claim lock =>
    refine ⟨s, ?_, same⟩
    dsimp only [World.answer]
    split <;> exact plain
  | _ => exact ⟨s, plain, same⟩

end Kept
end RecordCursor
end RecordStore
