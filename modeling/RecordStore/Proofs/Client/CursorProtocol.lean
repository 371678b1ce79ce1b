import RecordStore.Client.Handles
import RecordStore.Proofs.Client.Protocol

/-!
# The protocol of record cursors

How a record cursor uses the cursor that the store keeps for it. It asks for that one only, and as long as the store
has not told it that the cursor is closed, drained or missing, it remembers that it has to close it.
-/

namespace RecordStore

/-- How far a client has come with a record cursor. -/
inductive CursorPhase where
  /-- No search has been answered. -/
  | finding
  /-- The first batch has all results, and the store keeps no cursor. -/
  | whole
  /-- The store keeps a cursor, for all that the client knows. -/
  | opened (name : String)
  /-- The client was about to close the cursor, and the store has missed it. -/
  | lost (name : String)
  /-- The client has closed the cursor, or there is nothing more to fetch. -/
  | shut (name : String)
  deriving DecidableEq

namespace CursorPhase

def name? : CursorPhase → Option String
  | opened name | lost name | shut name => some name
  | _ => none

def isOpened : CursorPhase → Bool
  | opened _ => true
  | _ => false

def ofBatch (b : Batch) : CursorPhase :=
  match b.id with
  | some name => opened name
  | none => whole

def fetched : CursorPhase → Except StoreError Batch → CursorPhase
  | opened name, .ok b => if b.hasMore then opened name else shut name
  | opened name, .error _ => shut name
  | x, _ => x

def closed : CursorPhase → Except StoreError Unit → CursorPhase
  | opened name, .ok () => shut name
  | opened name, .error _ => lost name
  | x, _ => x

@[simp] theorem name?_ofBatch (b : Batch) : (ofBatch b).name? = b.id := by
  unfold ofBatch
  split <;> simp_all [name?]

theorem ofBatch_ne_finding (b : Batch) : ofBatch b ≠ finding := by
  unfold ofBatch
  split <;> intro same <;> cases same

@[simp] theorem name?_fetched (x : CursorPhase) (answer : Except StoreError Batch) :
    (x.fetched answer).name? = x.name? := by
  cases x with
  | opened name =>
    cases answer with
    | error e => rfl
    | ok b => cases more : b.hasMore <;> simp [fetched, name?, more]
  | _ => rfl

@[simp] theorem name?_closed (x : CursorPhase) (answer : Except StoreError Unit) :
    (x.closed answer).name? = x.name? := by
  cases x <;> cases answer <;> rfl

@[simp] theorem isOpened_closed (x : CursorPhase) (answer : Except StoreError Unit) :
    (x.closed answer).isOpened = false := by
  cases x <;> cases answer <;> rfl

end CursorPhase

namespace RecordCursor

variable {ρ : Type} {c : RecordCursor ρ} {x : CursorPhase}

/-- What a record cursor remembers. -/
def Fits (c : RecordCursor ρ) : CursorPhase → Prop
  | .finding => False
  | .whole => c.id = none
  | .opened name => c.id = some name ∧ c.released = false ∧ c.hasMore = true
  | .lost name => c.id = some name
  | .shut name => c.id = some name ∧ (c.released = true ∨ c.hasMore = false)

namespace Fits

theorem id (fits : c.Fits x) : c.id = x.name? := by
  cases x with
  | finding => exact fits.elim
  | whole | lost => exact fits
  | opened | shut => exact fits.1

theorem buffer (fits : c.Fits x) (items : List Value) : ({ c with buffer := items } : RecordCursor ρ).Fits x := by
  cases x <;> exact fits

theorem ofBatch {b : Batch} (named : b.hasMore = b.id.isSome) :
    (RecordCursor.ofBatch b : RecordCursor ρ).Fits (.ofBatch b) := by
  unfold CursorPhase.ofBatch
  split
  · rename_i name found
    exact ⟨found, rfl, by rw [RecordCursor.ofBatch, named, found, Option.isSome_some]⟩
  · assumption

theorem fetched (fits : c.Fits x) (live : x.isOpened = true) (b : Batch) :
    ({ c with buffer := c.buffer ++ b.items, hasMore := b.hasMore } : RecordCursor ρ).Fits (x.fetched (.ok b)) := by
  cases x with
  | opened name =>
    obtain ⟨named, unreleased, -⟩ := fits
    show RecordCursor.Fits _ (if b.hasMore then _ else _)
    split
    · rename_i more
      exact ⟨named, unreleased, more⟩
    · rename_i last
      exact ⟨named, .inr (Bool.eq_false_iff.mpr last)⟩
  | _ => cases live

theorem unfetched (fits : c.Fits x) (e : StoreError) :
    ({ c with hasMore := false } : RecordCursor ρ).Fits (x.fetched (.error e)) := by
  cases x with
  | finding => exact fits.elim
  | whole | lost => exact fits
  | opened | shut => exact ⟨fits.1, .inr rfl⟩

theorem closed (fits : c.Fits x) (answer : Except StoreError Unit) :
    ({ c with released := true } : RecordCursor ρ).Fits (x.closed answer) := by
  cases x with
  | finding => exact fits.elim
  | whole | lost => exact fits
  | opened => cases answer with
    | ok => exact ⟨fits.1, .inl rfl⟩
    | error e => exact fits.1
  | shut => exact ⟨fits.1, .inl rfl⟩

theorem unclosed (fits : c.Fits x) (e : StoreError) : c.Fits (x.closed (.error e)) := by
  cases x with
  | opened => exact fits.1
  | _ => exact fits

end Fits

def protocol : Protocol CursorPhase where
  allows
    | _, .patience => True
    | .finding, .note _ => True
    | .finding, .store (.execute _) => True
    | x, .store (.nextBatch name) => x.name? = some name
    | x, .store (.closeCursor name) => x.name? = some name
    | _, _ => False
  waits _ := True
  expects
    | _, .store (.execute _), answer => ∀ b, answer = .ok b → b.hasMore = b.id.isSome
    | x, .store (.nextBatch _), answer => answer.isOk = true → x.isOpened = true
    | _, _, _ => True
  after
    | _, .store (.execute _), .ok b => .ofBatch b
    | x, .store (.nextBatch _), answer => x.fetched answer
    | x, .store (.closeCursor _), answer => x.closed answer
    | x, _, _ => x

/-- The actions that the protocol allows: waiting, a search at first, and requests for the own cursor. -/
theorem allows_cases {action : Action} (allowed : protocol.allows x action) :
    action = .patience ∨ (x = .finding ∧ ((∃ subjects, action = .note subjects) ∨ ∃ q, action = .store (.execute q))) ∨
      ∃ name, x.name? = some name ∧ (action = .store (.nextBatch name) ∨ action = .store (.closeCursor name)) := by
  cases action with
  | patience => exact .inl rfl
  | note subjects =>
    cases x with
    | finding => exact .inr (.inl ⟨rfl, .inl ⟨subjects, rfl⟩⟩)
    | _ => exact allowed.elim
  | store r =>
    cases r with
    | execute q =>
      cases x with
      | finding => exact .inr (.inl ⟨rfl, .inr ⟨q, rfl⟩⟩)
      | _ => exact allowed.elim
    | nextBatch name => exact .inr (.inr ⟨name, by cases x <;> exact allowed, .inl rfl⟩)
    | closeCursor name => exact .inr (.inr ⟨name, by cases x <;> exact allowed, .inr rfl⟩)
    | _ => cases x <;> exact allowed.elim
  | _ => cases x <;> exact allowed.elim

/-! ### Requests -/

theorem fetch_follows (fits : c.Fits x) : c.fetch.Follows protocol (fun y outcome => outcome.2.Fits y) x := by
  unfold fetch
  split
  · rename_i whole
    cases x with
    | finding => exact fits.elim
    | whole | lost => exact fits
    | opened | shut => cases whole.symm.trans fits.1
  · rename_i name named
    refine ⟨fits.id.symm.trans named, fun answer expected => ?_⟩
    cases answer with
    | ok b => exact fits.fetched (expected rfl) b
    | error e => exact fits.unfetched e

/-- A cursor is not open after it has been closed, whatever closing it is answered. -/
theorem close_follows (fits : c.Fits x) (ignoreMissing : Bool) :
    (c.close ignoreMissing).Follows protocol (fun y outcome => outcome.2.Fits y ∧ y.isOpened = false) x := by
  unfold close
  split
  · rename_i whole
    cases x with
    | finding => exact fits.elim
    | whole => exact ⟨fits, rfl⟩
    | lost => cases whole.symm.trans fits
    | opened | shut => cases whole.symm.trans fits.1
  · rename_i name named
    refine ⟨fits.id.symm.trans named, fun answer _ => ?_⟩
    have unopened := x.isOpened_closed answer
    -- a missing cursor is ignored or reported: the phase is the same, and only the flag of the client differs
    cases answer with
    | ok => exact ⟨fits.closed _, unopened⟩
    | error e =>
      dsimp only [Program.bind]
      split
      · split
        · exact ⟨fits.closed _, unopened⟩
        · exact ⟨fits.unclosed e, unopened⟩
      · exact ⟨fits.unclosed e, unopened⟩

theorem drop_follows (fits : c.Fits x) : c.drop.Follows protocol (fun y _ => y.isOpened = false) x := by
  unfold drop
  split
  · rename_i done
    cases x with
    | opened name =>
      obtain ⟨named, unreleased, more⟩ := fits
      rw [named, unreleased] at done
      cases done
    | finding | whole | lost | shut => rfl
  · exact .bind (close_follows fits true) fun y _ closed => closed.2

variable [Record ρ]

/-! ### Results -/

theorem nextWithin_follows (tries : Nat) (fits : c.Fits x) :
    (c.nextWithin tries).Follows protocol (fun y outcome => outcome.2.Fits y) x := by
  induction tries generalizing c x with
  | zero =>
    unfold nextWithin
    split
    · exact fits.buffer _
    · split
      · trivial
      · exact fits
  | succ tries ih =>
    unfold nextWithin
    split
    · exact fits.buffer _
    · split
      · refine .bind (fetch_follows fits) ?_
        rintro y ⟨e | ⟨⟩, d⟩ fits
        · exact fits
        · exact ih fits
      · exact fits

theorem next_follows (fits : c.Fits x) : c.next.Follows protocol (fun y outcome => outcome.2.Fits y) x :=
  ⟨trivial, fun tries _ => nextWithin_follows tries fits⟩

theorem skip_follows (n : Nat) (fits : c.Fits x) : (c.skip n).Follows protocol (fun y d => d.Fits y) x := by
  induction n generalizing c x with
  | zero => exact fits
  | succ n ih =>
    refine .bind (next_follows fits) ?_
    rintro y ⟨_ | answer, d⟩ fits
    · exact fits
    · exact ih fits

theorem collectWithin_follows (tries : Nat) (fits : c.Fits x) :
    (c.collectWithin tries).Follows protocol (fun y outcome => outcome.2.Fits y) x := by
  induction tries generalizing c x with
  | zero =>
    unfold collectWithin
    split
    · exact fits.buffer _
    · dsimp only
      split
      · trivial
      · exact fits.buffer _
  | succ tries ih =>
    unfold collectWithin
    split
    · exact fits.buffer _
    · dsimp only
      split
      · refine .bind (fetch_follows (fits.buffer _)) ?_
        rintro y ⟨e | ⟨⟩, d⟩ fits
        · exact fits
        · exact .bind (ih fits) fun _ _ fits => fits
      · exact fits.buffer _

theorem collect_follows (fits : c.Fits x) : c.collect.Follows protocol (fun y outcome => outcome.2.Fits y) x :=
  ⟨trivial, fun tries _ => collectWithin_follows tries fits⟩

theorem toList_follows (fits : c.Fits x) : c.toList.Follows protocol (fun y outcome => outcome.2.Fits y) x := by
  refine .bind (collect_follows fits) ?_
  rintro y ⟨e | records, d⟩ fits
  · exact fits
  · refine .bind (close_follows fits true) ?_
    rintro z ⟨e | outcome, d⟩ ⟨fits, -⟩ <;> exact fits

theorem toListAndDrop_follows (fits : c.Fits x) :
    c.toListAndDrop.Follows protocol (fun y _ => y.isOpened = false) x :=
  .bind (toList_follows fits) fun _ _ fits => .bind (drop_follows fits) fun _ _ unopened => unopened

/-! ### Clients -/

/-- Where a client rests: with its cursor, or without one. -/
def Rests (x : CursorPhase) : Option (RecordCursor ρ) → Prop
  | some c => c.Fits x
  | none => x.isOpened = false

theorem use_follows (fits : c.Fits x) (use : CursorUse) : (use.program c).Follows protocol Rests x := by
  cases use with
  | next => exact .bind (next_follows fits) fun _ _ fits => fits
  | toList => exact .bind (toList_follows fits) fun _ _ fits => fits
  | close ignoreMissing => exact .bind (close_follows fits ignoreMissing) fun _ _ closed => closed.1
  | drop => exact .bind (drop_follows fits) fun _ _ unopened => unopened

theorem note_follows (types : List RecordType) :
    (Database.note types).Follows protocol (fun y _ => y = .finding) .finding := by
  unfold Database.note
  split
  · rfl
  · exact ⟨trivial, fun _ _ => rfl⟩

end RecordCursor

namespace RecordCollection

variable {ρ : Type}

theorem find_follows [Record ρ] (c : RecordCollection ρ) (options : Find.Options) :
    (c.find options).Follows RecordCursor.protocol (Program.Settles (fun y d => d.Fits y) fun y _ => y = .finding)
      .finding := by
  refine .bind (RecordCursor.note_follows _) ?_
  rintro _ ⟨⟩ rfl
  split
  · exact (rfl : CursorPhase.finding = .finding)
  · refine ⟨trivial, fun answer expected => ?_⟩
    cases answer with
    | error e => exact (rfl : CursorPhase.finding = .finding)
    | ok b => exact .ofBatch (expected b rfl)

end RecordCollection
end RecordStore
