import RecordStore.Proofs.Store.Cursors
import RecordStore.Proofs.Table

/-!
# Which cursors are open

A cursor of the store is opened by a query whose results do not fit into the first batch. It stays open until it is
closed or its last batch is fetched, whatever else the store is asked (`answer_isOpen`). Its name is numbered: a name
that has been given once is never opened again.
-/

namespace RecordStore

namespace Request

def opens (id : String) : (r : Request) → r.Answer → Bool
  | execute _, answer => answer.toOption.any (·.id == some id)
  | _, _ => false

def closes (id : String) : (r : Request) → r.Answer → Bool
  | closeCursor name, answer => name == id && answer.isOk
  | _, _ => false

def drains (id : String) : (r : Request) → r.Answer → Bool
  | nextBatch name, answer => name == id && answer.toOption.any (!·.hasMore)
  | _, _ => false

variable {id : String} {r : Request}

theorem opens_of_unrelated (unrelated : r.usesCursors = false) (answer : r.Answer) : r.opens id answer = false := by
  cases r <;> first | rfl | cases unrelated

theorem closes_of_unused (unused : r.uses id = false) (answer : r.Answer) : r.closes id answer = false := by
  cases r with
  | closeCursor name => exact Bool.and_eq_false_imp.mpr fun same => by cases same.symm.trans unused
  | _ => rfl

theorem drains_of_unused (unused : r.uses id = false) (answer : r.Answer) : r.drains id answer = false := by
  cases r with
  | nextBatch name => exact Bool.and_eq_false_imp.mpr fun same => by cases same.symm.trans unused
  | _ => rfl

theorem uses_of_unrelated (unrelated : r.usesCursors = false) (id : String) : r.uses id = false := by
  cases r <;> first | rfl | cases unrelated

end Request

namespace Store

def isOpen (s : Store) (id : String) : Bool := s.cursors.has id

/-- A name that has been given to a cursor, or was passed over. -/
def HasNamed (s : Store) (id : String) : Prop := ∃ n ≤ s.cursorCounter, id = cursorName n

/-- All open cursors have got their names from the store. -/
def CursorsNamed (s : Store) : Prop := ∀ id, s.isOpen id = true → s.HasNamed id

/-- The cursors of the store besides one. -/
def besides (s : Store) : Option String → Table PendingCursor
  | some id => s.cursors.erase id
  | none => s.cursors

variable {s : Store} {id : String}

theorem besides_of_gone {id : Option String} (gone : ∀ name, id = some name → s.isOpen name = false) :
    s.besides id = s.cursors := by
  cases id with
  | none => rfl
  | some name => exact Table.erase_eq_self (gone name rfl)

theorem HasNamed.mono {t : Store} (named : s.HasNamed id) (counted : s.cursorCounter ≤ t.cursorCounter) :
    t.HasNamed id :=
  named.imp fun _ ⟨given, same⟩ => ⟨Nat.le_trans given counted, same⟩

theorem next_unnamed (s : Store) : ¬s.HasNamed (cursorName (s.cursorCounter + 1)) := by
  rintro ⟨n, given, same⟩
  have := cursorName_injective same
  omega

/-! ### The three requests -/

/-- What comes of a query: its results fit into the first batch, or the others are kept under the next name. -/
inductive Executed (s : Store) : Except StoreError Batch → Store → Prop where
  | refused (e : StoreError) : Executed s (.error e) s
  | whole (b : Batch) (unnamed : b.id = none) (last : b.hasMore = false) : Executed s (.ok b) s
  | kept (b : Batch) (pending : PendingCursor) (named : b.id = some (cursorName (s.cursorCounter + 1)))
      (more : b.hasMore = true) :
      Executed s (.ok b) { s with
        cursorCounter := s.cursorCounter + 1
        cursors := s.cursors.set (cursorName (s.cursorCounter + 1)) pending }

/-- What comes of a fetch. -/
inductive Fetched (s : Store) (name : String) : Except StoreError Batch → Store → Prop where
  | missing (gone : s.isOpen name = false) : Fetched s name (.error (Refusal.cursorMissing name).error) s
  | last (b : Batch) (held : s.isOpen name = true) (last : b.hasMore = false) :
      Fetched s name (.ok b) { s with cursors := s.cursors.erase name }
  | more (b : Batch) (pending : PendingCursor) (held : s.isOpen name = true) (more : b.hasMore = true) :
      Fetched s name (.ok b) { s with cursors := s.cursors.set name pending }

/-- What comes of closing a cursor. -/
inductive Released (s : Store) (name : String) : Except StoreError Unit → Store → Prop where
  | missing (gone : s.isOpen name = false) : Released s name (.error (Refusal.cursorMissing name).error) s
  | closed (held : s.isOpen name = true) : Released s name (.ok ()) { s with cursors := s.cursors.erase name }

theorem answer_execute (s : Store) (q : BoundQuery) :
    Executed s (s.answer (.execute q)).1 (s.answer (.execute q)).2 := by
  simp only [answer, reply, execute]
  split
  · exact .refused _
  · split
    · exact .whole _ rfl rfl
    · exact .kept _ _ rfl rfl

theorem answer_nextBatch (s : Store) (name : String) :
    Fetched s name (s.answer (.nextBatch name)).1 (s.answer (.nextBatch name)).2 := by
  simp only [answer, reply, nextBatch]
  split
  · rename_i absent
    exact .missing (Table.has_eq_false.mpr absent)
  · rename_i cursor present
    have held : s.isOpen name = true := by rw [isOpen, Table.has, present, Option.isSome_some]
    split
    · exact .last _ held rfl
    · exact .more _ _ held rfl

theorem answer_closeCursor (s : Store) (name : String) :
    Released s name (s.answer (.closeCursor name)).1 (s.answer (.closeCursor name)).2 := by
  simp only [answer, reply, closeCursor]
  split
  · rename_i held
    exact .closed held
  · rename_i gone
    exact .missing (Bool.eq_false_iff.mpr gone)

section Outcomes

variable {t : Store} {name : String} {fetched executed : Except StoreError Batch} {released : Except StoreError Unit}

theorem Executed.isOpen (done : Executed s executed t) (q : BoundQuery) :
    t.isOpen id = ((Request.execute q).opens id executed || s.isOpen id) := by
  cases done with
  | refused e => rfl
  | whole b unnamed last => simp [Request.opens, Except.toOption, unnamed]
  | kept b pending named more => simp [Request.opens, Except.toOption, named, Store.isOpen, Table.has_set]

theorem Fetched.isOk (done : Fetched s name fetched t) : fetched.isOk = s.isOpen name := by
  cases done with
  | missing gone => exact gone.symm
  | last b held last => exact held.symm
  | more b pending held more => exact held.symm

theorem Fetched.isOpen (done : Fetched s name fetched t) :
    t.isOpen id = (s.isOpen id && !(Request.nextBatch name).drains id fetched) := by
  cases done with
  | missing gone => simp [Request.drains, Except.toOption]
  | last b held last => simp [Request.drains, Except.toOption, last, Store.isOpen, Table.has_erase, bne, Bool.and_comm]
  | more b pending held more =>
    have others : (Request.nextBatch name).drains id (.ok b) = false := by
      simp [Request.drains, Except.toOption, more]
    rw [others, Bool.not_false, Bool.and_true]
    show (s.cursors.set name pending).has id = s.cursors.has id
    rw [Table.has_set]
    by_cases same : name = id
    · subst same
      rw [show s.cursors.has name = true from held, Bool.or_true]
    · rw [beq_false_of_ne same, Bool.false_or]

theorem Released.isOk (done : Released s name released t) : released.isOk = s.isOpen name := by
  cases done with
  | missing gone => exact gone.symm
  | closed held => exact held.symm

theorem Released.isOpen (done : Released s name released t) :
    t.isOpen id = (s.isOpen id && !(Request.closeCursor name).closes id released) := by
  cases done with
  | missing gone => simp [Request.closes, Except.isOk, Except.toBool]
  | closed held => simp [Request.closes, Except.isOk, Except.toBool, Store.isOpen, Table.has_erase, bne, Bool.and_comm]

theorem Executed.counted (done : Executed s executed t) : s.cursorCounter ≤ t.cursorCounter := by
  cases done with
  | refused | whole => exact Nat.le_refl _
  | kept => exact Nat.le_succ _

theorem Fetched.counted (done : Fetched s name fetched t) : s.cursorCounter ≤ t.cursorCounter := by
  cases done <;> exact Nat.le_refl _

theorem Released.counted (done : Released s name released t) : s.cursorCounter ≤ t.cursorCounter := by
  cases done <;> exact Nat.le_refl _

theorem Executed.fresh (done : Executed s executed t) {q : BoundQuery}
    (opened : (Request.execute q).opens id executed = true) : ¬s.HasNamed id ∧ t.HasNamed id := by
  cases done with
  | refused e => cases opened
  | whole b unnamed last => simp [Request.opens, Except.toOption, unnamed] at opened
  | kept b pending named more =>
    obtain rfl : cursorName (s.cursorCounter + 1) = id := by
      simpa [Request.opens, Except.toOption, named] using opened
    exact ⟨s.next_unnamed, _, Nat.le_refl _, rfl⟩

theorem Executed.hasMore {b : Batch} (done : Executed s (.ok b) t) : b.hasMore = b.id.isSome := by
  cases done with
  | whole _ unnamed last => rw [unnamed, last, Option.isSome_none]
  | kept _ pending named more => rw [named, more, Option.isSome_some]

/-- All cursors but a new one are as they were. -/
theorem Executed.besides {b : Batch} (done : Executed s (.ok b) t) (named : s.CursorsNamed) :
    t.besides b.id = s.cursors := by
  cases done with
  | whole _ unnamed last => rw [unnamed, Store.besides]
  | kept _ pending fresh more =>
    have absent : s.isOpen (cursorName (s.cursorCounter + 1)) = false :=
      Bool.eq_false_iff.mpr fun held => s.next_unnamed (named _ held)
    rw [fresh]
    exact (Table.erase_set_self _ _ _).trans (Table.erase_eq_self absent)

theorem Fetched.besides (done : Fetched s name fetched t) : t.besides (some name) = s.besides (some name) := by
  cases done with
  | missing => rfl
  | last => exact Table.erase_erase_self _ _
  | more => exact Table.erase_set_self _ _ _

theorem Released.besides (done : Released s name released t) : t.besides (some name) = s.besides (some name) := by
  cases done with
  | missing => rfl
  | closed => exact Table.erase_erase_self _ _

end Outcomes

/-- A query opens a cursor if its results do not fit into the first batch. -/
theorem execute_opens {q : BoundQuery} {results : Query.Evaluation} (evaluated : s.evaluate q = .ok results)
    (more : max (q.options.batchSize.getD s.batchSize) 1 < results.items.length) :
    ∃ b pending, b.id = some (cursorName (s.cursorCounter + 1)) ∧
      s.answer (.execute q) = (.ok b, { s with
        cursorCounter := s.cursorCounter + 1
        cursors := s.cursors.set (cursorName (s.cursorCounter + 1)) pending }) := by
  have rest : (results.items.drop (max (q.options.batchSize.getD s.batchSize) 1)).isEmpty = false := by
    rw [List.isEmpty_eq_false_iff, Ne, List.drop_eq_nil_iff]
    omega
  simp only [answer, reply, execute, evaluated, rest, Bool.false_eq_true, if_false]
  exact ⟨_, _, rfl, rfl⟩

theorem execute_of_answer {q : BoundQuery} {b : Batch} (answered : (s.answer (.execute q)).1 = .ok b) :
    s.execute q = (.ok b, (s.answer (.execute q)).2) :=
  eq_of_reply answered

/-- There is no cursor if all results are in the first batch. -/
theorem execute_whole {q : BoundQuery} {b : Batch} {t : Store} (executed : s.execute q = (.ok b, t)) :
    ∃ results, s.evaluate q = .ok results ∧ (results.items.length ≤ b.items.length ↔ b.id = none) := by
  obtain ⟨results, rest, evaluated, supplies, whole, -⟩ := supplies_of_execute executed
  have answered : (s.answer (.execute q)).1 = .ok b := by rw [answer, reply, executed]; rfl
  have more : b.hasMore = b.id.isSome := (answered ▸ s.answer_execute q).hasMore
  refine ⟨results, evaluated, ?_⟩
  rw [← whole, List.length_append]
  generalize b.id = id at supplies more ⊢
  generalize b.hasMore = more' at supplies more
  cases supplies with
  | nothing => simpa using more
  | left n cursor numbered held nonempty positive =>
    have some := List.length_pos_iff.mpr nonempty
    simp only [reduceCtorEq, iff_false]
    omega

/-! ### Any request -/

/-- A cursor is open after a request if it was opened by it, or was open and has been neither closed nor drained. -/
theorem answer_isOpen (s : Store) (r : Request) (id : String) :
    (s.answer r).2.isOpen id =
      (r.opens id (s.answer r).1 ||
        s.isOpen id && !r.closes id (s.answer r).1 && !r.drains id (s.answer r).1) := by
  cases related : r.usesCursors with
  | false =>
    have unused := r.uses_of_unrelated related id
    rw [Request.opens_of_unrelated related, Request.closes_of_unused unused, Request.drains_of_unused unused, isOpen,
      ((s.answer_behaved r).cursors related).cursors]
    simp [isOpen]
  | true =>
    cases r with
    | execute q => simpa [Request.closes, Request.drains] using (s.answer_execute q).isOpen q
    | nextBatch name => simpa [Request.opens, Request.closes] using (s.answer_nextBatch name).isOpen
    | closeCursor name => simpa [Request.opens, Request.drains] using (s.answer_closeCursor name).isOpen
    | _ => cases related

theorem answer_cursorCounter (s : Store) (r : Request) : s.cursorCounter ≤ (s.answer r).2.cursorCounter := by
  cases related : r.usesCursors with
  | false => exact Nat.le_of_eq ((s.answer_behaved r).cursors related).opened.symm
  | true =>
    cases r with
    | execute q => exact (s.answer_execute q).counted
    | nextBatch name => exact (s.answer_nextBatch name).counted
    | closeCursor name => exact (s.answer_closeCursor name).counted
    | _ => cases related

/-- A cursor is opened under a name that has not been given before. -/
theorem opens_fresh {r : Request} (opened : r.opens id (s.answer r).1 = true) :
    ¬s.HasNamed id ∧ (s.answer r).2.HasNamed id := by
  cases r with
  | execute q => exact (s.answer_execute q).fresh opened
  | _ => cases opened

theorem isOpen_of_released {r : Request}
    (released : r.closes id (s.answer r).1 = true ∨ r.drains id (s.answer r).1 = true) : s.isOpen id = true := by
  cases r with
  | nextBatch name =>
    obtain ⟨same, answered⟩ : name = id ∧ (s.answer (.nextBatch name)).1.toOption.any (!·.hasMore) = true := by
      simpa only [Request.closes, Request.drains, Bool.false_eq_true, false_or, Bool.and_eq_true, beq_iff_eq]
        using released
    have ok := (s.answer_nextBatch name).isOk
    rw [← same, ← ok]
    cases answer : (s.answer (.nextBatch name)).1 with
    | error e =>
      rw [answer] at answered
      cases answered
    | ok b => rfl
  | closeCursor name =>
    obtain ⟨same, ok⟩ : name = id ∧ (s.answer (.closeCursor name)).1.isOk = true := by
      simpa only [Request.closes, Request.drains, Bool.false_eq_true, or_false, Bool.and_eq_true, beq_iff_eq]
        using released
    exact same ▸ (s.answer_closeCursor name).isOk.symm.trans ok
  | _ => cases released with
    | inl closed => cases closed
    | inr drained => cases drained

theorem CursorsNamed.answer (named : s.CursorsNamed) (r : Request) : (s.answer r).2.CursorsNamed := by
  intro id held
  rw [answer_isOpen, Bool.or_eq_true, Bool.and_eq_true, Bool.and_eq_true] at held
  rcases held with opened | ⟨⟨held, -⟩, -⟩
  · exact (opens_fresh opened).2
  · exact (named id held).mono (s.answer_cursorCounter r)

end Store
end RecordStore
