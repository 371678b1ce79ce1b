import RecordStore.Proofs.Store.Atomicity

/-!
# What cursors hold

The results that are left of a query are those of the statement when it ran (`execute_supplies`). Every fetch hands
out at least one of them in their order (`nextBatch_supplies`), and no request but those for this very cursor changes
them (`Supplies.answer`). A cursor that is opened later has another name, since the names are numbered.
-/

namespace RecordStore

/-- Whether a request fetches from a cursor or closes it. -/
def Request.uses (id : String) : Request → Bool
  | nextBatch cursor | closeCursor cursor => cursor == id
  | _ => false

namespace Store

theorem cursorName_injective {m n : Nat} (same : cursorName m = cursorName n) : m = n := by
  have chars := congrArg String.toList same
  exact toString_injective (String.toList_inj.mp (by simpa [cursorName] using chars))

/-- The results that are left of a query: none if there is no more to fetch, and otherwise those that an open cursor
holds. -/
inductive Supplies (s : Store) : Option String → Bool → List Value → Prop where
  | nothing (id : Option String) : Supplies s id false []
  | left (n : Nat) (cursor : PendingCursor) (numbered : n ≤ s.cursorCounter)
      (held : s.cursors.get? (cursorName n) = some cursor) (nonempty : cursor.items ≠ [])
      (positive : 0 < cursor.batchSize) : Supplies s (some (cursorName n)) true cursor.items

variable {s t : Store} {id : Option String} {more : Bool} {rest : List Value}

/-- The first batch and what is held after it are the results of the statement. -/
theorem execute_supplies {q : BoundQuery} {results : Query.Evaluation} (evaluated : s.evaluate q = .ok results) :
    ∃ b t rest, s.execute q = (.ok b, t) ∧ t.Supplies b.id b.hasMore rest ∧ b.items ++ rest = results.items ∧
      b.count = if q.options.count then some results.items.length else none := by
  unfold execute
  rw [evaluated]
  dsimp only
  have positive : 0 < max (q.options.batchSize.getD s.batchSize) 1 := by omega
  generalize max (q.options.batchSize.getD s.batchSize) 1 = size at positive
  cases left : results.items.drop size with
  | nil =>
    refine ⟨_, _, [], rfl, .nothing _, ?_, rfl⟩
    have all := results.items.take_append_drop size
    rwa [left] at all
  | cons item more =>
    refine ⟨_, _, item :: more, rfl, ?_, ?_, rfl⟩
    · exact .left (s.cursorCounter + 1) ⟨item :: more, size⟩ (Nat.le_refl _) (Table.get?_set_self _ _ _)
        (List.cons_ne_nil _ _) positive
    · rw [← left]
      exact results.items.take_append_drop size

theorem supplies_of_execute {q : BoundQuery} {b : Batch} (executed : s.execute q = (.ok b, t)) :
    ∃ results rest, s.evaluate q = .ok results ∧ t.Supplies b.id b.hasMore rest ∧ b.items ++ rest = results.items ∧
      b.count = if q.options.count then some results.items.length else none := by
  obtain ⟨results, evaluated⟩ : ∃ results, s.evaluate q = .ok results := by
    unfold execute at executed
    split at executed
    · cases executed
    · exact ⟨_, ‹_›⟩
  obtain ⟨b', t', rest, executed', supplies, whole, counted⟩ := execute_supplies evaluated
  obtain ⟨⟨⟩, rfl⟩ : Except.ok b = (Except.ok b' : Except Refusal Batch) ∧ t = t' :=
    Prod.mk.inj (executed.symm.trans executed')
  exact ⟨results, rest, evaluated, supplies, whole, counted⟩

/-- A fetch hands out the next results, at least one. -/
theorem nextBatch_supplies {id : String} (supplies : s.Supplies (some id) true rest) :
    ∃ b t left, s.nextBatch id = (.ok b, t) ∧ b.items ≠ [] ∧ t.Supplies (some id) b.hasMore left ∧
      b.items ++ left = rest := by
  cases supplies with
  | left n cursor numbered held nonempty positive =>
    unfold nextBatch
    rw [held]
    dsimp only
    have handed : cursor.items.take cursor.batchSize ≠ [] := by
      simpa [List.take_eq_nil_iff, nonempty] using Nat.ne_of_gt positive
    have all := cursor.items.take_append_drop cursor.batchSize
    cases left : cursor.items.drop cursor.batchSize with
    | nil =>
      refine ⟨_, _, [], rfl, handed, .nothing _, ?_⟩
      rwa [left] at all
    | cons item more =>
      refine ⟨_, _, item :: more, rfl, handed, ?_, ?_⟩
      · exact .left n { cursor with items := item :: more } numbered (Table.get?_set_self _ _ _)
          (List.cons_ne_nil _ _) positive
      · rwa [left] at all

theorem Supplies.eq_nil (supplies : s.Supplies id false rest) : rest = [] := by
  cases supplies with
  | nothing => rfl

/-! ### Other requests -/

/-- What is left depends on the cursor alone, as long as the numbers of cursors only grow. -/
theorem Supplies.mono (supplies : s.Supplies id more rest) (opened : s.cursorCounter ≤ t.cursorCounter)
    (same : ∀ n ≤ s.cursorCounter, id = some (cursorName n) →
      t.cursors.get? (cursorName n) = s.cursors.get? (cursorName n)) : t.Supplies id more rest := by
  cases supplies with
  | nothing id => exact .nothing id
  | left n cursor numbered held nonempty positive =>
    exact .left n cursor (Nat.le_trans numbered opened) ((same n numbered rfl).trans held) nonempty positive

theorem Supplies.execute (supplies : s.Supplies id more rest) (q : BoundQuery) :
    (s.execute q).2.Supplies id more rest := by
  unfold Store.execute
  split
  · exact supplies
  · dsimp only
    split
    · exact supplies
    · refine supplies.mono (Nat.le_succ _) fun n numbered _ => Table.get?_set_of_ne _ _ fun same => ?_
      have new := cursorName_injective same
      omega

theorem Supplies.nextBatch (supplies : s.Supplies id more rest) {other : String} (different : id ≠ some other) :
    (s.nextBatch other).2.Supplies id more rest := by
  unfold Store.nextBatch
  split
  · exact supplies
  · dsimp only
    split
    · refine supplies.mono (Nat.le_refl _) fun n _ named => Table.get?_erase_of_ne _ fun same => ?_
      exact different (named.trans (congrArg some same.symm))
    · refine supplies.mono (Nat.le_refl _) fun n _ named => Table.get?_set_of_ne _ _ fun same => ?_
      exact different (named.trans (congrArg some same.symm))

theorem Supplies.closeCursor (supplies : s.Supplies id more rest) {other : String} (different : id ≠ some other) :
    (s.closeCursor other).2.Supplies id more rest := by
  unfold Store.closeCursor
  split
  · refine supplies.mono (Nat.le_refl _) fun n _ named => Table.get?_erase_of_ne _ fun same => ?_
    exact different (named.trans (congrArg some same.symm))
  · exact supplies

/-- The same results are left after any request but those for the cursor itself. -/
theorem Supplies.answer (supplies : s.Supplies id more rest) (r : Request)
    (spared : ∀ name, id = some name → r.uses name = false) : (s.answer r).2.Supplies id more rest := by
  cases uses : r.usesCursors with
  | false =>
    have same := (s.answer_behaved r).cursors uses
    exact supplies.mono (Nat.le_of_eq same.opened.symm) fun n _ _ => by rw [same.cursors]
  | true =>
    cases r with
    | execute q => exact supplies.execute q
    | nextBatch other =>
      refine supplies.nextBatch fun named => ?_
      simpa [Request.uses] using spared other named
    | closeCursor other =>
      refine supplies.closeCursor fun named => ?_
      simpa [Request.uses] using spared other named
    | _ => cases uses

theorem Supplies.afterAll (supplies : s.Supplies id more rest) (requests : List Request)
    (spared : ∀ name, id = some name → ∀ r ∈ requests, r.uses name = false) :
    (s.afterAll requests).Supplies id more rest := by
  induction requests generalizing s with
  | nil => exact supplies
  | cons r later ih =>
    refine ih (supplies.answer r fun name named => spared name named r List.mem_cons_self) fun name named q listed => ?_
    exact spared name named q (List.mem_cons_of_mem _ listed)

end Store
end RecordStore
