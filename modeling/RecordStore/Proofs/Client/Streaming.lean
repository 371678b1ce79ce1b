import RecordStore.Client.Collection
import RecordStore.Proofs.Client.Turn
import RecordStore.Proofs.Find.Answer
import RecordStore.Proofs.Store.Cursors

/-!
# Streaming

A record cursor hands out the results that its query had when it ran, each once and in order, whatever others ask of
the store in the meantime. The invariant is `Streams`: what the cursor has in its buffer, followed by what the store
holds for it, is what is left of the results. Every fetch moves results from the store to the buffer, at least one, so
that no operation of a cursor stalls.

A fetch that fails ends the cursor (`Concludes`). Whoever is asking then is told, but nobody who asks later: the results
that have not been fetched are missing without a word (`Silent`).
-/

namespace RecordStore

namespace Turn

/-- Others neither fetch from a cursor nor close it. -/
def Spares (id : Option String) (t : Turn) : Prop :=
  ∀ name, id = some name → ∀ r ∈ t.before, r.uses name = false

/-- A turn in which others spare a cursor, and in which nothing is lost if calls are reliable. -/
def Fits (id : Option String) (reliable : Prop) (t : Turn) : Prop :=
  t.Spares id ∧ (reliable → t.lost = none)

theorem fits_alone (id : Option String) (reliable : Prop) : Turn.Fits id reliable {} :=
  ⟨fun _ _ _ listed => absurd listed List.not_mem_nil, fun _ => rfl⟩

/-- Nobody else acts, and one action is lost if it is a request. -/
def lostAt (n : Nat) (e : StoreError) : Nat → Turn :=
  fun k => if k = n then { lost := some e } else {}

theorem fits_lostAt (id : Option String) (n : Nat) (e : StoreError) (k : Nat) : (lostAt n e k).Fits id False := by
  refine ⟨?_, False.elim⟩
  unfold lostAt
  split <;> exact fun _ _ _ listed => absurd listed List.not_mem_nil

end Turn

namespace Call

def Delivers : Call → Prop
  | ⟨.nextBatch _, answer⟩ => ∀ b, answer = .ok b → b.items ≠ []
  | _ => True

def FailedFetch : Call → Prop
  | ⟨.nextBatch _, answer⟩ => ∃ e, answer = .error e
  | _ => False

end Call

namespace RecordCursor

variable {ρ : Type} {c : RecordCursor ρ} {w : World} {rest : List Value} {reliable : Prop}

/-- What is left of the results: the buffer and what the store holds. -/
def Streams (c : RecordCursor ρ) (w : World) (rest : List Value) : Prop :=
  ∃ s held, w.store = ⟨s, []⟩ ∧ s.Supplies c.id c.hasMore held ∧ c.buffer ++ held = rest

/-- A cursor over the same results, further on. -/
structure Advanced (c d : RecordCursor ρ) : Prop where
  id : d.id = c.id
  count : d.count = c.count

theorem Advanced.trans {c d e : RecordCursor ρ} (first : Advanced c d) (second : Advanced d e) : Advanced c e :=
  ⟨second.id.trans first.id, second.count.trans first.count⟩

theorem Advanced.total {c d : RecordCursor ρ} (advanced : Advanced c d) : d.total = c.total := by
  unfold RecordCursor.total
  rw [advanced.count]

theorem Streams.plain (streams : c.Streams w rest) : ∃ s, w.store = ⟨s, []⟩ :=
  streams.imp fun _ ⟨_, plain, _⟩ => plain

theorem Streams.await (streams : c.Streams w rest) {t : Turn} (spares : t.Spares c.id) :
    c.Streams (w.await t) rest := by
  obtain ⟨s, held, plain, supplies, whole⟩ := streams
  exact ⟨_, held, World.await_store plain, supplies.afterAll _ spares, whole⟩

theorem le_foldl_items (cursors : Table PendingCursor) (n : Nat) :
    n ≤ cursors.foldl (fun count entry => count + entry.2.items.length) n := by
  induction cursors generalizing n with
  | nil => exact Nat.le_refl n
  | cons entry later ih => exact Nat.le_trans (Nat.le_add_right _ _) (ih _)

theorem items_le_foldl {entry : String × PendingCursor} {cursors : Table PendingCursor} (here : entry ∈ cursors)
    (n : Nat) : entry.2.items.length ≤ cursors.foldl (fun count entry => count + entry.2.items.length) n := by
  induction cursors generalizing n with
  | nil => cases here
  | cons first later ih =>
    rcases List.mem_cons.mp here with rfl | here
    · exact Nat.le_trans (Nat.le_add_left _ _) (le_foldl_items later _)
    · exact ih here _

theorem length_lt_patience {s : Store} {id : Option String} {more : Bool} {held : List Value}
    (supplies : s.Supplies id more held) : held.length < (⟨s, []⟩ : FaultyStore).patience := by
  cases supplies with
  | nothing => exact Nat.succ_pos _
  | left n cursor numbered opened =>
    have listed : cursor.items.length ≤ _ := items_le_foldl (Table.mem_of_get? opened) 0
    simp only [FaultyStore.patience, List.foldl_nil, List.length_nil]
    omega

/-- A program that asks how often it may try is told a number that exceeds what the store holds for a cursor. -/
theorem patience_exceeds (streams : c.Streams w rest) {t : Turn} (spares : t.Spares c.id) :
    rest.length < c.buffer.length + (w.answerIn t .patience).1 := by
  obtain ⟨s, held, plain, supplies, rfl⟩ := streams.await spares
  have enough : held.length < (w.await t).store.patience := by
    rw [plain]
    exact length_lt_patience supplies
  show _ < c.buffer.length + ((w.await t).store.patience + t.extra)
  rw [List.length_append]
  omega

theorem Streams.head {item : Value} {more : List Value} (streams : c.Streams w rest) (ready : c.buffer = item :: more) :
    ∃ later, rest = item :: later ∧ ({ c with buffer := more } : RecordCursor ρ).Streams w later := by
  obtain ⟨s, held, plain, supplies, rfl⟩ := streams
  exact ⟨more ++ held, by rw [ready]; rfl, s, held, plain, supplies, rfl⟩

theorem Streams.eq_buffer (streams : c.Streams w rest) (last : c.hasMore = false) : rest = c.buffer := by
  obtain ⟨s, held, plain, supplies, rfl⟩ := streams
  rw [last] at supplies
  rw [supplies.eq_nil, List.append_nil]

theorem Streams.ne_nil (streams : c.Streams w rest) (more : c.hasMore = true) : rest ≠ [] := by
  obtain ⟨s, held, plain, supplies, rfl⟩ := streams
  rw [more] at supplies
  generalize c.id = id at supplies
  cases supplies with
  | left n cursor numbered held nonempty => exact List.append_ne_nil_of_right_ne_nil _ nonempty

/-! ### Nothing more to hand out -/

/-- There is nothing more to hand out. -/
structure Exhausted (c : RecordCursor ρ) : Prop where
  spent : c.buffer = []
  last : c.hasMore = false

theorem Exhausted.nextWithin [Record ρ] (exhausted : c.Exhausted) (tries : Nat) :
    c.nextWithin tries = .done (none, c) := by
  cases tries <;> simp [RecordCursor.nextWithin, exhausted.spent, exhausted.last]

theorem Exhausted.collectWithin [Record ρ] (exhausted : c.Exhausted) (tries : Nat) :
    c.collectWithin tries = .done (.ok [], c) := by
  obtain ⟨id, buffer, more, count, fullCount, released⟩ := c
  obtain ⟨rfl, rfl⟩ := exhausted
  cases tries <;> rfl

/-- How an operation of a cursor ends. If no fetch of it fails it ends well. A fetch fails only if calls are not
reliable, and that exhausts the cursor. -/
structure Concludes (reliable : Prop) (c d : RecordCursor ρ) (calls : List Call) (fine bad : Prop) : Prop where
  advanced : Advanced c d
  delivers : ∀ call ∈ calls, call.Delivers
  cases : (∀ call ∈ calls, ¬call.FailedFetch) ∧ fine ∨
    (¬reliable ∧ ∃ call ∈ calls, call.FailedFetch) ∧ d.Exhausted ∧ bad

namespace Concludes

variable {d e : RecordCursor ρ} {calls later : List Call} {fine bad : Prop}

theorem quiet (advanced : Advanced c d) (here : fine) : Concludes reliable c d [] fine bad :=
  ⟨advanced, List.forall_mem_nil _, .inl ⟨List.forall_mem_nil _, here⟩⟩

theorem mono {better worse : Prop} (concludes : Concludes reliable c d calls fine bad) (weaken : fine → better)
    (worsen : bad → worse) : Concludes reliable c d calls better worse := by
  obtain ⟨advanced, delivers, ⟨reads, here⟩ | ⟨lost, exhausted, here⟩⟩ := concludes
  · exact ⟨advanced, delivers, .inl ⟨reads, weaken here⟩⟩
  · exact ⟨advanced, delivers, .inr ⟨lost, exhausted, worsen here⟩⟩

theorem reads (concludes : Concludes reliable c d calls fine bad) (certain : reliable) :
    ∀ call ∈ calls, ¬call.FailedFetch := by
  obtain ⟨reads, -⟩ | ⟨⟨unreliable, -⟩, -⟩ := concludes.cases
  · exact reads
  · exact absurd certain unreliable

theorem of_reads (concludes : Concludes reliable c d calls fine bad) (reads : ∀ call ∈ calls, ¬call.FailedFetch) :
    fine := by
  obtain ⟨-, here⟩ | ⟨⟨-, call, made, lost⟩, -⟩ := concludes.cases
  · exact here
  · exact absurd lost (reads call made)

theorem of_lost (concludes : Concludes reliable c d calls fine bad) (lost : ∃ call ∈ calls, call.FailedFetch) :
    d.Exhausted ∧ bad := by
  obtain ⟨reads, -⟩ | ⟨-, here⟩ := concludes.cases
  · obtain ⟨call, made, failed⟩ := lost
    exact absurd failed (reads call made)
  · exact here

/-- An operation comes after calls of which no fetch has failed. -/
theorem after (advanced : Advanced c d) (delivers : ∀ call ∈ calls, call.Delivers)
    (reads : ∀ call ∈ calls, ¬call.FailedFetch) (concludes : Concludes reliable d e later fine bad) :
    Concludes reliable c e (calls ++ later) fine bad := by
  refine ⟨advanced.trans concludes.advanced, List.forall_mem_append.mpr ⟨delivers, concludes.delivers⟩, ?_⟩
  obtain ⟨also, here⟩ | ⟨⟨unreliable, call, made, lost⟩, here⟩ := concludes.cases
  · exact .inl ⟨List.forall_mem_append.mpr ⟨reads, also⟩, here⟩
  · exact .inr ⟨⟨unreliable, call, List.mem_append_right _ made, lost⟩, here⟩

end Concludes

/-! ### Fetching -/

/-- A cursor that has handed out its buffer fetches, and has something in it again unless that fails. -/
theorem fetch_ends (streams : c.Streams w rest) (spent : c.buffer = []) (more : c.hasMore = true) :
    c.fetch.EndsAmong (Turn.Fits c.id reliable) w fun (answer, d) calls w' =>
      Concludes reliable c d calls (answer = .ok () ∧ d.Streams w' rest ∧ d.buffer ≠ []) (∃ e, answer = .error e) := by
  obtain ⟨s, held, plain, supplies, rfl⟩ := streams
  rw [more] at supplies
  unfold fetch
  cases named : c.id with
  | none =>
    rw [named] at supplies
    cases supplies
  | some id =>
    rw [named] at supplies
    refine .act fun t fits => ?_
    have kept := supplies.afterAll t.before fits.1
    obtain ⟨b, u, left, fetched, nonempty, supplied, whole⟩ := Store.nextBatch_supplies kept
    rcases World.answerIn_store plain (.nextBatch id) with ⟨e, answer, lost, replaced, answered⟩ | ⟨-, answered⟩
    · obtain rfl : .error e = answer := Option.some.inj replaced
      have unreliable : ¬reliable := fun certain => by cases lost.symm.trans (fits.2 certain)
      rw [answered]
      refine .done ⟨⟨named.symm ▸ rfl, rfl⟩, ?_, .inr ⟨⟨unreliable, ?_⟩, ⟨spent, rfl⟩, _, rfl⟩⟩
      · simp [Action.calls, Call.Delivers]
      · exact ⟨_, List.mem_append_left _ (List.mem_singleton.mpr rfl), e, rfl⟩
    · have reply : (s.afterAll t.before).answer (.nextBatch id) = (.ok b, u) := by
        simp [Store.answer, Store.reply, fetched, Except.mapError]
      rw [answered, reply]
      refine .done ⟨⟨named.symm ▸ rfl, rfl⟩, ?_, .inl ⟨?_, rfl, ?_, ?_⟩⟩
      · simpa [Action.calls, Call.Delivers] using nonempty
      · simp [Action.calls, Call.FailedFetch]
      · refine ⟨u, left, rfl, named.symm ▸ supplied, ?_⟩
        rw [List.append_assoc, whole]
      · exact List.append_ne_nil_of_right_ne_nil _ nonempty

/-- Closing a cursor fails only if calls are not reliable: one that is gone counts as closed. -/
theorem close_ends (plain : ∃ s, w.store = ⟨s, []⟩) :
    (c.close true).EndsAmong (Turn.Fits c.id reliable) w fun (answer, d) calls _ =>
      Advanced c d ∧ (∀ call ∈ calls, call.Delivers ∧ ¬call.FailedFetch) ∧
        (reliable → ∃ outcome, answer = .ok outcome) := by
  unfold close
  cases named : c.id with
  | none => exact .done ⟨⟨named.symm, rfl⟩, by simp, fun _ => ⟨_, rfl⟩⟩
  | some id =>
    obtain ⟨s, plain⟩ := plain
    refine .act fun t fits => ?_
    have aside : ∀ call ∈ Action.calls (.store (.closeCursor id)) (w.answerIn t (.store (.closeCursor id))).1,
        call.Delivers ∧ ¬call.FailedFetch := by
      simp [Action.calls, Call.Delivers, Call.FailedFetch]
    rcases World.answerIn_store plain (.closeCursor id) with ⟨e, answer, lost, replaced, answered⟩ | ⟨-, answered⟩
    · obtain rfl : .error e = answer := Option.some.inj replaced
      have unreliable : ¬reliable := fun certain => by cases lost.symm.trans (fits.2 certain)
      rw [answered] at aside ⊢
      dsimp only [Program.bind]
      split
      · exact .done ⟨⟨named.symm, rfl⟩, by simpa using aside, fun certain => absurd certain unreliable⟩
      · exact .done ⟨⟨rfl, rfl⟩, by simpa using aside, fun certain => absurd certain unreliable⟩
    · have reply : ((s.afterAll t.before).answer (.closeCursor id)).1 = .ok () ∨
          ((s.afterAll t.before).answer (.closeCursor id)).1 = .error (Refusal.cursorMissing id).error := by
        simp only [Store.answer, Store.reply, Store.closeCursor]
        split
        · exact .inl rfl
        · exact .inr rfl
      rw [answered] at aside ⊢
      dsimp only [Program.bind]
      rcases reply with closed | gone
      · rw [closed] at aside ⊢
        exact .done ⟨⟨named.symm, rfl⟩, by simpa using aside, fun _ => ⟨_, rfl⟩⟩
      · rw [gone] at aside ⊢
        exact .done ⟨⟨named.symm, rfl⟩, by simpa using aside, fun _ => ⟨_, rfl⟩⟩

theorem drop_ends (plain : ∃ s, w.store = ⟨s, []⟩) :
    c.drop.EndsAmong (Turn.Fits c.id reliable) w fun _ _ _ => True := by
  unfold drop
  split
  · exact .done trivial
  · exact .bind (close_ends plain) fun _ _ _ _ => .done trivial

variable [Record ρ]

/-! ### One result after another -/

theorem nextWithin_ready {item : Value} {more : List Value} (ready : c.buffer = item :: more) (tries : Nat) :
    c.nextWithin tries = .done (some (Record.ofValue item), { c with buffer := more }) := by
  cases tries <;> simp [nextWithin, ready]

/-- What a cursor does when it is asked for the next result: it hands it out, or an error in its place. -/
def Yields (reliable : Prop) (c : RecordCursor ρ) (rest : List Value)
    (outcome : Option (Except ClientError ρ) × RecordCursor ρ) (calls : List Call) (w' : World) : Prop :=
  Concludes reliable c outcome.2 calls (outcome.1 = rest.head?.map Record.ofValue ∧ outcome.2.Streams w' rest.tail)
    (rest ≠ [] ∧ ∃ e, outcome.1 = some (.error e))

theorem yields_head {item : Value} {more : List Value} {w' : World} (streams : c.Streams w' rest)
    (ready : c.buffer = item :: more) :
    c.Yields reliable rest (some (Record.ofValue item), { c with buffer := more }) [] w' := by
  obtain ⟨later, rfl, left⟩ := streams.head ready
  exact .quiet ⟨rfl, rfl⟩ ⟨rfl, left⟩

theorem nextWithin_ends {tries : Nat} (streams : c.Streams w rest) (some : 0 < tries) :
    (c.nextWithin tries).EndsAmong (Turn.Fits c.id reliable) w (c.Yields reliable rest) := by
  cases ready : c.buffer with
  | cons item more =>
    rw [nextWithin_ready ready]
    exact .done (yields_head streams ready)
  | nil =>
    obtain ⟨tries, rfl⟩ : ∃ n, tries = n + 1 := Nat.exists_eq_succ_of_ne_zero (Nat.ne_of_gt some)
    unfold nextWithin
    rw [ready]
    dsimp only
    cases more : c.hasMore with
    | false =>
      obtain rfl : rest = [] := (streams.eq_buffer more).trans ready
      exact .done (.quiet ⟨rfl, rfl⟩ ⟨rfl, streams⟩)
    | true =>
      refine .bind (fetch_ends streams ready more) ?_
      rintro ⟨answer, d⟩ calls w' ⟨advanced, delivers, ⟨fine, rfl, left, nonempty⟩ | ⟨lost, exhausted, e, rfl⟩⟩
      · obtain ⟨item, others, grown⟩ := List.exists_cons_of_ne_nil nonempty
        dsimp only
        rw [nextWithin_ready grown]
        exact .done (.after advanced delivers fine (yields_head left grown))
      · refine .done ⟨advanced, ?_, .inr ⟨?_, exhausted, streams.ne_nil more, e, rfl⟩⟩
        · rwa [List.append_nil]
        · rwa [List.append_nil]

theorem next_ends (streams : c.Streams w rest) :
    c.next.EndsAmong (Turn.Fits c.id reliable) w (c.Yields reliable rest) := by
  refine .act fun t fits => ?_
  have spared : c.Streams (w.answerIn t .patience).2 rest := streams.await fits.1
  refine (nextWithin_ends spared ?_).mono fun outcome calls w' yields => yields
  show 0 < (w.await t).store.patience + t.extra
  unfold FaultyStore.patience
  omega

/-- Asks a cursor for so many results in turn. -/
def nexts : Nat → RecordCursor ρ → Program (List (Option (Except ClientError ρ)) × RecordCursor ρ)
  | 0, c => .done ([], c)
  | n + 1, c =>
    c.next.bind fun (answer, c) => (nexts n c).bind fun (answers, c) => .done (answer :: answers, c)

/-- What is handed out of results if the cursor is asked so many times: each once and in order, and then nothing. -/
def handed (rest : List Value) (n : Nat) : List (Option (Except ClientError ρ)) :=
  (List.range n).map fun k => rest[k]?.map Record.ofValue

/-- What is handed out if the result after the first ones cannot be fetched: an error in its place, and then nothing. -/
def cutShort (rest : List Value) (first : Nat) (e : ClientError) (n : Nat) : List (Option (Except ClientError ρ)) :=
  (List.range n).map fun k =>
    if k < first then rest[k]?.map Record.ofValue else if k = first then some (.error e) else none

theorem handed_succ (rest : List Value) (n : Nat) :
    handed (ρ := ρ) rest (n + 1) = rest.head?.map Record.ofValue :: handed rest.tail n := by
  unfold handed
  rw [List.range_succ_eq_map, List.map_cons, List.map_map]
  cases rest <;> simp [Function.comp_def]

theorem cutShort_zero (rest : List Value) (e : ClientError) (n : Nat) :
    cutShort (ρ := ρ) rest 0 e (n + 1) = some (.error e) :: List.replicate n none := by
  unfold cutShort
  rw [List.range_succ_eq_map, List.map_cons, List.map_map]
  simp [Function.comp_def, List.map_const']

theorem cutShort_succ (rest : List Value) (first : Nat) (e : ClientError) (n : Nat) :
    cutShort (ρ := ρ) rest (first + 1) e (n + 1) = rest.head?.map Record.ofValue :: cutShort rest.tail first e n := by
  unfold cutShort
  rw [List.range_succ_eq_map, List.map_cons, List.map_map]
  cases rest <;> simp [Function.comp_def]

theorem Exhausted.next_ends {fits : Turn → Prop} (exhausted : c.Exhausted) :
    c.next.EndsAmong fits w fun outcome calls _ => outcome = (none, c) ∧ calls = [] := by
  refine .act fun t _ => ?_
  show (c.nextWithin (w.answerIn t .patience).1).EndsAmong _ _ _
  rw [exhausted.nextWithin]
  exact .done ⟨rfl, rfl⟩

theorem Exhausted.nexts_ends {fits : Turn → Prop} (exhausted : c.Exhausted) (n : Nat) :
    (c.nexts n).EndsAmong fits w fun outcome calls _ => outcome = (List.replicate n none, c) ∧ calls = [] := by
  induction n generalizing w with
  | zero => exact .done ⟨rfl, rfl⟩
  | succ n ih =>
    refine .bind exhausted.next_ends ?_
    rintro _ _ w' ⟨rfl, rfl⟩
    refine .bind ih ?_
    rintro _ _ w'' ⟨rfl, rfl⟩
    exact .done ⟨rfl, rfl⟩

/-- Asked again and again, a cursor hands out what is left of the results one by one, and then says that there is
nothing more. It says so too after a fetch has failed. -/
theorem nexts_ends (n : Nat) (streams : c.Streams w rest) :
    (c.nexts n).EndsAmong (Turn.Fits c.id reliable) w fun (answers, d) calls w' =>
      Concludes reliable c d calls (answers = handed rest n ∧ d.Streams w' (rest.drop n))
        (∃ first e, first < n ∧ first < rest.length ∧ answers = cutShort rest first e n) := by
  induction n generalizing c w rest with
  | zero => exact .done (.quiet ⟨rfl, rfl⟩ ⟨rfl, streams⟩)
  | succ n ih =>
    refine .bind (next_ends streams) ?_
    rintro ⟨answer, d⟩ calls w' ⟨advanced, delivers, ⟨fine, rfl, left⟩ | ⟨lost, exhausted, nonempty, e, rfl⟩⟩
    · dsimp only at advanced left ⊢
      rw [← advanced.id]
      refine .bind (ih left) ?_
      rintro ⟨answers, d'⟩ later w'' concludes
      refine .done ?_
      rw [List.append_nil]
      refine (Concludes.after advanced delivers fine concludes).mono ?_ ?_
      · rintro ⟨rfl, rest'⟩
        exact ⟨(handed_succ rest n).symm, by rwa [List.drop_tail] at rest'⟩
      · rintro ⟨first, e, before, inside, rfl⟩
        refine ⟨first + 1, e, by omega, ?_, (cutShort_succ rest first e n).symm⟩
        rw [List.length_tail] at inside
        omega
    · refine .bind (exhausted.nexts_ends n) ?_
      rintro _ _ w'' ⟨rfl, rfl⟩
      refine .done ?_
      simp only [List.append_nil]
      refine ⟨advanced, delivers, .inr ⟨lost, exhausted, 0, e, Nat.succ_pos n, ?_, (cutShort_zero rest e n).symm⟩⟩
      exact List.length_pos_iff.mpr nonempty

/-- What is left out is read, one result after another, and no error in it counts. -/
theorem skip_reads (n : Nat) (streams : c.Streams w rest) :
    (c.skip n).EndsAmong (Turn.Fits c.id True) w fun d _ w' => d.id = c.id ∧ d.Streams w' (rest.drop n) := by
  induction n generalizing c w rest with
  | zero => exact .done ⟨rfl, streams⟩
  | succ n ih =>
    refine .bind (next_ends streams) ?_
    rintro ⟨answer, d⟩ calls w' yields
    obtain ⟨rfl, left⟩ := yields.of_reads (yields.reads trivial)
    have sameId : d.id = c.id := yields.advanced.id
    cases rest with
    | nil => exact .done ⟨sameId, by simpa using left⟩
    | cons item later =>
      rw [← sameId]
      exact ih left

/-! ### All results at once -/

theorem readAll_ok {items others : List Value} {records : List ρ} (read : readAll items = (.ok records, others)) :
    others = [] ∧ records.map .ok = items.map (Record.ofValue (ρ := ρ)) := by
  induction items generalizing records with
  | nil =>
    obtain ⟨rfl, rfl⟩ : [] = records ∧ [] = others := by simpa [readAll] using read
    exact ⟨rfl, rfl⟩
  | cons item later ih =>
    unfold readAll at read
    cases first : (Record.ofValue item : Except ClientError ρ) with
    | error e => simp [first] at read
    | ok r =>
      rw [first] at read
      cases further : (readAll later : Except ClientError (List ρ) × List Value) with
      | mk answer left =>
        rw [further] at read
        cases answer with
        | error e => simp at read
        | ok more =>
          obtain ⟨rfl, rfl⟩ : r :: more = records ∧ left = others := by simpa using read
          obtain ⟨none, all⟩ := ih further
          exact ⟨none, by rw [List.map_cons, List.map_cons, first, all]⟩

theorem readAll_of_ok {items : List Value} {records : List ρ}
    (decoded : records.map .ok = items.map (Record.ofValue (ρ := ρ))) : readAll items = (.ok records, []) := by
  induction items generalizing records with
  | nil =>
    obtain rfl : records = [] := by simpa using decoded
    rfl
  | cons item later ih =>
    cases records with
    | nil => simp at decoded
    | cons r more =>
      obtain ⟨first, all⟩ : .ok r = (Record.ofValue item : Except ClientError ρ) ∧
          more.map .ok = later.map (Record.ofValue (ρ := ρ)) := by simpa using decoded
      simp [readAll, ← first, ih all]

theorem readAll_eq_ok {items : List Value} {records : List ρ} :
    (readAll items).1 = .ok records ↔ records.map .ok = items.map (Record.ofValue (ρ := ρ)) := by
  refine ⟨fun read => ?_, fun decoded => by rw [readAll_of_ok decoded]⟩
  rcases both : (readAll items : Except ClientError (List ρ) × List Value) with ⟨answer, others⟩
  rw [both] at read
  obtain rfl : answer = .ok records := read
  exact (readAll_ok both).2

theorem readAll_cons (item : Value) (later : List Value) :
    (readAll (ρ := ρ) (item :: later)).1 = (Record.ofValue item).bind fun r => (readAll later).1.map (r :: ·) := by
  rw [readAll]
  cases (Record.ofValue item : Except ClientError ρ) with
  | error e => rfl
  | ok r => rcases readAll (ρ := ρ) later with ⟨e | records, others⟩ <;> rfl

/-- Values are read part by part as they are read at once. -/
theorem readAll_append (items later : List Value) :
    (readAll (ρ := ρ) (items ++ later)).1 =
      (readAll items).1.bind fun records => (readAll later).1.map (records ++ ·) := by
  induction items with
  | nil =>
    show (readAll later).1 = (readAll later).1.map ([] ++ ·)
    cases (readAll (ρ := ρ) later).1 <;> rfl
  | cons item items ih =>
    rw [List.cons_append, readAll_cons, readAll_cons, ih]
    cases (Record.ofValue item : Except ClientError ρ) with
    | error e => rfl
    | ok r =>
      cases (readAll (ρ := ρ) items).1 with
      | error e => rfl
      | ok records => cases (readAll (ρ := ρ) later).1 <;> rfl

/-- What a cursor does when its results are collected: it reads what is left of them, up to the first that is no record,
or there is an error since a fetch has failed. -/
def Collects (reliable : Prop) (c : RecordCursor ρ) (rest : List Value)
    (outcome : Except ClientError (List ρ) × RecordCursor ρ) (calls : List Call) : Prop :=
  Concludes reliable c outcome.2 calls (outcome.1 = (readAll rest).1) (∃ e, outcome.1 = .error e)

theorem collectWithin_ends (tries : Nat) (streams : c.Streams w rest) (enough : rest.length < c.buffer.length + tries) :
    (c.collectWithin tries).EndsAmong (Turn.Fits c.id reliable) w fun outcome calls _ =>
      c.Collects reliable rest outcome calls := by
  induction tries generalizing c w rest with
  | zero =>
    obtain ⟨s, held, -, -, rfl⟩ := streams
    rw [List.length_append] at enough
    omega
  | succ tries ih =>
    unfold collectWithin
    have split := streams
    obtain ⟨s, held, plain, supplies, whole⟩ := split
    have parts := readAll_append (ρ := ρ) c.buffer held
    rw [whole] at parts
    rcases read : (readAll c.buffer : Except ClientError (List ρ) × List Value) with ⟨e | records, others⟩
    · rw [read] at parts
      exact .done (.quiet ⟨rfl, rfl⟩ parts.symm)
    · rw [read] at parts
      obtain ⟨rfl, -⟩ := readAll_ok read
      dsimp only
      cases more : c.hasMore with
      | false =>
        have last := streams.eq_buffer more
        refine .done (.quiet ⟨rfl, rfl⟩ ?_)
        rw [last, read]
      | true =>
        have left : ({ c with buffer := [] } : RecordCursor ρ).Streams w held := ⟨s, held, plain, supplies, rfl⟩
        refine .bind (fetch_ends left rfl more) ?_
        rintro ⟨answer, d⟩ calls w' ⟨advanced, delivers, ⟨fine, rfl, later, nonempty⟩ | ⟨lost, exhausted, e, rfl⟩⟩
        -- the fetch has put something into the buffer, so one try less is enough for what is left
        · have some : 0 < d.buffer.length := List.length_pos_iff.mpr nonempty
          have fewer : held.length < d.buffer.length + tries := by
            rw [← whole, List.length_append] at enough
            omega
          have sameId : d.id = c.id := advanced.id
          rw [← sameId]
          refine .bind (ih later fewer) ?_
          rintro ⟨answer, e⟩ others w'' collects
          refine .done ?_
          rw [List.append_nil]
          refine (Concludes.after (c := c) ⟨advanced.id, advanced.count⟩ delivers fine collects).mono ?_ ?_
          · rintro rfl
            exact parts.symm
          · rintro ⟨e, rfl⟩
            exact ⟨e, rfl⟩
        · refine .done ⟨⟨advanced.id, advanced.count⟩, ?_, .inr ⟨?_, exhausted, e, rfl⟩⟩
          · rwa [List.append_nil]
          · rwa [List.append_nil]

theorem collect_ends (streams : c.Streams w rest) :
    c.collect.EndsAmong (Turn.Fits c.id reliable) w fun outcome calls _ => c.Collects reliable rest outcome calls :=
  .act fun _ fits => collectWithin_ends _ (streams.await fits.1) (patience_exceeds streams fits.1)

omit [Record ρ] in
theorem finish_ends (collected : Except ClientError (List ρ)) (plain : ∃ s, w.store = ⟨s, []⟩) :
    (finish collected c).EndsAmong (Turn.Fits c.id reliable) w fun (answer, d) calls _ =>
      Concludes reliable c d calls (answer = collected ∨ ¬reliable ∧ ∃ e, answer = .error e) False := by
  cases collected with
  | error e => exact .done (.quiet ⟨rfl, rfl⟩ (.inl rfl))
  | ok records =>
    refine .bind (close_ends plain) ?_
    rintro ⟨answer, d⟩ calls w' ⟨advanced, aside, closes⟩
    have delivers : ∀ call ∈ calls ++ [], call.Delivers := by
      simpa using fun call made => (aside call made).1
    have fine : ∀ call ∈ calls ++ [], ¬call.FailedFetch := by
      simpa using fun call made => (aside call made).2
    cases answer with
    | ok outcome => exact .done ⟨advanced, delivers, .inl ⟨fine, .inl rfl⟩⟩
    | error e =>
      refine .done ⟨advanced, delivers, .inl ⟨fine, .inr ⟨fun certain => ?_, e, rfl⟩⟩⟩
      obtain ⟨outcome, closed⟩ := closes certain
      cases closed

/-- What is left of the results is collected up to the first that is no record, unless a call fails. -/
theorem toList_ends (streams : c.Streams w rest) :
    c.toList.EndsAmong (Turn.Fits c.id reliable) w fun (answer, d) calls _ =>
      Concludes reliable c d calls (answer = (readAll rest).1 ∨ ¬reliable ∧ ∃ e, answer = .error e)
        (∃ e, answer = .error e) := by
  refine .bind ((collect_ends streams).plain streams.plain) ?_
  rintro ⟨collected, d⟩ calls w' ⟨⟨advanced, delivers, ⟨fine, rfl⟩ | ⟨lost, exhausted, e, rfl⟩⟩, still⟩
  · have sameId : d.id = c.id := advanced.id
    rw [← sameId]
    refine (finish_ends _ still).mono ?_
    rintro ⟨answer, d'⟩ later w'' finishes
    exact (Concludes.after advanced delivers fine finishes).mono (fun here => here) False.elim
  · refine .done ⟨advanced, ?_, .inr ⟨?_, exhausted, e, rfl⟩⟩
    · rwa [List.append_nil]
    · rwa [List.append_nil]

theorem Exhausted.toList_ends (exhausted : c.Exhausted) (plain : ∃ s, w.store = ⟨s, []⟩) :
    c.toList.EndsAmong (Turn.Fits c.id reliable) w fun (answer, d) calls _ =>
      Concludes reliable c d calls (answer = .ok [] ∨ ¬reliable ∧ ∃ e, answer = .error e) False := by
  have collects : c.collect.EndsAmong (Turn.Fits c.id reliable) w fun outcome calls _ =>
      outcome = (.ok [], c) ∧ calls = [] := by
    refine .act fun t _ => ?_
    show (c.collectWithin (w.answerIn t .patience).1).EndsAmong _ _ _
    rw [exhausted.collectWithin]
    exact .done ⟨rfl, rfl⟩
  refine .bind (collects.plain plain) ?_
  rintro _ _ w' ⟨⟨rfl, rfl⟩, still⟩
  exact finish_ends _ still

/-- A cursor that is used up reads what is left of its results. -/
theorem toListAndDrop_ends (streams : c.Streams w rest) :
    c.toListAndDrop.EndsAmong (Turn.Fits c.id True) w fun answer _ _ => answer = (readAll rest).1 := by
  refine .bind ((toList_ends streams).plain streams.plain) ?_
  rintro ⟨answer, d⟩ calls w' ⟨concludes, still⟩
  have sameId : d.id = c.id := concludes.advanced.id
  rw [← sameId]
  refine .bind (drop_ends still) fun _ _ _ _ => .done ?_
  obtain collected | ⟨unreliable, -⟩ := concludes.of_reads (concludes.reads trivial)
  · exact collected
  · exact absurd trivial unreliable

/-- A cursor says that there is nothing more, whatever becomes of calls: it has no next result, and no results are
collected, unless it cannot be closed. -/
structure Silent (c : RecordCursor ρ) (w : World) : Prop where
  nexts : ∀ n, (c.nexts n).EndsAmong (fun _ => True) w fun (answers, _) calls _ =>
    answers = List.replicate n none ∧ calls = []
  collects : ∀ reliable : Prop, c.toList.EndsAmong (Turn.Fits c.id reliable) w fun (collected, _) calls _ =>
    (∀ call ∈ calls, ¬call.FailedFetch) ∧ (collected = .ok [] ∨ ¬reliable ∧ ∃ e, collected = .error e)

theorem Exhausted.silent (exhausted : c.Exhausted) (plain : ∃ s, w.store = ⟨s, []⟩) : c.Silent w where
  nexts n := by
    refine (exhausted.nexts_ends n).mono ?_
    rintro _ _ w' ⟨rfl, rfl⟩
    exact ⟨rfl, rfl⟩
  collects reliable := by
    refine (exhausted.toList_ends plain).mono ?_
    rintro ⟨answer, d⟩ calls w' ⟨-, -, ⟨fine, here⟩ | ⟨-, -, none⟩⟩
    · exact ⟨fine, here⟩
    · exact none.elim

end RecordCursor

theorem Find.query_options {name : String} {options : Find.Options} {d : Directory} {q : BoundQuery}
    (made : Find.query name options d = .ok q) : q.options = ⟨options.count, options.fullCount, options.batchSize⟩ := by
  unfold Find.query at made
  split at made
  · cases made
  · split at made
    · cases made
    · split at made
      · cases made
      · cases made
        rfl

/-- A find that asks for nothing in particular gives every document as it is stored. -/
theorem Find.evaluate_all {s : Store} {name : String} {l : Collection} {count fullCount : Bool} {batchSize : Option Nat}
    {d : Directory} {q : BoundQuery}
    (made : Find.query name { count := count, fullCount := fullCount, batchSize := batchSize } d = .ok q)
    (present : s.collections.get? name = some l) :
    s.evaluate q = .ok ⟨l.contents.map .object, l.contents.length⟩ := by
  have built : ({} : Find.Filters) = Find.Filters.ofCalls [] := rfl
  have all : ({} : Find.Filters).keeps d = fun _ => true := rfl
  rw [Find.evaluate_filters built made present, all, List.filter_true]
  simp

namespace RecordCollection

variable {ρ : Type} [Record ρ] {w w₁ : World} {s : Store} {cursor : RecordCursor ρ}

omit [Record ρ] in
theorem find_made {c : RecordCollection ρ} {options : Find.Options} {query : BoundQuery} (plain : w.store = ⟨s, []⟩)
    (made : Find.query c.name options c.db.directory = .ok query) :
    ∃ w₁, w₁.store = ⟨(s.execute query).2, []⟩ ∧ (c.find options).run w =
      (some (((s.execute query).1.mapError fun r => r.error.translate .collection c.name).map .ofBatch), w₁) := by
  obtain ⟨w₀, noted, same⟩ : ∃ w₀, (Database.note (options.filters.asked c.db.directory)).run w = (some (), w₀) ∧
      w₀.store = w.store := by
    unfold Database.note
    split <;> exact ⟨_, rfl, rfl⟩
  have answered := World.answer_plain (same.trans plain) (.execute query)
  refine ⟨{ w₀ with store := ⟨(s.execute query).2, []⟩ }, rfl, ?_⟩
  unfold find
  rw [Program.run_bind, noted]
  simp only [made, ask, Program.mapOk, Program.requestOr, Program.request, Program.ofAction, Program.bind,
    Program.run_act, answered, Store.answer, Store.reply]
  cases (s.execute query).1 <;> rfl

omit [Record ρ] in
theorem find_run {c : RecordCollection ρ} {options : Find.Options} (plain : w.store = ⟨s, []⟩)
    (found : (c.find options).run w = (some (.ok cursor), w₁)) :
    ∃ query b t, Find.query c.name options c.db.directory = .ok query ∧ s.execute query = (.ok b, t) ∧
      cursor = .ofBatch b ∧ w₁.store = ⟨t, []⟩ := by
  cases made : Find.query c.name options c.db.directory with
  | error e =>
    simp only [find, made, Program.run_bind, Program.run_done] at found
    split at found <;> cases found
  | ok query =>
    obtain ⟨w', left, ran⟩ := find_made plain made
    rw [found] at ran
    cases executed : s.execute query with
    | mk result t =>
      rw [executed] at ran left
      cases result with
      | error r => cases ran
      | ok b =>
        cases ran
        exact ⟨query, b, t, rfl, executed, rfl, left⟩

omit [Record ρ] in
theorem streams_of_execute {q : BoundQuery} {b : Batch} {t : Store} (left : w.store = ⟨t, []⟩)
    (executed : s.execute q = (.ok b, t)) :
    ∃ results, s.evaluate q = .ok results ∧ (b.count = if q.options.count then some results.items.length else none) ∧
      (RecordCursor.ofBatch b : RecordCursor ρ).Streams w results.items := by
  obtain ⟨results, rest, evaluated, supplies, whole, counted⟩ := Store.supplies_of_execute executed
  exact ⟨results, evaluated, counted, t, rest, left, supplies, whole⟩

omit [Record ρ] in
theorem find_streams {c : RecordCollection ρ} {options : Find.Options} {q : BoundQuery}
    {results : Query.Evaluation} (plain : w.store = ⟨s, []⟩)
    (made : Find.query c.name options c.db.directory = .ok q) (evaluated : s.evaluate q = .ok results) :
    ∃ cursor w₁, (c.find options).run w = (some (.ok cursor), w₁) ∧ cursor.Streams w₁ results.items := by
  obtain ⟨b, t, rest, executed, -⟩ := Store.execute_supplies evaluated
  obtain ⟨w₁, left, searched⟩ := find_made plain made
  rw [executed] at left searched
  obtain ⟨results', evaluated', -, streams⟩ := streams_of_execute (ρ := ρ) left executed
  obtain rfl := Except.ok.inj (evaluated.symm.trans evaluated')
  exact ⟨_, w₁, searched, streams⟩

/-- A cursor streams the results that its query had when it ran, whatever the batch sizes are and whatever others do to
the store meanwhile. Asked one by one, the results come each once and in order, with an error in the place of one that
is no record, and then nothing more comes; no call of `next` stalls, since every fetch hands out something. Collecting
the results gives all that are left or an error, and an error if a fetch failed in it. The count is that of all results
and stays readable.

After a fetch that failed, in a call of `next` or while results were collected, nobody is told any more that results are
missing: nothing comes next, and collecting the results gives none of them without an error. -/
theorem snapshot_streamed (c : RecordCollection ρ) (options : Find.Options) (plain : w.store = ⟨s, []⟩)
    (found : (c.find options).run w = (some (.ok cursor), w₁)) :
    ∃ query results, Find.query c.name options c.db.directory = .ok query ∧ s.evaluate query = .ok results ∧
      (options.count = true → cursor.total = .ok results.items.length) ∧
      ∀ (reliable : Prop) n, (cursor.nexts n).EndsAmong (Turn.Fits cursor.id reliable) w₁ fun (answers, d) calls w₂ =>
        (∀ call ∈ calls, call.Delivers) ∧ d.total = cursor.total ∧ (reliable → ∀ call ∈ calls, ¬call.FailedFetch) ∧
        ((∃ call ∈ calls, call.FailedFetch) → d.Silent w₂ ∧ ∃ first e, first < n ∧ first < results.items.length ∧
          answers = RecordCursor.cutShort results.items first e n) ∧
        ((∀ call ∈ calls, ¬call.FailedFetch) → answers = RecordCursor.handed results.items n ∧
          ∀ reliable : Prop, d.toList.EndsAmong (Turn.Fits cursor.id reliable) w₂ fun (collected, e) calls w₃ =>
            (∀ records, collected = .ok records →
              records.map .ok = (results.items.drop n).map (Record.ofValue (ρ := ρ))) ∧
            ((∃ call ∈ calls, call.FailedFetch) → (∃ error, collected = .error error) ∧ e.Silent w₃) ∧
            (reliable → ∀ records, records.map .ok = (results.items.drop n).map (Record.ofValue (ρ := ρ)) →
              collected = .ok records) ∧
            (∀ call ∈ calls, call.Delivers) ∧ e.total = cursor.total) := by
  obtain ⟨query, b, t, made, executed, rfl, left⟩ := find_run plain found
  obtain ⟨results, evaluated, counted, streams⟩ := streams_of_execute (ρ := ρ) left executed
  refine ⟨query, results, made, evaluated, fun asked => ?_, fun reliable n => ?_⟩
  · have requested : query.options.count = true := (congrArg QueryOptions.count (Find.query_options made)).trans asked
    rw [requested, if_pos rfl] at counted
    simp [RecordCursor.total, RecordCursor.ofBatch, counted]
  · refine ((RecordCursor.nexts_ends n streams).plain streams.plain).mono ?_
    rintro ⟨answers, d⟩ calls w₂ ⟨concludes, still⟩
    refine ⟨concludes.delivers, concludes.advanced.total, concludes.reads, fun lost => ?_, fun reads => ?_⟩
    · obtain ⟨exhausted, first, e, before, inside, rfl⟩ := concludes.of_lost lost
      exact ⟨exhausted.silent still, first, e, before, inside, rfl⟩
    obtain ⟨rfl, later⟩ := concludes.of_reads reads
    refine ⟨rfl, fun reliable => ?_⟩
    have sameId : d.id = (RecordCursor.ofBatch b : RecordCursor ρ).id := concludes.advanced.id
    rw [← sameId]
    refine ((RecordCursor.toList_ends later).plain still).mono ?_
    rintro ⟨collected, e⟩ calls' w₃ ⟨further, still'⟩
    refine ⟨fun records same => ?_, fun lost => ?_, fun certain records decoded => ?_, further.delivers,
      (concludes.advanced.trans further.advanced).total⟩
    · subst same
      obtain ⟨-, read | ⟨-, error, failed⟩⟩ | ⟨-, -, error, failed⟩ := further.cases
      · exact RecordCursor.readAll_eq_ok.mp read.symm
      · cases failed
      · cases failed
    · obtain ⟨exhausted, failed⟩ := further.of_lost lost
      exact ⟨failed, exhausted.silent still'⟩
    · obtain read | ⟨unreliable, -⟩ := further.of_reads (further.reads certain)
      · exact read.trans (RecordCursor.readAll_eq_ok.mpr decoded)
      · exact absurd certain unreliable

/-- A cursor hands out the one result that has been fetched, fetches the others in vain, and then has nothing more. -/
theorem nexts_lost (id : String) {item : Value} {r : ρ} (count : Option Nat) (e : StoreError)
    (plain : ∃ s, w.store = ⟨s, []⟩) (read : Record.ofValue item = .ok r) :
    ∃ w', (∃ s, w'.store = ⟨s, []⟩) ∧
      ((RecordCursor.ofBatch ⟨some id, [item], true, count, none⟩ : RecordCursor ρ).nexts 3).runAmong
          (Turn.lostAt 2 e) w =
        ⟨some ([some (.ok r), some (.error (e.translate .cursor id)), none], ⟨some id, [], false, count, none, false⟩),
          [⟨.nextBatch id, .error e⟩], w'⟩ := by
  rw [← read]
  exact ⟨_, Program.plain_runAmong _ _ plain, rfl⟩

/-- A cursor of which one result has been fetched fetches the others in vain. -/
theorem toList_lost (id : String) {item : Value} {r : ρ} (count : Option Nat) (e : StoreError) (w : World)
    (read : Record.ofValue item = .ok r) :
    ∃ w', (RecordCursor.ofBatch ⟨some id, [item], true, count, none⟩ : RecordCursor ρ).toList.runAmong
        (Turn.lostAt 1 e) w =
      ⟨some (.error (e.translate .cursor id), ⟨some id, [], false, count, none, false⟩),
        [⟨.nextBatch id, .error e⟩], w'⟩ := by
  let c : RecordCursor ρ := .ofBatch ⟨some id, [item], true, count, none⟩
  obtain ⟨tries, patience⟩ : ∃ tries, (w.answerIn (Turn.lostAt 1 e 0) .patience).1 = tries + 1 := ⟨_, rfl⟩
  have all : RecordCursor.readAll (ρ := ρ) [item] = (.ok [r], []) := by
    simp [RecordCursor.readAll, read]
  have collects : c.toList.runAmong (Turn.lostAt 1 e) w =
      (((c.collectWithin (w.answerIn (Turn.lostAt 1 e 0) .patience).1).bind fun (collected, c) =>
        RecordCursor.finish collected c).runAmong (fun n => Turn.lostAt 1 e (n + 1))
          (w.answerIn (Turn.lostAt 1 e 0) .patience).2) := rfl
  rw [collects, patience, RecordCursor.collectWithin, show RecordCursor.readAll c.buffer = (.ok [r], []) from all]
  exact ⟨_, rfl⟩

def threeDocuments : Store :=
  let held : Document := [("_key", .string "k"), ("_rev", .string ""), ("expiresAt", .ofNat 1), ("name", .string "n")]
  (Store.empty 0).afterAll [.createCollection "c" {}, .insertMany "c" [held, [], held.setText "_key" "l"]]

theorem threeDocuments_found :
    let c : RecordCollection LockDocument := ⟨{}, "c"⟩
    let options : Find.Options := { batchSize := some 0, count := true }
    ∃ query first second third k e l w₁, Find.query "c" options c.db.directory = .ok query ∧
      threeDocuments.evaluate query = .ok ⟨[first, second, third], 3⟩ ∧
      [first, second, third].map (Record.ofValue (ρ := LockDocument)) = [.ok k, .error e, .ok l] ∧
      (∃ s, w₁.store = ⟨s, []⟩) ∧ (c.find options).run { store := ⟨threeDocuments, []⟩ } =
        (some (.ok (.ofBatch ⟨some (Store.cursorName 1), [first], true, some 3, none⟩)), w₁) := by
  intro c options
  obtain ⟨query, made⟩ : ∃ query, Find.query c.name options c.db.directory = .ok query := ⟨_, rfl⟩
  obtain ⟨d, present⟩ : ∃ d, threeDocuments.collections.get? "c" = some d :=
    Option.isSome_iff_exists.mp (by decide +kernel)
  have decodes : (threeDocuments.collections.get? "c").map (fun d =>
      d.contents.map fun document => (Record.ofValue (.object document) : Except ClientError LockDocument).isOk) =
      some [true, false, true] := by
    decide +kernel
  rw [present, Option.map_some, Option.some_inj] at decodes
  obtain ⟨first, second, third, contents⟩ : ∃ first second third, d.contents = [first, second, third] :=
    List.length_eq_three.mp (by simpa using congrArg List.length decodes)
  have evaluated := Find.evaluate_all made present
  rw [contents] at decodes evaluated
  have executed : (threeDocuments.execute query).1 =
      .ok ⟨some (Store.cursorName 1), [.object first], true, some 3, none⟩ := by
    simp only [Store.execute, evaluated, Find.query_options made]
    rfl
  obtain ⟨w₁, left, found⟩ := c.find_made (w := { store := ⟨threeDocuments, []⟩ }) rfl made
  rw [executed] at found
  obtain ⟨one, two, three, -⟩ : _ ∧ _ ∧ _ ∧ _ := by simpa only [List.map_cons, List.cons.injEq] using decodes
  have ok : ∀ x : Except ClientError LockDocument, x.isOk = true → ∃ l, x = .ok l := by
    rintro (e | l) ok
    · cases ok
    · exact ⟨l, rfl⟩
  obtain ⟨k, one⟩ := ok _ one
  obtain ⟨l, three⟩ := ok _ three
  cases failed : (Record.ofValue (.object second) : Except ClientError LockDocument) with
  | ok other =>
    rw [failed] at two
    cases two
  | error e =>
    refine ⟨query, _, _, _, k, e, l, w₁, made, evaluated, ?_, ⟨_, left⟩, found⟩
    rw [List.map_cons, List.map_cons, List.map_cons, one, failed, three, List.map_nil]

/-- Three documents, of which the second is no record, are fetched one at a time. What is left can be collected after
the second, but if a fetch is lost nothing comes any more. -/
theorem locks_streamed :
    let c : RecordCollection LockDocument := ⟨{}, "c"⟩
    let options : Find.Options := { batchSize := some 0, count := true }
    ∃ cursor w₁, (c.find options).run { store := ⟨threeDocuments, []⟩ } = (some (.ok cursor), w₁) ∧
      cursor.hasMore = true ∧ cursor.total = .ok 3 ∧
      (cursor.nexts 4).EndsAmong (Turn.Fits cursor.id True) w₁ (fun outcome _ _ =>
        outcome.1.map (·.map Except.isOk) = [some true, some false, some true, none]) ∧
      (cursor.nexts 2).EndsAmong (Turn.Fits cursor.id True) w₁ (fun outcome _ w₂ =>
        outcome.2.toList.EndsAmong (Turn.Fits cursor.id True) w₂ fun collected _ _ => ∃ l, collected.1 = .ok [l]) ∧
      (∃ answers d calls w₂, (cursor.nexts 3).runAmong (Turn.lostAt 2 (.transport "cut")) w₁ =
          ⟨some (answers, d), calls, w₂⟩ ∧
        answers.map (·.map Except.isOk) = [some true, some false, none] ∧ d.Silent w₂) ∧
      ∃ error d calls w₂, cursor.toList.runAmong (Turn.lostAt 1 (.transport "cut")) w₁ =
        ⟨some (.error error, d), calls, w₂⟩ ∧ d.Silent w₂ := by
  intro c options
  obtain ⟨query, first, second, third, k, e, l, w₁, made, evaluated, decodes, still, found⟩ := threeDocuments_found
  obtain ⟨query', results, made', evaluated', -, streams⟩ := c.snapshot_streamed options rfl found
  obtain rfl := Except.ok.inj (made.symm.trans made')
  obtain rfl := Except.ok.inj (evaluated.symm.trans evaluated')
  obtain ⟨one, two, three, -⟩ : _ ∧ _ ∧ _ ∧ _ := by simpa only [List.map_cons, List.cons.injEq] using decodes
  refine ⟨_, w₁, found, rfl, rfl, ?_, ?_, ?_, ?_⟩
  · refine (streams True 4).mono ?_
    rintro ⟨answers, d⟩ calls w₂ ⟨-, -, reads, -, fine⟩
    obtain ⟨rfl, -⟩ := fine (reads trivial)
    simp [RecordCursor.handed, List.range, List.range.loop, one, two, three, Except.isOk, Except.toBool]
  · refine (streams True 2).mono ?_
    rintro ⟨answers, d⟩ calls w₂ ⟨-, -, reads, -, fine⟩
    obtain ⟨-, collects⟩ := fine (reads trivial)
    refine (collects True).mono ?_
    rintro ⟨collected, d'⟩ calls' w₃ ⟨-, -, certain, -⟩
    exact ⟨l, certain trivial [l] (by simp [three])⟩
  · obtain ⟨⟨answers, d⟩, calls, w₂, ran, -, -, -, silent, -⟩ :=
      streams False 3 _ (Turn.fits_lostAt _ 2 (.transport "cut"))
    obtain ⟨w', -, handed⟩ := nexts_lost (Store.cursorName 1) (some 3) (.transport "cut") still one
    rw [handed] at ran
    cases ran
    exact ⟨_, _, _, _, handed, rfl, (silent ⟨_, List.mem_singleton.mpr rfl, _, rfl⟩).1⟩
  · obtain ⟨⟨answers, d⟩, calls, w₂, ran, -, -, -, -, fine⟩ := streams False 0 (Turn.lostAt 1 (.transport "cut"))
      (Turn.fits_lostAt _ 1 _)
    cases ran
    obtain ⟨-, collects⟩ := fine (List.forall_mem_nil _)
    obtain ⟨⟨collected, d⟩, calls, w₃, ran, -, silent, -⟩ := collects False _ (Turn.fits_lostAt _ 1 (.transport "cut"))
    obtain ⟨w', none⟩ := toList_lost (Store.cursorName 1) (some 3) (.transport "cut") w₁ one
    rw [none] at ran
    cases ran
    exact ⟨_, _, _, _, none, (silent ⟨_, List.mem_singleton.mpr rfl, _, rfl⟩).2⟩

/-- The fetch of the second of three results is lost. Whoever asked for it is told, but collecting the results then
gives none of them and no error. -/
theorem lost_fetch_forgotten :
    let c : RecordCollection LockDocument := ⟨{}, "c"⟩
    let options : Find.Options := { batchSize := some 0, count := true }
    ∃ cursor w₁ answers d calls w₂ e w₃, (c.find options).run { store := ⟨threeDocuments, []⟩ } =
        (some (.ok cursor), w₁) ∧ cursor.total = .ok 3 ∧
      (cursor.nexts 3).runAmong (Turn.lostAt 2 (.transport "cut")) w₁ = ⟨some (answers, d), calls, w₂⟩ ∧
      (∃ call ∈ calls, call.FailedFetch) ∧ answers.map (·.map Except.isOk) = [some true, some false, none] ∧
      d.toList.run w₂ = (some (.ok [], e), w₃) := by
  intro c options
  obtain ⟨query, first, second, third, k, e, l, w₁, -, -, decodes, still, found⟩ := threeDocuments_found
  obtain ⟨one, -⟩ : _ ∧ _ := by simpa only [List.map_cons, List.cons.injEq] using decodes
  obtain ⟨w₂, plain, ran⟩ := nexts_lost (Store.cursorName 1) (some 3) (.transport "cut") still one
  have exhausted : RecordCursor.Exhausted (ρ := LockDocument)
      ⟨some (Store.cursorName 1), [], false, some 3, none, false⟩ := ⟨rfl, rfl⟩
  obtain ⟨⟨collected, d⟩, calls, w₃, last, concludes⟩ := (exhausted.toList_ends plain).run (Turn.fits_alone _ True)
  obtain rfl | ⟨unreliable, -⟩ := concludes.of_reads (concludes.reads trivial)
  · exact ⟨_, w₁, _, _, _, w₂, d, w₃, found, rfl, ran, ⟨_, List.mem_singleton.mpr rfl, _, rfl⟩, rfl, last⟩
  · exact absurd trivial unreliable

end RecordCollection
end RecordStore
