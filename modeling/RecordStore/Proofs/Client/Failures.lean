import RecordStore.Proofs.Client.Protocol
import RecordStore.Proofs.Client.Streaming
import RecordStore.Sample.Vertices

/-!
# Failures while a collection is read

Whatever kind of store answers, reading a collection gives an error if the query or a fetch fails, with one exception:
records that are to be left out are skipped without a look at them, and a failure among them is skipped as well. What is
read is then empty (`failures_reported`).
-/

namespace RecordStore

namespace Program

/-- What becomes of a program whose actions are answered by a machine of any kind: its result, unless it has stalled,
and its calls. -/
def runOn {σ α : Type} (answer : σ → (action : Action) → action.Answer × σ) : Program α → σ → Option α × List Call
  | done a, _ => (some a, [])
  | stalled, _ => (none, [])
  | act action next, s =>
    let answered := answer s action
    let later := (next answered.1).runOn answer answered.2
    (later.1, action.calls answered.1 ++ later.2)

/-- A program that follows a protocol for any answers does so with every machine. -/
theorem Follows.runOn {σ α : Type} {answer : σ → (action : Action) → action.Answer × σ} {waits : List Call → Prop}
    {rests : List Call → α → Prop} {p : Program α} {calls : List Call}
    (follows : p.Follows (.recording (fun _ _ => True) waits) rests calls) (s : σ) :
    (∀ a, (p.runOn answer s).1 = some a → rests (calls ++ (p.runOn answer s).2) a) ∧
      ((p.runOn answer s).1 = none → waits (calls ++ (p.runOn answer s).2)) := by
  induction p generalizing calls s with
  | done a =>
    simp only [Program.runOn, List.append_nil]
    exact ⟨fun b same => Option.some.inj same ▸ follows, nofun⟩
  | stalled =>
    simp only [Program.runOn, List.append_nil]
    exact ⟨nofun, fun _ => follows⟩
  | act action next ih =>
    have expected : (Protocol.recording (fun _ _ => True) waits).expects calls action (answer s action).1 := by
      cases action <;> trivial
    have later := ih _ (follows.2 _ expected) (answer s action).2
    simp only [Program.runOn, ← List.append_assoc]
    exact later

end Program

/-! ### Calls that read -/

namespace Call

def failedQuery : Call → Bool
  | ⟨.execute _, answer⟩ => !answer.isOk
  | _ => false

def failedRead : Call → Bool
  | ⟨.execute _, answer⟩ | ⟨.nextBatch _, answer⟩ => !answer.isOk
  | _ => false

def failedClose : Call → Bool
  | ⟨.closeCursor _, answer⟩ => !answer.isOk
  | _ => false

def delivered : Call → Nat
  | ⟨.execute _, .ok b⟩ | ⟨.nextBatch _, .ok b⟩ => b.items.length
  | _ => 0

def isClosing : Call → Prop
  | ⟨.closeCursor _, _⟩ => True
  | _ => False

theorem isClosing.reads {call : Call} (closing : call.isClosing) :
    call.failedQuery = false ∧ call.failedRead = false ∧ call.delivered = 0 := by
  obtain ⟨r, answer⟩ := call
  cases r <;> first | exact ⟨rfl, rfl, rfl⟩ | cases closing

end Call

def Unfailed (calls : List Call) : Prop := ∀ call ∈ calls, call.failedRead = false

def delivered : List Call → Nat
  | [] => 0
  | call :: rest => call.delivered + delivered rest

/-- The protocol of programs that are answered by anything and do not stall after a failure. -/
def Protocol.reading : Protocol (List Call) := .recording (fun _ _ => True) Unfailed

/-- A program that first asks how often it may try has made no call before it begins. -/
theorem Program.Follows.trying {α : Type} {f : Nat → Program α} {rests : List Call → α → Prop} {calls : List Call}
    (each : ∀ tries, (f tries).Follows .reading rests calls) :
    ((Program.ofAction .patience).bind f).Follows .reading rests calls := by
  have asked : (Program.ofAction .patience).Follows .reading (fun later _ => later = calls) calls :=
    Program.aside_follows nofun
  refine .bind asked ?_
  rintro _ tries rfl
  exact each tries

theorem delivered_append (calls others : List Call) :
    delivered (calls ++ others) = delivered calls + delivered others := by
  induction calls with
  | nil => simp [delivered]
  | cons call rest ih => simp only [List.cons_append, delivered, ih, Nat.add_assoc]

theorem delivered_closing {calls : List Call} (closing : ∀ call ∈ calls, call.isClosing) : delivered calls = 0 := by
  induction calls with
  | nil => rfl
  | cons call rest ih =>
    obtain ⟨-, -, nothing⟩ := (closing call List.mem_cons_self).reads
    rw [delivered, nothing, ih fun other here => closing other (List.mem_cons_of_mem _ here)]

theorem Unfailed.concat {calls : List Call} (unfailed : Unfailed calls) {call : Call} (ok : call.failedRead = false) :
    Unfailed (calls ++ [call]) :=
  List.forall_mem_append.mpr ⟨unfailed, List.forall_mem_singleton.mpr ok⟩

theorem failedQuery_of_failedRead {call : Call} (ok : call.failedRead = false) : call.failedQuery = false := by
  obtain ⟨r, answer⟩ := call
  cases r <;> first | rfl | exact ok

/-- The calls that came later only closed cursors. -/
def Closes (calls later : List Call) : Prop := ∃ closing, (∀ call ∈ closing, call.isClosing) ∧ later = calls ++ closing

namespace Closes

variable {calls later last : List Call}

theorem refl (calls : List Call) : Closes calls calls := ⟨[], List.forall_mem_nil _, (List.append_nil calls).symm⟩

theorem call {call : Call} (closing : call.isClosing) : Closes calls (calls ++ [call]) :=
  ⟨[call], List.forall_mem_singleton.mpr closing, rfl⟩

theorem trans (first : Closes calls later) (second : Closes later last) : Closes calls last := by
  obtain ⟨some, closing, rfl⟩ := first
  obtain ⟨more, others, rfl⟩ := second
  exact ⟨some ++ more, List.forall_mem_append.mpr ⟨closing, others⟩, List.append_assoc ..⟩

theorem forall_iff (closes : Closes calls later) {p : Call → Prop} (aside : ∀ call, call.isClosing → p call) :
    (∀ call ∈ later, p call) ↔ ∀ call ∈ calls, p call := by
  obtain ⟨closing, only, rfl⟩ := closes
  rw [List.forall_mem_append]
  exact and_iff_left fun call here => aside call (only call here)

theorem mem (closes : Closes calls later) {call : Call} (made : call ∈ calls) : call ∈ later := by
  obtain ⟨closing, -, rfl⟩ := closes
  exact List.mem_append_left _ made

theorem unfailed (closes : Closes calls later) : Unfailed later ↔ Unfailed calls :=
  closes.forall_iff fun _ closing => closing.reads.2.1

theorem delivered (closes : Closes calls later) : delivered later = delivered calls := by
  obtain ⟨closing, only, rfl⟩ := closes
  rw [delivered_append, delivered_closing only, Nat.add_zero]

end Closes

namespace RecordCursor

variable {ρ : Type} {c d : RecordCursor ρ} {calls : List Call} {n : Nat}

/-- Nothing has failed, and what was delivered has been handed out but for what is in the buffer. -/
structure Intact (n : Nat) (c : RecordCursor ρ) (calls : List Call) : Prop where
  unfailed : Unfailed calls
  account : delivered calls = n + c.buffer.length

/-- After a failed fetch there is nothing more to hand out than what had been delivered before it. -/
structure Broken (n : Nat) (c : RecordCursor ρ) (calls : List Call) : Prop extends Exhausted c where
  queried : ∀ call ∈ calls, call.failedQuery = false
  account : delivered calls = n

/-- What collecting the results comes to: no failure, or an error after so many results at least. -/
def Collected (n : Nat) (later : List Call) (result : Except ClientError (List ρ)) : Prop :=
  Unfailed later ∨ n ≤ delivered later ∧ ∃ e, result = .error e

theorem Collected.of_le {m : Nat} {later : List Call} {result : Except ClientError (List ρ)} (fewer : n ≤ m)
    (collected : Collected m later result) : Collected n later result :=
  collected.imp_right fun ⟨enough, failed⟩ => ⟨Nat.le_trans fewer enough, failed⟩

/-- A cursor has something in its buffer, is exhausted or has to fetch. -/
theorem ready_or (c : RecordCursor ρ) :
    (∃ item rest, c.buffer = item :: rest) ∨ c.Exhausted ∨ c.buffer = [] ∧ c.hasMore = true := by
  cases ready : c.buffer with
  | cons item rest => exact .inl ⟨item, rest, rfl⟩
  | nil =>
    cases more : c.hasMore with
    | false => exact .inr (.inl ⟨ready, more⟩)
    | true => exact .inr (.inr ⟨rfl, rfl⟩)

/-! ### Fetching -/

theorem Intact.fetch (intact : c.Intact n calls) (spent : c.buffer = []) :
    c.fetch.Follows .reading
      (fun later a => (a.1.isOk = true → a.2.Intact n later) ∧ (a.1.isOk = false → a.2.Broken n later)) calls := by
  have account : delivered calls = n := by rw [intact.account, spent, List.length_nil, Nat.add_zero]
  unfold RecordCursor.fetch
  cases c.id with
  | none => exact ⟨fun _ => ⟨intact.unfailed, intact.account⟩, nofun⟩
  | some id =>
    refine ⟨trivial, fun answer _ => ?_⟩
    cases answer with
    | ok b =>
      refine ⟨fun _ => ⟨intact.unfailed.concat rfl, ?_⟩, nofun⟩
      show delivered (calls ++ [_]) = n + (c.buffer ++ b.items).length
      rw [delivered_append, account, spent]
      rfl
    | error e =>
      refine ⟨nofun, fun _ => ⟨⟨spent, rfl⟩, ?_, ?_⟩⟩
      · refine List.forall_mem_append.mpr ⟨fun call here => ?_, List.forall_mem_singleton.mpr rfl⟩
        exact failedQuery_of_failedRead (intact.unfailed call here)
      · show delivered (calls ++ [_]) = n
        rw [delivered_append, account]
        rfl

/-! ### Closing -/

theorem close_reading (c : RecordCursor ρ) (ignoreMissing : Bool) (calls : List Call) :
    (c.close ignoreMissing).Follows .reading
      (fun later a => Closes calls later ∧ (a.1.isOk = false → ∃ call ∈ later, call.failedClose = true)) calls := by
  unfold RecordCursor.close
  split
  · exact ⟨.refl calls, nofun⟩
  · refine ⟨trivial, fun answer _ => ?_⟩
    cases answer with
    | ok => exact ⟨.call trivial, nofun⟩
    | error e =>
      have failed : ∀ name, ∃ call ∈ calls ++ [⟨.closeCursor name, .error e⟩], call.failedClose = true :=
        fun name => ⟨_, List.mem_append_right _ (List.mem_singleton.mpr rfl), rfl⟩
      dsimp only [Program.bind]
      split
      · split
        · exact ⟨.call trivial, nofun⟩
        · exact ⟨.call trivial, fun _ => failed _⟩
      · exact ⟨.call trivial, fun _ => failed _⟩

theorem drop_reading (c : RecordCursor ρ) (calls : List Call) :
    c.drop.Follows .reading (fun later _ => Closes calls later) calls := by
  unfold RecordCursor.drop
  split
  · exact .refl calls
  · exact .bind (c.close_reading true calls) fun _ _ closed => closed.1

/-- What becomes of a result when its cursor is closed: closing it fails, or the result stays. -/
def Finishes (collected : Except ClientError (List ρ)) (later : List Call)
    (result : Except ClientError (List ρ)) : Prop :=
  result = collected ∨ (∃ e, result = .error e) ∧ ∃ call ∈ later, call.failedClose = true

theorem finish_reading (collected : Except ClientError (List ρ)) (c : RecordCursor ρ) (calls : List Call) :
    (finish collected c).Follows .reading (fun later a => Closes calls later ∧ Finishes collected later a.1) calls := by
  cases collected with
  | error e => exact ⟨.refl calls, .inl rfl⟩
  | ok records =>
    refine .bind (c.close_reading true calls) ?_
    rintro later ⟨answer, d⟩ ⟨closes, failed⟩
    cases answer with
    | ok => exact ⟨closes, .inl rfl⟩
    | error e => exact ⟨closes, .inr ⟨⟨e, rfl⟩, failed rfl⟩⟩

variable [Record ρ]

/-! ### One result after another -/

/-- What a request for the next result comes to. -/
inductive Handed (n : Nat) (later : List Call) : Option (Except ClientError ρ) × RecordCursor ρ → Prop where
  | item {result : Except ClientError ρ} {d : RecordCursor ρ} (intact : d.Intact (n + 1) later) :
    Handed n later (some result, d)
  | nothing {d : RecordCursor ρ} (unfailed : Unfailed later) (exhausted : d.Exhausted) : Handed n later (none, d)
  | failure {e : ClientError} {d : RecordCursor ρ} (broken : d.Broken n later) : Handed n later (some (.error e), d)

theorem Intact.ready (intact : c.Intact n calls) {item : Value} {rest : List Value} (ready : c.buffer = item :: rest)
    (tries : Nat) : (c.nextWithin tries).Follows .reading (Handed n) calls := by
  rw [nextWithin_ready ready]
  refine .item ⟨intact.unfailed, ?_⟩
  show delivered calls = n + 1 + rest.length
  rw [intact.account, ready, List.length_cons]
  omega

theorem Intact.nextWithin (intact : c.Intact n calls) (tries : Nat) :
    (c.nextWithin tries).Follows .reading (Handed n) calls := by
  induction tries generalizing c calls with
  | zero =>
    rcases c.ready_or with ⟨item, rest, ready⟩ | exhausted | ⟨spent, more⟩
    · exact intact.ready ready 0
    · rw [exhausted.nextWithin]
      exact .nothing intact.unfailed exhausted
    · simp only [RecordCursor.nextWithin, spent, more]
      exact intact.unfailed
  | succ tries ih =>
    rcases c.ready_or with ⟨item, rest, ready⟩ | exhausted | ⟨spent, more⟩
    · exact intact.ready ready (tries + 1)
    · rw [exhausted.nextWithin]
      exact .nothing intact.unfailed exhausted
    · simp only [RecordCursor.nextWithin, spent, more, if_true]
      refine .bind (intact.fetch spent) ?_
      rintro later ⟨answer, d⟩ ⟨goesOn, fails⟩
      cases answer with
      | ok => exact ih (goesOn rfl)
      | error e => exact .failure (fails rfl)

theorem Intact.next (intact : c.Intact n calls) : c.next.Follows .reading (Handed n) calls :=
  .trying intact.nextWithin

/-- What is left after some results have been left out: none of them failed and all have been delivered, there were
fewer of them, or a fetch of them failed. -/
inductive Skipped (goal : Nat) (later : List Call) (d : RecordCursor ρ) : Prop where
  | all (intact : d.Intact goal later)
  | fewer (unfailed : Unfailed later) (exhausted : d.Exhausted)
  | failure {n : Nat} (before : n < goal) (broken : d.Broken n later)

theorem Exhausted.skip (exhausted : c.Exhausted) (k : Nat) :
    (c.skip k).Follows .reading (fun later d => later = calls ∧ d = c) calls := by
  cases k with
  | zero => exact ⟨rfl, rfl⟩
  | succ k =>
    have next : c.next.Follows .reading (fun later a => later = calls ∧ a = (none, c)) calls :=
      .trying fun tries => by rw [exhausted.nextWithin]; exact ⟨rfl, rfl⟩
    refine .bind next ?_
    rintro _ _ ⟨rfl, rfl⟩
    exact ⟨rfl, rfl⟩

theorem Intact.skip (intact : c.Intact n calls) (k : Nat) : (c.skip k).Follows .reading (Skipped (n + k)) calls := by
  induction k generalizing c calls n with
  | zero => exact .all intact
  | succ k ih =>
    refine .bind intact.next ?_
    rintro later ⟨result, d⟩ handed
    cases handed with
    | item intact => exact Nat.add_right_comm n 1 k ▸ ih intact
    | nothing unfailed exhausted => exact .fewer unfailed exhausted
    | failure broken =>
      refine (broken.toExhausted.skip k).mono ?_
      rintro _ _ ⟨rfl, rfl⟩
      exact .failure (Nat.lt_add_of_pos_right (Nat.succ_pos k)) broken

/-! ### Collecting -/

theorem Intact.collectWithin (intact : c.Intact n calls) (tries : Nat) :
    (c.collectWithin tries).Follows .reading (fun later a => Collected n later a.1) calls := by
  induction tries generalizing c calls n with
  | zero =>
    unfold RecordCursor.collectWithin
    split
    · exact .inl intact.unfailed
    · dsimp only
      split
      · exact intact.unfailed
      · exact .inl intact.unfailed
  | succ tries ih =>
    unfold RecordCursor.collectWithin
    split
    · exact .inl intact.unfailed
    · rename_i records rest read
      obtain ⟨rfl, -⟩ := readAll_ok read
      dsimp only
      split
      · -- everything in the buffer has been read, so it counts as handed out
        have emptied : ({ c with buffer := [] } : RecordCursor ρ).Intact (n + c.buffer.length) calls :=
          ⟨intact.unfailed, intact.account⟩
        refine .bind (emptied.fetch rfl) ?_
        rintro later ⟨answer, d⟩ ⟨goesOn, fails⟩
        cases answer with
        | error e => exact .inr ⟨(fails rfl).account ▸ Nat.le_add_right n _, e, rfl⟩
        | ok =>
          refine .bind (ih (goesOn rfl)) ?_
          rintro final ⟨others, d⟩ collected
          rcases collected.of_le (Nat.le_add_right n _) with unfailed | ⟨enough, e, rfl⟩
          · exact .inl unfailed
          · exact .inr ⟨enough, e, rfl⟩
      · exact .inl intact.unfailed

theorem Intact.collect (intact : c.Intact n calls) :
    c.collect.Follows .reading (fun later a => Collected n later a.1) calls :=
  .trying intact.collectWithin

theorem Exhausted.collect (exhausted : c.Exhausted) :
    c.collect.Follows .reading (fun later a => later = calls ∧ a = (.ok [], c)) calls :=
  .trying fun tries => by rw [exhausted.collectWithin]; exact ⟨rfl, rfl⟩

/-- What holds when the results have been collected is only followed by the closing of the cursor. -/
theorem toListAndDrop_reading (middle : List Call → Except ClientError (List ρ) → Prop)
    (collects : c.collect.Follows .reading (fun later a => middle later a.1) calls) :
    c.toListAndDrop.Follows .reading
      (fun later result => ∃ before collected,
        middle before collected ∧ Closes before later ∧ Finishes collected later result) calls := by
  have finished : c.toList.Follows .reading
      (fun later a => ∃ before collected,
        middle before collected ∧ Closes before later ∧ Finishes collected later a.1) calls :=
    .bind collects fun before a here =>
      (finish_reading a.1 a.2 before).mono fun _ _ finished => ⟨before, a.1, here, finished⟩
  refine .bind finished ?_
  rintro later ⟨result, d⟩ ⟨before, collected, here, closes, finishes⟩
  refine .bind (d.drop_reading later) fun final _ dropped => ?_
  refine ⟨before, collected, here, closes.trans dropped, finishes.imp_right fun ⟨failed, call, made, closing⟩ => ?_⟩
  exact ⟨failed, call, dropped.mem made, closing⟩

theorem Intact.toListAndDrop (intact : c.Intact n calls) : c.toListAndDrop.Follows .reading (Collected n) calls := by
  refine (toListAndDrop_reading (Collected n) intact.collect).mono ?_
  rintro later result ⟨before, collected, unfailed | ⟨enough, e, rfl⟩, closes, finishes⟩
  · exact .inl (closes.unfailed.mpr unfailed)
  · refine .inr ⟨closes.delivered ▸ enough, ?_⟩
    rcases finishes with rfl | ⟨failed, -⟩
    · exact ⟨e, rfl⟩
    · exact failed

theorem Exhausted.toListAndDrop (exhausted : c.Exhausted) :
    c.toListAndDrop.Follows .reading
      (fun later result => Closes calls later ∧ Finishes (.ok []) later result) calls := by
  refine (toListAndDrop_reading (fun later collected => later = calls ∧ collected = .ok []) ?_).mono ?_
  · exact exhausted.collect.mono fun _ _ ⟨same, ended⟩ => ⟨same, congrArg Prod.fst ended⟩
  · rintro later result ⟨_, _, ⟨rfl, rfl⟩, finished⟩
    exact finished

end RecordCursor

/-! ### Whole collections -/

namespace RecordCollection

variable {ρ : Type}

theorem find_reading (c : RecordCollection ρ) (options : Find.Options) :
    (c.find options).Follows .reading
      (Program.Settles (fun later d => d.Intact 0 later)
        fun later _ => Unfailed later ∨ ∃ call ∈ later, call.failedQuery = true)
      [] := by
  refine .bind (Database.note_follows _) ?_
  rintro _ ⟨⟩ rfl
  split
  · exact .inl (List.forall_mem_nil _)
  · refine ⟨trivial, fun answer _ => ?_⟩
    cases answer with
    | ok b => exact ⟨List.forall_mem_singleton.mpr rfl, (Nat.zero_add _).symm⟩
    | error e => exact .inr ⟨_, List.mem_singleton.mpr rfl, rfl⟩

/-- What has been delivered falls short of what is to be left out by the client, although the query did not fail. -/
def FailsSkipped (limit skip : Option Nat) (calls : List Call) : Prop :=
  limit = none ∧ (∀ call ∈ calls, call.failedQuery = false) ∧ delivered calls < skip.getD 0

/-- A failure while reading is reported, unless it is skipped: then there are no records. -/
def Reports (limit skip : Option Nat) (calls : List Call) (result : Except ClientError (List ρ)) : Prop :=
  (∃ call ∈ calls, call.failedRead = true) →
    (¬FailsSkipped limit skip calls → ∃ e, result = .error e) ∧
      (FailsSkipped limit skip calls → RecordCursor.Finishes (.ok []) calls result)

namespace Reports

open RecordCursor (Broken Collected Finishes)

variable {limit skip : Option Nat} {calls : List Call} {result : Except ClientError (List ρ)} {n : Nat}

theorem of_unfailed (unfailed : Unfailed calls) : Reports limit skip calls result := by
  rintro ⟨call, made, failed⟩
  cases (unfailed call made).symm.trans failed

/-- A query that was not made has not failed, and one that fails is reported. -/
theorem of_unfound {e : ClientError} (unfound : Unfailed calls ∨ ∃ call ∈ calls, call.failedQuery = true) :
    Reports limit skip calls (.error e : Except ClientError (List ρ)) := by
  rcases unfound with unfailed | ⟨call, made, failed⟩
  · exact of_unfailed unfailed
  · refine fun _ => ⟨fun _ => ⟨e, rfl⟩, fun ⟨_, queried, _⟩ => ?_⟩
    cases (queried call made).symm.trans failed

theorem of_collected (collected : Collected n calls result)
    (seen : n ≤ delivered calls → ¬FailsSkipped limit skip calls) : Reports limit skip calls result := by
  rcases collected with unfailed | ⟨enough, failed⟩
  · exact of_unfailed unfailed
  · exact fun _ => ⟨fun _ => failed, fun skipped => absurd skipped (seen enough)⟩

/-- A fetch has failed among the results that are left out, and the cursor was closed after that. -/
theorem of_broken {d : RecordCursor ρ} {before : List Call} (fewer : n < skip.getD 0) (broken : d.Broken n before)
    (closes : Closes before calls) (finishes : Finishes (.ok []) calls result) : Reports none skip calls result := by
  have queried : ∀ call ∈ calls, call.failedQuery = false :=
    (closes.forall_iff fun _ closing => closing.reads.1).mpr broken.queried
  have skipped : FailsSkipped none skip calls := by
    refine ⟨rfl, queried, ?_⟩
    rwa [closes.delivered, broken.account]
  exact fun _ => ⟨fun seen => absurd skipped seen, fun _ => finishes⟩

end Reports

variable [Record ρ]

theorem all_reading (c : RecordCollection ρ) (limit skip : Option Nat) :
    (c.all limit skip).Follows .reading (Reports limit skip) [] := by
  cases limit with
  | some n =>
    refine .bind (c.find_reading _) ?_
    rintro later (e | d) found
    · exact .of_unfound found
    · exact (RecordCursor.Intact.toListAndDrop found).mono fun _ _ collected => .of_collected collected fun _ => nofun
  | none =>
    refine .bind (c.find_reading _) ?_
    rintro later (e | d) found
    · exact .of_unfound found
    · refine .bind (RecordCursor.Intact.skip found (skip.getD 0)) ?_
      rw [Nat.zero_add]
      -- everything left out has come, there was less than that, or a fetch failed before it had come
      rintro before d (intact | ⟨unfailed, exhausted⟩ | ⟨fewer, broken⟩)
      · refine intact.toListAndDrop.mono fun _ _ collected => .of_collected collected fun enough skipped => ?_
        exact Nat.not_lt.mpr enough skipped.2.2
      · exact exhausted.toListAndDrop.mono fun _ _ ⟨closes, _⟩ => .of_unfailed (closes.unfailed.mpr unfailed)
      · exact broken.toExhausted.toListAndDrop.mono fun _ _ ⟨closes, finishes⟩ => .of_broken fewer broken closes finishes

/-! ### Three identities -/

/-- A store of three identities that hands out one at a time and whose connection is lost at the first fetch. -/
def losing : World :=
  let s := (Store.empty 1).afterAll
    [.createCollection "identities" {}, .insertMany "identities"
      [[("name", .string "a")], [("name", .string "b")], [("name", .string "c")]]]
  { store := ⟨s, [⟨.nextBatch, 0, .error (.transport "connection lost")⟩]⟩ }

def identities : RecordCollection Sample.Identity := ⟨{}, "identities"⟩

theorem losing_queried (skip : Option Nat) :
    ∃ (query : BoundQuery) (first second third : Document),
      let b : Batch := ⟨some "cursor-1", [.object first], true, none, none⟩
      let s : Store := { losing.store.store with
        cursorCounter := 1
        cursors := [("cursor-1", ⟨[.object second, .object third], 1⟩)] }
      let later := (((RecordCursor.ofBatch b : RecordCursor Sample.Identity).skip (skip.getD 0)).bind
        RecordCursor.toListAndDrop).runOn World.answer { losing with store := { losing.store with store := s } }
      (identities.all none skip).runOn World.answer losing = (later.1, ⟨.execute query, .ok b⟩ :: later.2) := by
  obtain ⟨query, made⟩ : ∃ query, Find.query identities.name {} identities.db.directory = .ok query := ⟨_, rfl⟩
  have three : (losing.store.store.collections.get? "identities").map (·.contents.length) = some 3 := by decide +kernel
  obtain ⟨l, present, length⟩ := Option.map_eq_some_iff.mp three
  obtain ⟨first, second, third, contents⟩ := List.length_eq_three.mp length
  have evaluated := Find.evaluate_all made present
  rw [contents] at evaluated
  have executed : losing.store.store.execute query =
      (.ok ⟨some "cursor-1", [.object first], true, none, none⟩,
        { losing.store.store with
          cursorCounter := 1
          cursors := [("cursor-1", ⟨[.object second, .object third], 1⟩)] }) := by
    simp only [Store.execute, evaluated, Find.query_options made]
    rfl
  have answered : losing.answer (.store (.execute query)) =
      (.ok ⟨some "cursor-1", [.object first], true, none, none⟩,
        { losing with store := { losing.store with store := (losing.store.store.execute query).2 } }) := by
    refine Prod.ext ?_ rfl
    show Except.mapError _ (losing.store.store.execute query).1 = _
    rw [executed]
    rfl
  have quiet : Database.note (({} : Find.Options).filters.asked identities.db.directory) = .done () := rfl
  refine ⟨query, first, second, third, ?_⟩
  simp only [all, find, quiet, made, ask, Program.mapOk, Program.requestOr, Program.request, Program.ofAction,
    Program.bind, Program.andThen, Program.runOn, answered, executed]
  rfl

/-! ### Failures -/

/-- A program that reads a collection gives an error if the query or a fetch fails, whatever kind of store answers it.
The exception is a failure before all of those results have come that the client itself leaves out: it is left out like
a result, and the collection looks empty. -/
theorem failures_reported {σ : Type} (answer : σ → (action : Action) → action.Answer × σ) (s : σ)
    (c : RecordCollection ρ) (limit skip : Option Nat) :
    let run := (c.all limit skip).runOn answer s
    (∃ call ∈ run.2, call.failedRead = true) →
      (¬FailsSkipped limit skip run.2 → ∃ e, run.1 = some (.error e)) ∧
        (FailsSkipped limit skip run.2 →
          run.1 = some (.ok []) ∨ (∃ e, run.1 = some (.error e)) ∧ ∃ call ∈ run.2, call.failedClose = true) := by
  intro run failed
  obtain ⟨rests, waits⟩ := (c.all_reading limit skip).runOn s
  cases ended : run.1 with
  | none =>
    obtain ⟨call, made, failed⟩ := failed
    cases (waits ended call made).symm.trans failed
  | some result =>
    obtain ⟨reported, skipped⟩ := rests result ended failed
    refine ⟨fun seen => ?_, fun hidden => ?_⟩
    · obtain ⟨e, rfl⟩ := reported seen
      exact ⟨e, rfl⟩
    · rcases skipped hidden with rfl | ⟨⟨e, rfl⟩, unclosed⟩
      · exact .inl rfl
      · exact .inr ⟨⟨e, rfl⟩, unclosed⟩

/-- The first identity is left out, and the connection is lost when the second one is fetched. -/
theorem lost_connection_reported :
    let run := (identities.all none (some 1)).runOn World.answer losing
    (∃ call ∈ run.2, call.failedRead = true) ∧ ¬FailsSkipped none (some 1) run.2 ∧ ∃ e, run.1 = some (.error e) := by
  intro run
  obtain ⟨query, first, second, third, ran⟩ := losing_queried (some 1)
  have failed : ∃ call ∈ run.2, call.failedRead = true := by
    rw [show run = _ from ran]
    exact ⟨_, List.mem_cons_of_mem _ List.mem_cons_self, rfl⟩
  have seen : ¬FailsSkipped none (some 1) run.2 := by
    rw [show run = _ from ran]
    rintro ⟨-, -, fewer⟩
    exact Nat.lt_irrefl 1 fewer
  exact ⟨failed, seen, (failures_reported World.answer losing identities none (some 1) failed).1 seen⟩

/-- Two identities are left out, and the connection is lost when the second one of them is fetched. -/
theorem lost_connection_skipped :
    let run := (identities.all none (some 2)).runOn World.answer losing
    (∃ call ∈ run.2, call.failedRead = true) ∧ run.1 = some (.ok []) := by
  intro run
  obtain ⟨query, first, second, third, ran⟩ := losing_queried (some 2)
  rw [show run = _ from ran]
  exact ⟨⟨_, List.mem_cons_of_mem _ List.mem_cons_self, rfl⟩, rfl⟩

end RecordCollection
end RecordStore
