import RecordStore.Client.Turn

/-!
# Programs that come to an end

`EndsAmong` says of a program that it comes to an end however its turns are, and in which way. It is proved along the
program: an action is followed for every turn that it may get, and a program that goes on with the result of another
one starts where that one has ended.
-/

namespace RecordStore

namespace FaultyStore

theorem collectFound_unprepared (name : String) (keys : List String) (s : Store) :
    collectFound (fun key s => answerOne s (.get name key)) keys ⟨s, []⟩ =
      ((collectFound (fun key s => s.look (s.find name key)) keys s).1,
        ⟨(collectFound (fun key s => s.look (s.find name key)) keys s).2, []⟩) := by
  induction keys generalizing s with
  | nil => rfl
  | cons key rest ih =>
    have first : answerOne ⟨s, []⟩ (.get name key) = ((s.look (s.find name key)).1, ⟨s, []⟩) := rfl
    unfold collectFound
    rw [first]
    cases found : s.look (s.find name key) with
    | mk answer t =>
      obtain rfl : s = t := congrArg Prod.snd found
      cases answer with
      | error e => rfl
      | ok document =>
        dsimp only
        rw [ih]
        cases collectFound (fun key s => s.look (s.find name key)) rest s with
        | mk answer t => cases answer <;> rfl

theorem collectAll_unprepared (name : String) (documents : List Document) (s : Store) :
    collectAll (fun document s => answerOne s (.insert name document)) documents ⟨s, []⟩ =
      ((collectAll (fun document s => Store.reply (s.insert name document)) documents s).1,
        ⟨(collectAll (fun document s => Store.reply (s.insert name document)) documents s).2, []⟩) := by
  induction documents generalizing s with
  | nil => rfl
  | cons document rest ih =>
    have first : answerOne ⟨s, []⟩ (.insert name document) =
        ((Store.reply (s.insert name document)).1, ⟨(Store.reply (s.insert name document)).2, []⟩) := rfl
    simp only [collectAll, first, ih]

theorem answer_unprepared (s : Store) (r : Request) :
    (⟨s, []⟩ : FaultyStore).answer r = ((s.answer r).1, ⟨(s.answer r).2, []⟩) := by
  cases r with
  | getMany name keys => exact collectFound_unprepared name keys s
  | insertMany name documents => exact collectAll_unprepared name documents s
  | _ => rfl

theorem substitute?_error (r : Request) (e : StoreError) : ∃ answer, substitute? r (.error e) = some answer := by
  cases r <;> exact ⟨_, rfl⟩

end FaultyStore

namespace World

variable {w : World} {s : Store} {t : Turn}

theorem answer_plain (plain : w.store = ⟨s, []⟩) (r : Request) :
    w.answer (.store r) = ((s.answer r).1, { w with store := ⟨(s.answer r).2, []⟩ }) := by
  simp only [answer, plain, FaultyStore.answer_unprepared]

theorem await_store (plain : w.store = ⟨s, []⟩) : (w.await t).store = ⟨s.afterAll t.before, []⟩ := by
  simp [await, plain]

/-- A request is answered by the store, unless it is lost. -/
theorem answerIn_store (plain : w.store = ⟨s, []⟩) (r : Request) :
    (∃ e answer, t.lost = some e ∧ FaultyStore.substitute? r (.error e) = some answer ∧
        w.answerIn t (.store r) = (answer, w.await t)) ∨
      t.lost = none ∧ w.answerIn t (.store r) =
        (((s.afterAll t.before).answer r).1,
          { w.await t with store := ⟨((s.afterAll t.before).answer r).2, []⟩ }) := by
  unfold answerIn
  cases lost : t.lost with
  | some e =>
    obtain ⟨answer, replaced⟩ := FaultyStore.substitute?_error r e
    refine .inl ⟨e, answer, rfl, replaced, ?_⟩
    simp only [Option.bind_some, replaced]
  | none =>
    refine .inr ⟨rfl, ?_⟩
    simp only [Option.bind_none, answer, await_store plain, FaultyStore.answer_unprepared]

theorem plain_answerIn (plain : w.store = ⟨s, []⟩) (t : Turn) (action : Action) :
    ∃ s', (w.answerIn t action).2.store = ⟨s', []⟩ := by
  have waited : (w.await t).store = ⟨s.afterAll t.before, []⟩ := await_store plain
  cases action with
  | store r =>
    rcases answerIn_store (t := t) plain r with ⟨e, answer, -, -, answered⟩ | ⟨-, answered⟩
    · exact ⟨_, by rw [answered, waited]⟩
    · exact ⟨_, by rw [answered]⟩
  | claim lock =>
    refine ⟨_, Eq.trans ?_ waited⟩
    simp only [answerIn, answer]
    split <;> rfl
  | keyNumber | now | note | yield | patience => exact ⟨_, waited⟩

end World

namespace Program

variable {α β : Type} {fits : Turn → Prop} {w : World}

theorem request_run {s : Store} (plain : w.store = ⟨s, []⟩) (r : Request) :
    (request r).run w = (some (s.answer r).1, { w with store := ⟨(s.answer r).2, []⟩ }) := by
  rw [request, ofAction, run_act, World.answer_plain plain, run_done]

/-- A program that has come to an end went on from where its first part had ended. -/
theorem run_bind_some {p : Program α} {f : α → Program β} {w' : World} {b : β}
    (ran : (p.bind f).run w = (some b, w')) : ∃ a w₁, p.run w = (some a, w₁) ∧ (f a).run w₁ = (some b, w') := by
  rw [run_bind] at ran
  split at ran
  · rename_i a w₁ first
    exact ⟨a, w₁, first, ran⟩
  · cases ran

theorem runAmong_bind (p : Program α) (f : α → Program β) (turns : Nat → Turn) (w : World) :
    ∃ n, (p.bind f).runAmong turns w =
      match p.runAmong turns w with
      | ⟨some a, calls, w⟩ =>
        let later := (f a).runAmong (fun k => turns (n + k)) w
        ⟨later.result, calls ++ later.calls, later.world⟩
      | ⟨none, calls, w⟩ => ⟨none, calls, w⟩ := by
  induction p generalizing turns w with
  | done a => exact ⟨0, by simp⟩
  | stalled => exact ⟨0, rfl⟩
  | act action next ih =>
    let answered := w.answerIn (turns 0) action
    obtain ⟨n, later⟩ := ih answered.1 (fun n => turns (n + 1)) answered.2
    refine ⟨n + 1, ?_⟩
    simp only [bind, runAmong]
    rw [later]
    cases (next answered.1).runAmong (fun n => turns (n + 1)) answered.2 with
    | mk result calls w' =>
      cases result with
      | none => rfl
      | some a => simp [Nat.add_right_comm n _ 1]

theorem plain_runAmong (p : Program α) (turns : Nat → Turn) (plain : ∃ s, w.store = ⟨s, []⟩) :
    ∃ s, (p.runAmong turns w).world.store = ⟨s, []⟩ := by
  induction p generalizing turns w with
  | done | stalled => exact plain
  | act action next ih =>
    obtain ⟨s, plain⟩ := plain
    exact ih _ _ (World.plain_answerIn plain (turns 0) action)

/-- However its turns are, if each of them fits, the program comes to an end, and with its calls and the world it
leaves it ends in a certain way. -/
def EndsAmong (fits : Turn → Prop) (p : Program α) (w : World) (ends : α → List Call → World → Prop) : Prop :=
  ∀ turns : Nat → Turn, (∀ n, fits (turns n)) →
    ∃ a calls w', p.runAmong turns w = ⟨some a, calls, w'⟩ ∧ ends a calls w'

namespace EndsAmong

theorem done {a : α} {ends : α → List Call → World → Prop} (here : ends a [] w) :
    (Program.done a).EndsAmong fits w ends :=
  fun _ _ => ⟨a, [], w, rfl, here⟩

theorem act {action : Action} {next : action.Answer → Program α} {ends : α → List Call → World → Prop}
    (each : ∀ t, fits t → (next (w.answerIn t action).1).EndsAmong fits (w.answerIn t action).2
      fun a calls w' => ends a (action.calls (w.answerIn t action).1 ++ calls) w') :
    (Program.act action next).EndsAmong fits w ends := by
  intro turns fit
  obtain ⟨a, calls, w', run, here⟩ := each (turns 0) (fit 0) (fun n => turns (n + 1)) fun n => fit (n + 1)
  exact ⟨a, _, w', by simp only [runAmong, run], here⟩

theorem mono {p : Program α} {ends weaker : α → List Call → World → Prop} (strong : p.EndsAmong fits w ends)
    (weaken : ∀ a calls w', ends a calls w' → weaker a calls w') : p.EndsAmong fits w weaker := by
  intro turns fit
  obtain ⟨a, calls, w', run, here⟩ := strong turns fit
  exact ⟨a, calls, w', run, weaken a calls w' here⟩

theorem bind {p : Program α} {f : α → Program β} {middle : α → List Call → World → Prop}
    {ends : β → List Call → World → Prop} (first : p.EndsAmong fits w middle)
    (second : ∀ a calls w', middle a calls w' →
      (f a).EndsAmong fits w' fun b later w'' => ends b (calls ++ later) w'') :
    (p.bind f).EndsAmong fits w ends := by
  intro turns fit
  obtain ⟨a, calls, w', run, here⟩ := first turns fit
  obtain ⟨n, joined⟩ := p.runAmong_bind f turns w
  obtain ⟨b, later, w'', rest, ended⟩ := second a calls w' here (fun k => turns (n + k)) fun k => fit (n + k)
  exact ⟨b, calls ++ later, w'', by simp only [joined, run, rest], ended⟩

theorem plain {p : Program α} {ends : α → List Call → World → Prop} (ended : p.EndsAmong fits w ends)
    (plain : ∃ s, w.store = ⟨s, []⟩) :
    p.EndsAmong fits w fun a calls w' => ends a calls w' ∧ ∃ s, w'.store = ⟨s, []⟩ := by
  intro turns fit
  obtain ⟨a, calls, w', run, here⟩ := ended turns fit
  have kept := p.plain_runAmong turns plain
  rw [run] at kept
  exact ⟨a, calls, w', run, here, kept⟩

theorem run {p : Program α} {ends : α → List Call → World → Prop} (ended : p.EndsAmong fits w ends) (alone : fits {}) :
    ∃ a calls w', p.run w = (some a, w') ∧ ends a calls w' := by
  obtain ⟨a, calls, w', ran, here⟩ := ended (fun _ => {}) fun _ => alone
  exact ⟨a, calls, w', by rw [runAmong_alone, ran], here⟩

end EndsAmong
end Program
end RecordStore
