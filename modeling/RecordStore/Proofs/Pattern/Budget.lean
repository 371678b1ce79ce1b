import Mathlib.Data.List.SplitBy
import RecordStore.Pattern.Footprint

/-!
# Expressions that fit

Building an automaton is given a budget of bytes: it succeeds if so much may still be taken, and what it has not used
is there for what is built next (`Build.Affords`). A set takes no more than the ranges of bytes that spell it, whatever
states happen to be remembered, and a literal no more than its characters, however the literals around it are fused.
-/

namespace RecordStore
namespace Pattern

open Text (CharSet)

variable {α β : Type}

namespace Build

/-- Within a budget building succeeds, and leaves something of the budget. -/
def Affords (x : Build α) (budget : Nat) (left : α → Nat) : Prop :=
  ∀ a : Automaton, a.size + budget ≤ Automaton.limit →
    ∃ r b, x a = some (r, b) ∧ b.size + left r ≤ a.size + budget

namespace Affords

theorem pure (r : α) (left : α → Nat) : Affords (Pure.pure r) (left r) left :=
  fun a _ => ⟨r, a, rfl, Nat.le_refl _⟩

theorem bind {x : Build α} {f : α → Build β} {budget rest : Nat} {left : α → Nat} {after : β → Nat}
    (first : Affords x budget left) (second : ∀ r, Affords (f r) (left r + rest) after) :
    Affords (x >>= f) (budget + rest) after := by
  intro a enough
  obtain ⟨r, b, built, small⟩ := first a (by omega)
  obtain ⟨s, c, more, smaller⟩ := second r b (by omega)
  refine ⟨s, c, ?_, by omega⟩
  change (x a).bind (fun p => f p.1 p.2) = _
  rw [built]
  exact more

theorem mono {x : Build α} {budget budget' : Nat} {left left' : α → Nat} (affords : Affords x budget left)
    (enough : ∀ r, left' r + budget ≤ left r + budget') (more : budget ≤ budget') : Affords x budget' left' := by
  intro a fits
  obtain ⟨r, b, built, small⟩ := affords a (by omega)
  have within := enough r
  exact ⟨r, b, built, by omega⟩

end Affords

abbrev Within (x : Build α) (budget : Nat) : Prop := Affords x budget fun _ => 0

namespace Within

theorem pure (r : α) : Within (Pure.pure r) 0 := Affords.pure r fun _ => 0

theorem bind {x : Build α} {f : α → Build β} {budget rest : Nat} (first : Within x budget)
    (second : ∀ r, Within (f r) rest) : Within (x >>= f) (budget + rest) :=
  Affords.bind first fun r => by simpa using second r

theorem mono {x : Build α} {budget more : Nat} (within : Within x budget) (le : budget ≤ more) : Within x more :=
  Affords.mono within (fun _ => by omega) le

end Within

theorem bounded?_eq {a : Automaton} (small : a.size ≤ Automaton.limit) : Automaton.bounded? a = some a := by
  rw [Automaton.bounded?, if_pos small]

theorem within_state (links : Nat) : Within (state links) (32 + links) := by
  intro a enough
  have size : Automaton.size ⟨a.states + 1, a.links + links⟩ = a.size + (32 + links) := by
    simp only [Automaton.size]
    omega
  refine ⟨a.states, ⟨a.states + 1, a.links + links⟩, ?_, Nat.le_of_eq size⟩
  rw [state, bounded?_eq (size ▸ enough)]
  rfl

theorem within_plain : Within plain 32 :=
  (within_state 0).bind fun _ => .pure ()

theorem within_link (fork : Bool) : Within (link fork) 4 := by
  intro a enough
  have size : Automaton.size ⟨a.states, a.links + (if fork then 4 else 0)⟩ ≤ a.size + 4 := by
    simp only [Automaton.size]
    split <;> omega
  refine ⟨(), _, ?_, size⟩
  rw [link, bounded?_eq (Nat.le_trans size enough)]
  rfl

theorem within_more {part : Build Bool} {budget : Nat} (affords : Within part budget) (count : Nat) (fork : Bool) :
    Within (more part count fork) (count * (budget + 4)) := by
  induction count generalizing fork with
  | zero => exact (Within.pure fork).mono (by omega)
  | succ count ih =>
    exact (affords.bind fun next => (within_link fork).bind fun _ => ih next).mono (by rw [Nat.succ_mul]; omega)

theorem within_times {part : Build Bool} {budget : Nat} (affords : Within part budget) (count : Nat) :
    Within (times part count) (32 + count * (budget + 4)) := by
  cases count with
  | zero => exact (within_plain.bind fun _ => .pure false).mono (by omega)
  | succ count => exact (affords.bind (within_more affords count)).mono (by rw [Nat.succ_mul]; omega)

end Build

namespace SetBuild

/-- Building a set within a budget, whatever states are remembered. -/
def Affords (x : SetBuild α) (budget : Nat) (left : α → Nat) : Prop :=
  ∀ m : Remembered, Build.Affords (x m) budget fun r => left r.1

namespace Affords

theorem pure (r : α) (left : α → Nat) : Affords (Pure.pure r) (left r) left :=
  fun m => Build.Affords.pure (r, m) fun r => left r.1

theorem bind {x : SetBuild α} {f : α → SetBuild β} {budget rest : Nat} {left : α → Nat} {after : β → Nat}
    (first : Affords x budget left) (second : ∀ r, Affords (f r) (left r + rest) after) :
    Affords (x >>= f) (budget + rest) after :=
  fun m => Build.Affords.bind (first m) fun r => second r.1 r.2

theorem mono {x : SetBuild α} {budget budget' : Nat} {left left' : α → Nat} (affords : Affords x budget left)
    (enough : ∀ r, left' r + budget ≤ left r + budget') (more : budget ≤ budget') : Affords x budget' left' :=
  fun m => (affords m).mono (fun r => enough r.1) more

end Affords

abbrev Within (x : SetBuild α) (budget : Nat) : Prop := Affords x budget fun _ => 0

namespace Within

theorem pure (r : α) : Within (Pure.pure r) 0 := Affords.pure r fun _ => 0

theorem bind {x : SetBuild α} {f : α → SetBuild β} {budget rest : Nat} (first : Within x budget)
    (second : ∀ r, Within (f r) rest) : Within (x >>= f) (budget + rest) :=
  Affords.bind first fun r => by simpa using second r

theorem mono {x : SetBuild α} {budget more : Nat} (within : Within x budget) (le : budget ≤ more) : Within x more :=
  Affords.mono within (fun _ => by omega) le

theorem get {f : Remembered → SetBuild β} {budget : Nat} (each : ∀ m, Within (f m) budget) :
    Within (MonadState.get >>= f) budget :=
  fun m => each m m

theorem modify (change : Remembered → Remembered) : Within (modify change) 0 :=
  fun m => Build.Affords.pure ((), change m) fun _ => 0

theorem lift {x : Build α} {budget : Nat} (within : Build.Within x budget) : Within (liftM x) budget := by
  intro m a enough
  obtain ⟨r, b, built, small⟩ := within a enough
  refine ⟨(r, m), b, ?_, small⟩
  change (x a).bind _ = _
  rw [built]
  rfl

end Within

theorem within_choice (edges : List Edge) : Within (choice edges) (32 + 8 * edges.length) := by
  refine .get fun m => .get fun m' => ?_
  split
  case h_1 state _ => exact (Within.pure state).mono (Nat.zero_le _)
  case h_2 =>
    exact (Within.lift (Build.within_state _)).bind fun state => (Within.modify _).bind fun _ => .pure state

/-- As soon as a spelling goes on, the ranges behind the first ones are fewer. -/
theorem length_tails {spellings : List (List (Nat × Nat))} (more : (spellings.map List.tail).all List.isEmpty = false) :
    (spellings.map List.tail).flatten.length + 1 ≤ spellings.flatten.length := by
  have shorter (spellings : List (List (Nat × Nat))) :
      (spellings.map List.tail).flatten.length ≤ spellings.flatten.length := by
    induction spellings with
    | nil => exact Nat.le_refl 0
    | cons spelling rest ih =>
      simp only [List.map_cons, List.flatten_cons, List.length_append, List.length_tail]
      omega
  induction spellings with
  | nil => cases more
  | cons spelling rest ih =>
    simp only [List.map_cons, List.flatten_cons, List.length_append]
    cases spelling with
    | nil => simpa using ih more
    | cons range spelling =>
      have fewer := shorter rest
      simp only [List.tail_cons, List.length_cons]
      omega

/-- The links of a state are paid for by the ranges that they are for. -/
theorem affords_groups (target depth : Nat)
    (tails : ∀ spellings, Within (forwards target depth spellings) (32 + 40 * spellings.flatten.length))
    (gs : List (List (List (Nat × Nat)))) :
    Affords (groups target depth gs) (40 * gs.flatten.flatten.length) fun edges => 8 * edges.length := by
  induction gs with
  | nil =>
    rw [groups]
    exact Affords.pure [] fun edges => 8 * edges.length
  | cons group rest ih =>
    -- the first range of a group pays for the link to it, and for the state that the link leads to
    let paid := 8 * min 1 group.flatten.length
    have others : Affords (groups target depth rest) (paid + 40 * rest.flatten.flatten.length)
        fun edges => 8 * edges.length + paid :=
      ih.mono (fun _ => by omega) (by omega)
    rw [groups, List.flatten_cons, List.flatten_append, List.length_append, Nat.mul_add]
    split
    case' isTrue =>
      have here : Affords (pure target) (40 * group.flatten.length) fun _ => paid :=
        (Affords.pure target fun _ => 0).mono (fun _ => by omega) (Nat.zero_le _)
    case' isFalse more =>
      have fewer := length_tails (Bool.eq_false_iff.mpr more)
      have here : Affords (forwards target depth (group.map List.tail)) (40 * group.flatten.length) fun _ => paid :=
        Affords.mono (tails _) (fun _ => by omega) (by omega)
    all_goals
      refine here.bind fun next => ?_
      change Affords _ (paid + 40 * rest.flatten.flatten.length + 0) _
      refine others.bind fun edges => ?_
      split
      case h_1 =>
        have one : paid = 8 := by simp [paid]
        exact (Affords.pure _ fun edges => 8 * edges.length).mono (fun _ => by simp only [List.length_cons]; omega)
          (by simp only [List.length_cons]; omega)
      case h_2 => exact (Affords.pure edges fun edges => 8 * edges.length).mono (fun _ => by omega) (by omega)

theorem within_forwards (target depth : Nat) (spellings : List (List (Nat × Nat))) :
    Within (forwards target depth spellings) (32 + 40 * spellings.flatten.length) := by
  induction depth generalizing spellings with
  | zero =>
    rw [forwards]
    exact (Within.pure target).mono (Nat.zero_le _)
  | succ depth ih =>
    have links := affords_groups target depth ih (spellings.splitBy fun a b => a.head? = b.head?)
    rw [List.flatten_splitBy] at links
    rw [forwards, Nat.add_comm 32]
    exact links.bind fun edges => (within_choice edges).mono (by omega)

theorem within_backwards (target : Nat) (spelling : List (Nat × Nat)) :
    Within (backwards target spelling) (32 * spelling.length) := by
  induction spelling generalizing target with
  | nil => exact .pure target
  | cons range rest ih =>
    refine .get fun m => .get fun m' => ?_
    split
    case h_1 state _ => exact (ih state).mono (by rw [List.length_cons]; omega)
    case h_2 =>
      refine ((Within.lift (Build.within_state 0)).bind fun state => (Within.modify _).bind fun _ => ih state).mono ?_
      rw [List.length_cons]
      omega

theorem within_allBackwards (target : Nat) (spellings : List (List (Nat × Nat))) :
    Within (allBackwards target spellings) (32 * spellings.flatten.length + 4 * spellings.length) := by
  induction spellings with
  | nil => exact .pure ()
  | cons spelling rest ih =>
    refine ((within_backwards target spelling).bind fun _ =>
      (Within.lift (Build.within_link true)).bind fun _ => ih).mono ?_
    simp only [List.flatten_cons, List.length_append, List.length_cons]
    omega

theorem Within.run' {x : SetBuild α} {budget : Nat} (within : Within x budget) (m : Remembered) :
    Build.Within (StateT.run' x m) budget := by
  intro a enough
  obtain ⟨r, b, built, small⟩ := within m a enough
  refine ⟨r.1, b, ?_, small⟩
  change (x m a).bind _ = _
  rw [built]
  rfl

/-- A set takes no more than its ranges and the bytes that spell them. -/
theorem within_build (reversed : Bool) (s : CharSet) :
    Build.Within (build reversed s) (64 + 8 * s.ranges.length +
      40 * (s.ranges.flatMap Text.Utf8.spellings).flatten.length +
      4 * (s.ranges.flatMap Text.Utf8.spellings).length) := by
  unfold build
  split
  · exact (Build.within_plain.bind fun _ => (Build.within_state _).bind fun _ => .pure false).mono (by omega)
  split
  · exact (Build.within_plain.bind fun _ => (Build.within_state 0).bind fun target =>
      ((within_allBackwards target _).run' _).bind fun _ => .pure false).mono (by omega)
  · exact ((Build.within_state 0).bind fun target =>
      ((within_forwards target 4 _).run' _).bind fun _ => .pure false).mono (by omega)

end SetBuild

namespace Expression

open Build (Within)

/-- The bytes that are enough for an expression of a wildcard pattern and the link behind it. -/
def room : Expression → Nat
  | literal cs => 650 * (cs.length + 1)
  | _ => 1300

/-- An expression that can be built in its room, in both directions. -/
def Modest (e : Expression) : Prop := ∀ reversed, Within (e.build reversed) (e.room - 4)

theorem utf8Length_le (c : Nat) : Text.Utf8.length c ≤ 4 := by
  unfold Text.Utf8.length
  repeat' split
  all_goals decide

theorem modest_literal (cs : List Char) : Modest (literal cs) := by
  intro reversed
  have bytes (n : Nat) : cs.foldl (fun n c => n + Text.Utf8.length c.toNat) n ≤ n + 4 * cs.length := by
    induction cs generalizing n with
    | nil => exact Nat.le_refl n
    | cons c rest ih =>
      have one := utf8Length_le c.toNat
      have more := ih (n + Text.Utf8.length c.toNat)
      simp only [List.foldl_cons, List.length_cons]
      omega
  have part : Within (do Build.plain; return false) 32 := Build.within_plain.bind fun _ => .pure false
  have enough := bytes 0
  rw [build]
  refine (Build.within_times part _).mono ?_
  simp only [room]
  omega

theorem modest_look (l : Look) : Modest (look l) := by
  intro reversed
  rw [build]
  exact (Build.within_plain.bind fun _ => .pure false).mono (by simp [room])

theorem within_any (reversed : Bool) : Within ((oneOf .all true).build reversed) 1188 := by
  rw [build]
  exact (SetBuild.within_build reversed .all).mono (by decide +kernel)

theorem modest_any : Modest (oneOf .all true) :=
  fun reversed => (within_any reversed).mono (by decide)

theorem modest_run : Modest (repetition true 0 none (oneOf .all true)) := by
  intro reversed
  rw [build, if_pos (by decide)]
  exact (Build.within_plain.bind fun _ => (within_any reversed).bind fun fork => (Build.within_link true).bind fun _ =>
    (Build.within_link fork).bind fun _ => .pure true).mono (by decide)

def rooms : List Expression → Nat
  | [] => 0
  | e :: rest => e.room + rooms rest

theorem modest_fuse {es : List Expression} (each : ∀ e ∈ es, Modest e) : ∀ e ∈ fuse es, Modest e := by
  induction es with
  | nil => exact each
  | cons e rest ih =>
    have others := ih fun e among => each e (.tail _ among)
    unfold fuse
    split
    case h_1 a b rest' fused =>
      rw [fused] at others
      rintro e (_ | ⟨_, among⟩)
      · exact modest_literal (a ++ b)
      · exact others e (.tail _ among)
    case h_2 =>
      rintro e (_ | ⟨_, among⟩)
      · exact each _ (.head _)
      · exact others e among

/-- Literals that are fused need no more room than apart. -/
theorem rooms_fuse (es : List Expression) : rooms (fuse es) ≤ rooms es := by
  induction es with
  | nil => exact Nat.le_refl 0
  | cons e rest ih =>
    unfold fuse
    split
    case h_1 a b rest' fused =>
      rw [fused] at ih
      simp only [rooms, room, List.length_append] at ih ⊢
      omega
    case h_2 => exact Nat.add_le_add_left ih _

theorem four_le_room (e : Expression) : 4 ≤ e.room := by
  cases e <;> simp only [room] <;> omega

theorem within_buildSequence (reversed : Bool) {es : List Expression} (each : ∀ e ∈ es, Modest e) :
    Within (buildSequence reversed es) (32 + rooms es) := by
  induction es with
  | nil =>
    rw [buildSequence]
    exact Build.within_plain.bind fun _ => .pure false
  | cons e rest ih =>
    have first := each e (.head _) reversed
    have others := ih fun e among => each e (.tail _ among)
    have link := four_le_room e
    have sum : rooms (e :: rest) = e.room + rooms rest := rfl
    cases rest with
    | nil =>
      rw [buildSequence]
      exact first.mono (by omega)
    | cons e' rest =>
      rw [buildSequence]
      · split
        · exact (others.bind fun fork => first.bind fun last => (Build.within_link fork).bind fun _ =>
            .pure last).mono (by omega)
        · exact (first.bind fun fork => (Build.within_link fork).bind fun _ => others).mono (by omega)
      · simp

theorem build_inSequence (reversed : Bool) (es : List Expression) :
    (inSequence es).build reversed = buildSequence reversed (fuse (es.flatMap parts)) := by
  unfold inSequence
  split
  case h_1 none => rw [none, build, buildSequence]
  case h_2 one => rw [one, buildSequence]
  case h_3 => rw [build]

theorem within_buildWhole {e : Expression} {budget : Nat} (body : ∀ reversed, Within (e.build reversed) budget)
    (reversed : Bool) : Within (buildWhole reversed e) (216 + budget) := by
  have inside : Within ((capture e).build reversed) (68 + budget) := by
    rw [build]
    split
    · exact (body reversed).mono (by omega)
    · exact (Build.within_plain.bind fun _ => (body reversed).bind fun fork => Build.within_plain.bind fun _ =>
        (Build.within_link fork).bind fun _ => .pure false).mono (by omega)
  have around (anchored : Bool) := inside.bind fun fork => Build.within_plain.bind fun _ =>
    (Build.within_link fork).bind fun _ => Build.within_link (!anchored)
  unfold buildWhole
  simp only
  generalize (if reversed = true then e.trails .textEnd else e.leads .textStart) = anchored
  cases anchored
  · exact (Build.within_plain.bind fun _ => Build.within_plain.bind fun _ => (Build.within_state 8).bind fun _ =>
      (Build.within_link true).bind fun _ => around false).mono (by omega)
  · exact (Build.within_plain.bind fun _ => around true).mono (by omega)

/-- What can be built within the limit fits. -/
theorem fits_of_within {e : Expression} {budget : Nat} (body : ∀ reversed, Within (e.build reversed) budget)
    (small : 216 + budget ≤ Automaton.limit) : e.fits = true := by
  have whole (reversed : Bool) : (buildWhole reversed e ⟨0, 0⟩).isSome = true := by
    obtain ⟨r, b, built, -⟩ := within_buildWhole body reversed ⟨0, 0⟩ (by simpa [Automaton.size] using small)
    rw [built]
    rfl
  unfold fits
  simp [whole]

end Expression

end Pattern
end RecordStore
