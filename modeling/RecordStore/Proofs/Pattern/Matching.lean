import Mathlib.Logic.Relation
import RecordStore.Pattern.Regex

/-!
# What regular expressions match

`Regex.Leads` says, without an algorithm, from which places of a text an expression leads to which others. Matching by
marks decides it: the marks stand for the matches in progress (`Marked.Continues`), and moving them over a character
keeps exactly those that go on behind it. So a search finds a match if there is one (`Regex.matchesIn_iff`).
-/

namespace RecordStore
namespace Pattern

/-- A place in a text: the character before it, and what comes after it. -/
structure Place where
  before : Option Char
  rest : List Char

namespace Place

/-- The place behind the next character. -/
inductive Step : Place → Place → Prop where
  | across (before : Option Char) (c : Char) (rest : List Char) : Step ⟨before, c :: rest⟩ ⟨some c, rest⟩

/-- A place, or one further on in the same text. -/
def Later : Place → Place → Prop :=
  Relation.ReflTransGen Step

/-- A place does not come after another. -/
def NotAfter (p q : Place) : Prop :=
  q = p ∨ q.rest.length < p.rest.length

theorem NotAfter.refl (p : Place) : p.NotAfter p :=
  .inl rfl

theorem NotAfter.trans {p q r : Place} (first : p.NotAfter q) (second : q.NotAfter r) : p.NotAfter r := by
  rcases second with rfl | shorter
  · exact first
  · rcases first with rfl | before
    · exact .inr shorter
    · exact .inr (Nat.lt_trans shorter before)

theorem NotAfter.antisymm {p q : Place} (there : p.NotAfter q) (back : q.NotAfter p) : q = p := by
  rcases there with same | shorter
  · exact same
  · rcases back with same | longer
    · exact same.symm
    · omega

/-- What lies strictly behind a place stays there. -/
theorem NotAfter.ne {p q r : Place} (first : p.NotAfter q) (moved : q ≠ p) (second : q.NotAfter r) : r ≠ p := by
  rintro rfl
  exact moved (first.antisymm second)

end Place

/-! ### The relation of an expression -/

namespace Regex

/-- An expression leads from one place to another: it matches what stands between them. -/
def Leads : Regex → Place → Place → Prop
  | empty, p, q => q = p
  | look l, p, q => l.holds p.before p.rest.head? = true ∧ q = p
  | one s, p, q => ∃ c rest, p.rest = c :: rest ∧ s.mem c = true ∧ q = ⟨some c, rest⟩
  | cat a b, p, q => ∃ m, a.Leads p m ∧ b.Leads m q
  | alt a b, p, q => a.Leads p q ∨ b.Leads p q
  | plus a, p, q => Relation.TransGen a.Leads p q

theorem Leads.notAfter {r : Regex} {p q : Place} (leads : r.Leads p q) : p.NotAfter q := by
  induction r generalizing p q with
  | empty => exact .inl leads
  | look l => exact .inl leads.2
  | one s =>
    obtain ⟨c, rest, here, -, rfl⟩ := leads
    exact .inr (by simp [here])
  | cat a b first second =>
    obtain ⟨m, left, right⟩ := leads
    exact (first left).trans (second right)
  | alt a b first second => exact leads.elim first second
  | plus a ih =>
    induction leads with
    | single leads => exact ih leads
    | tail _ last before => exact before.trans (ih last)

theorem notAfter_of_star {r : Regex} {p q : Place} (leads : Relation.ReflTransGen r.Leads p q) : p.NotAfter q := by
  induction leads with
  | refl => exact .refl p
  | tail _ last before => exact before.trans last.notAfter

/-- Repetitions that get anywhere have a first one that does. -/
theorem exists_moving {r : Regex} {p q : Place} (leads : Relation.ReflTransGen r.Leads p q) (moved : q ≠ p) :
    ∃ m, r.Leads p m ∧ m ≠ p ∧ Relation.ReflTransGen r.Leads m q := by
  induction leads using Relation.ReflTransGen.head_induction_on with
  | refl => exact absurd rfl moved
  | @head p m first rest ih =>
    by_cases still : m = p
    · subst still
      exact ih moved
    · exact ⟨m, first, still, rest⟩

end Regex

/-! ### Matches in progress -/

namespace Marked

def erase : Marked → Regex
  | empty => .empty
  | look l => .look l
  | one _ s => .one s
  | cat _ a b => .cat a.erase b.erase
  | alt _ a b => .alt a.erase b.erase
  | plus _ a => .plus a.erase

/-- A match in progress at a place, which is where some mark has just been set, leads to another place. -/
def Continues : Marked → Place → Place → Prop
  | empty, _, _ | look _, _, _ => False
  | one marked _, p, q => marked = true ∧ q = p
  | cat _ a b, p, q => (∃ m, a.Continues p m ∧ b.erase.Leads m q) ∨ b.Continues p q
  | alt _ a b, p, q => a.Continues p q ∨ b.Continues p q
  | plus _ a, p, q => ∃ m, a.Continues p m ∧ Relation.ReflTransGen a.erase.Leads m q

/-- A match that is in progress at a place, or that may start there, leads to another place. -/
def Reaches (m : Marked) (enter : Bool) (p q : Place) : Prop :=
  m.Continues p q ∨ enter = true ∧ m.erase.Leads p q

/-- A part that says that there is no mark in it has none. -/
def Honest : Marked → Prop
  | empty | look _ | one _ _ => True
  | cat marked a b | alt marked a b =>
    a.Honest ∧ b.Honest ∧ (marked = false → a.isMarked = false ∧ b.isMarked = false)
  | plus marked a => a.Honest ∧ (marked = false → a.isMarked = false)

variable {m : Marked} {enter : Bool} {p q : Place}

theorem erase_unmarked (r : Regex) : r.unmarked.erase = r := by
  induction r with
  | empty | look | one => rfl
  | cat a b first second | alt a b first second => simp only [Regex.unmarked, erase, first, second]
  | plus a ih => simp only [Regex.unmarked, erase, ih]

theorem isMarked_unmarked (r : Regex) : r.unmarked.isMarked = false := by
  cases r <;> rfl

theorem honest_unmarked (r : Regex) : r.unmarked.Honest := by
  induction r with
  | empty | look | one => trivial
  | cat a b first second | alt a b first second =>
    exact ⟨first, second, fun _ => ⟨isMarked_unmarked a, isMarked_unmarked b⟩⟩
  | plus a ih => exact ⟨ih, fun _ => isMarked_unmarked a⟩

theorem not_continues (honest : m.Honest) (unmarked : m.isMarked = false) : ¬m.Continues p q := by
  induction m generalizing p q with
  | empty | look => exact id
  | one marked s =>
    rintro ⟨on, -⟩
    cases unmarked.symm.trans on
  | cat marked a b first second =>
    obtain ⟨honestA, honestB, clear⟩ := honest
    rintro (⟨m, goes, -⟩ | goes)
    · exact first honestA (clear unmarked).1 goes
    · exact second honestB (clear unmarked).2 goes
  | alt marked a b first second =>
    obtain ⟨honestA, honestB, clear⟩ := honest
    rintro (goes | goes)
    · exact first honestA (clear unmarked).1 goes
    · exact second honestB (clear unmarked).2 goes
  | plus marked a ih =>
    obtain ⟨honestA, clear⟩ := honest
    rintro ⟨m, goes, -⟩
    exact ih honestA (clear unmarked) goes

theorem Continues.notAfter (goes : m.Continues p q) : p.NotAfter q := by
  induction m generalizing p q with
  | empty | look => exact goes.elim
  | one marked s => exact .inl goes.2
  | cat marked a b first second =>
    rcases goes with ⟨m, left, right⟩ | right
    · exact (first left).trans right.notAfter
    · exact second right
  | alt marked a b first second => exact goes.elim first second
  | plus marked a ih =>
    obtain ⟨m, first, rest⟩ := goes
    exact (ih first).trans (Regex.notAfter_of_star rest)

theorem Reaches.notAfter (reaches : m.Reaches enter p q) : p.NotAfter q :=
  reaches.elim Continues.notAfter fun ⟨_, leads⟩ => leads.notAfter

/-- What has no mark and is not entered reaches nothing. -/
theorem not_reaches (honest : m.Honest) (idle : (m.isMarked || enter) = false) : ¬m.Reaches enter p q := by
  obtain ⟨unmarked, closed⟩ := Bool.or_eq_false_iff.mp idle
  rintro (goes | ⟨on, -⟩)
  · exact not_continues honest unmarked goes
  · cases closed.symm.trans on

/-! ### One part after another -/

theorem reaches_cat {marked : Bool} {a b : Marked} :
    (cat marked a b).Reaches enter p q ↔ (∃ m, a.Reaches enter p m ∧ b.erase.Leads m q) ∨ b.Continues p q := by
  constructor
  · rintro ((⟨m, left, right⟩ | right) | ⟨on, m, left, right⟩)
    · exact .inl ⟨m, .inl left, right⟩
    · exact .inr right
    · exact .inl ⟨m, .inr ⟨on, left⟩, right⟩
  · rintro (⟨m, left | ⟨on, left⟩, right⟩ | right)
    · exact .inl (.inl ⟨m, left, right⟩)
    · exact .inr ⟨on, m, left, right⟩
    · exact .inl (.inr right)

theorem reaches_alt {marked : Bool} {a b : Marked} :
    (alt marked a b).Reaches enter p q ↔ a.Reaches enter p q ∨ b.Reaches enter p q := by
  constructor
  · rintro ((left | right) | ⟨on, left | right⟩)
    · exact .inl (.inl left)
    · exact .inr (.inl right)
    · exact .inl (.inr ⟨on, left⟩)
    · exact .inr (.inr ⟨on, right⟩)
  · rintro ((left | ⟨on, left⟩) | right | ⟨on, right⟩)
    · exact .inl (.inl left)
    · exact .inr ⟨on, .inl left⟩
    · exact .inl (.inr right)
    · exact .inr ⟨on, .inr right⟩

theorem reaches_plus {marked : Bool} {a : Marked} :
    (plus marked a).Reaches enter p q ↔ ∃ m, a.Reaches enter p m ∧ Relation.ReflTransGen a.erase.Leads m q := by
  constructor
  · rintro (⟨m, first, rest⟩ | ⟨on, leads⟩)
    · exact ⟨m, .inl first, rest⟩
    · obtain ⟨m, first, rest⟩ := Relation.TransGen.head'_iff.mp leads
      exact ⟨m, .inr ⟨on, first⟩, rest⟩
  · rintro ⟨m, first | ⟨on, first⟩, rest⟩
    · exact .inl ⟨m, first, rest⟩
    · exact .inr ⟨on, Relation.TransGen.head' first rest⟩

/-! ### Where a match ends -/

/-- Whether a match ends behind an expression is asked of the one place where it stands. -/
theorem leaves_iff (honest : m.Honest) (enter : Bool) (p : Place) :
    m.leaves p.before p.rest.head? enter = true ↔ m.Reaches enter p p := by
  induction m generalizing enter with
  | empty => simp [leaves, Reaches, Continues, erase, Regex.Leads]
  | look l => simp [leaves, Reaches, Continues, erase, Regex.Leads]
  | one marked s =>
    have stuck : ¬(Regex.one s).Leads p p := by
      rintro ⟨c, rest, here, -, same⟩
      have shorter := congrArg List.length (congrArg Place.rest same)
      simp [here] at shorter
    simp [leaves, Reaches, Continues, erase, stuck]
  | cat marked a b first second =>
    obtain ⟨honestA, honestB, -⟩ := id honest
    cases busy : marked || enter with
    | false => simp [leaves, busy, not_reaches honest busy]
    | true =>
      rw [leaves, busy, Bool.true_and, second honestB, reaches_cat]
      constructor
      · rintro (goes | ⟨entered, leads⟩)
        · exact .inr goes
        · exact .inl ⟨p, (first honestA enter).mp entered, leads⟩
      · rintro (⟨m, left, right⟩ | goes)
        · obtain rfl := left.notAfter.antisymm right.notAfter
          exact .inr ⟨(first honestA enter).mpr left, right⟩
        · exact .inl goes
  | alt marked a b first second =>
    obtain ⟨honestA, honestB, -⟩ := id honest
    cases busy : marked || enter with
    | false => simp [leaves, busy, not_reaches honest busy]
    | true => rw [leaves, busy, Bool.true_and, Bool.or_eq_true, first honestA, second honestB, reaches_alt]
  | plus marked a ih =>
    obtain ⟨honestA, -⟩ := id honest
    cases busy : marked || enter with
    | false => simp [leaves, busy, not_reaches honest busy]
    | true =>
      rw [leaves, busy, Bool.true_and, ih honestA, reaches_plus]
      constructor
      · exact fun here => ⟨p, here, .refl⟩
      · rintro ⟨m, first, rest⟩
        obtain rfl := first.notAfter.antisymm (Regex.notAfter_of_star rest)
        exact first

/-! ### Over the next character -/

/-- What marks become when they are moved over a character: the matches in progress behind it are those that go on
from the place before it and do not end there. -/
structure Moves (m : Marked) (enter : Bool) (before : Option Char) (c : Char) (rest : List Char) (x : Shifted) :
    Prop where
  leaves : x.leaves = true ↔ m.Reaches enter ⟨before, c :: rest⟩ ⟨before, c :: rest⟩
  honest : x.next.Honest
  erase : x.next.erase = m.erase
  goes : ∀ q, x.next.Continues ⟨some c, rest⟩ q ↔
    m.Reaches enter ⟨before, c :: rest⟩ q ∧ q ≠ ⟨before, c :: rest⟩

variable {before : Option Char} {c : Char} {rest : List Char}

theorem moves_idle (honest : m.Honest) (idle : (m.isMarked || enter) = false) :
    m.Moves enter before c rest ⟨false, m⟩ where
  leaves := by simp [not_reaches honest idle]
  honest := honest
  erase := rfl
  goes q := by
    simp [not_reaches honest idle, not_continues honest (Bool.or_eq_false_iff.mp idle).1]

theorem moves_cat {marked : Bool} {a b : Marked} {x y : Shifted} (first : a.Moves enter before c rest x)
    (second : b.Moves x.leaves before c rest y) :
    (cat marked a b).Moves enter before c rest
      ⟨y.leaves, cat (x.next.isMarked || y.next.isMarked) x.next y.next⟩ where
  leaves := by
    rw [second.leaves, reaches_cat]
    constructor
    · rintro (goes | ⟨entered, leads⟩)
      · exact .inr goes
      · exact .inl ⟨_, first.leaves.mp entered, leads⟩
    · rintro (⟨m, left, right⟩ | goes)
      · obtain rfl := left.notAfter.antisymm right.notAfter
        exact .inr ⟨first.leaves.mpr left, right⟩
      · exact .inl goes
  honest := ⟨first.honest, second.honest, Bool.or_eq_false_iff.mp⟩
  erase := by simp only [Marked.erase, first.erase, second.erase]
  goes q := by
    rw [reaches_cat]
    constructor
    · rintro (⟨m, left, right⟩ | goes)
      · obtain ⟨left, moved⟩ := (first.goes m).mp left
        rw [second.erase] at right
        exact ⟨.inl ⟨m, left, right⟩, left.notAfter.ne moved right.notAfter⟩
      · obtain ⟨goes | ⟨entered, leads⟩, moved⟩ := (second.goes q).mp goes
        · exact ⟨.inr goes, moved⟩
        · exact ⟨.inl ⟨_, first.leaves.mp entered, leads⟩, moved⟩
    · rintro ⟨⟨m, left, right⟩ | goes, moved⟩
      · by_cases still : m = ⟨before, c :: rest⟩
        · subst still
          exact .inr ((second.goes q).mpr ⟨.inr ⟨first.leaves.mpr left, right⟩, moved⟩)
        · exact .inl ⟨m, (first.goes m).mpr ⟨left, still⟩, second.erase ▸ right⟩
      · exact .inr ((second.goes q).mpr ⟨.inl goes, moved⟩)

theorem moves_alt {marked : Bool} {a b : Marked} {x y : Shifted} (first : a.Moves enter before c rest x)
    (second : b.Moves enter before c rest y) :
    (alt marked a b).Moves enter before c rest
      ⟨x.leaves || y.leaves, alt (x.next.isMarked || y.next.isMarked) x.next y.next⟩ where
  leaves := by rw [Bool.or_eq_true, first.leaves, second.leaves, reaches_alt]
  honest := ⟨first.honest, second.honest, Bool.or_eq_false_iff.mp⟩
  erase := by simp only [Marked.erase, first.erase, second.erase]
  goes q := by
    rw [reaches_alt, or_and_right, ← first.goes, ← second.goes]
    rfl

/-- A repetition may go round again before the character, as often as it gets nowhere by that. -/
theorem moves_plus {marked : Bool} {a : Marked} {x : Shifted} {enter' : Bool} (honest : a.Honest)
    (again : enter' = (enter || a.leaves before (some c) false)) (first : a.Moves enter' before c rest x) :
    (plus marked a).Moves enter before c rest ⟨x.leaves, plus x.next.isMarked x.next⟩ := by
  have round : a.leaves before (some c) false = true ↔
      a.Reaches false ⟨before, c :: rest⟩ ⟨before, c :: rest⟩ := leaves_iff honest false ⟨before, c :: rest⟩
  -- entering once more adds nothing to what the repetition reaches
  have widened : ∀ m, a.Reaches enter' ⟨before, c :: rest⟩ m →
      ∃ n, a.Reaches enter ⟨before, c :: rest⟩ n ∧ Relation.ReflTransGen a.erase.Leads n m := by
    rintro m (goes | ⟨entered, leads⟩)
    · exact ⟨m, .inl goes, .refl⟩
    · rw [again, Bool.or_eq_true] at entered
      rcases entered with entered | ended
      · exact ⟨m, .inr ⟨entered, leads⟩, .refl⟩
      · rcases round.mp ended with goes | ⟨on, -⟩
        · exact ⟨_, .inl goes, .single leads⟩
        · cases on
  have narrow : ∀ m, a.Reaches enter ⟨before, c :: rest⟩ m → a.Reaches enter' ⟨before, c :: rest⟩ m := by
    rintro m (goes | ⟨entered, leads⟩)
    · exact .inl goes
    · exact .inr ⟨by rw [again, entered, Bool.true_or], leads⟩
  refine ⟨?_, ⟨first.honest, id⟩, by simp only [Marked.erase, first.erase], fun q => ?_⟩
  · rw [first.leaves, reaches_plus]
    constructor
    · intro here
      exact widened _ here
    · rintro ⟨m, left, right⟩
      obtain rfl := left.notAfter.antisymm (Regex.notAfter_of_star right)
      exact narrow _ left
  · rw [reaches_plus]
    constructor
    · rintro ⟨m, left, right⟩
      obtain ⟨left, moved⟩ := (first.goes m).mp left
      rw [first.erase] at right
      obtain ⟨n, start, there⟩ := widened m left
      exact ⟨⟨n, start, there.trans right⟩, left.notAfter.ne moved (Regex.notAfter_of_star right)⟩
    · rintro ⟨⟨m, left, right⟩, moved⟩
      by_cases still : m = ⟨before, c :: rest⟩
      · subst still
        obtain ⟨n, leads, away, further⟩ := Regex.exists_moving right moved
        have entered : enter' = true := by
          rcases left with goes | ⟨on, -⟩
          · rw [again, Bool.or_eq_true]
            exact .inr (round.mpr (.inl goes))
          · rw [again, on, Bool.true_or]
        exact ⟨n, (first.goes n).mpr ⟨.inr ⟨entered, leads⟩, away⟩, first.erase ▸ further⟩
      · exact ⟨m, (first.goes m).mpr ⟨narrow m left, still⟩, first.erase ▸ right⟩

theorem shift_moves (honest : m.Honest) (enter : Bool) (before : Option Char) (c : Char) (rest : List Char) :
    m.Moves enter before c rest (m.shift before c enter) := by
  induction m generalizing enter with
  | empty =>
    refine ⟨by simp [shift, Reaches, Continues, erase, Regex.Leads], trivial, rfl, fun q => ?_⟩
    simp [shift, Reaches, Continues, erase, Regex.Leads]
  | look l =>
    refine ⟨by simp [shift, Reaches, Continues, erase, Regex.Leads], trivial, rfl, fun q => ?_⟩
    simp [shift, Reaches, Continues, erase, Regex.Leads]
  | one marked s =>
    refine ⟨by simp [shift, Reaches, Continues, erase, Regex.Leads], trivial, rfl, fun q => ?_⟩
    have apart : q = ⟨some c, rest⟩ → q ≠ ⟨before, c :: rest⟩ := by
      rintro rfl same
      have shorter := congrArg List.length (congrArg Place.rest same)
      simp at shorter
    simp only [shift, Reaches, Continues, erase, Regex.Leads, Bool.and_eq_true]
    constructor
    · rintro ⟨⟨on, taken⟩, here⟩
      exact ⟨.inr ⟨on, c, rest, rfl, taken, here⟩, apart here⟩
    · rintro ⟨⟨-, here⟩ | ⟨on, d, more, whole, taken, here⟩, moved⟩
      · exact absurd here moved
      · obtain ⟨rfl, rfl⟩ := List.cons.inj whole
        exact ⟨⟨on, taken⟩, here⟩
  | cat marked a b first second =>
    obtain ⟨honestA, honestB, -⟩ := id honest
    cases busy : marked || enter with
    | false => simpa [shift, busy] using moves_idle honest busy
    | true => simpa [shift, busy] using moves_cat (first honestA enter) (second honestB _)
  | alt marked a b first second =>
    obtain ⟨honestA, honestB, -⟩ := id honest
    cases busy : marked || enter with
    | false => simpa [shift, busy] using moves_idle honest busy
    | true => simpa [shift, busy] using moves_alt (first honestA enter) (second honestB enter)
  | plus marked a ih =>
    obtain ⟨honestA, -⟩ := id honest
    cases busy : marked || enter with
    | false => simpa [shift, busy] using moves_idle honest busy
    | true => simpa [shift, busy] using moves_plus honestA rfl (ih honestA _)

/-! ### Searching -/

/-- A search finds out whether a match in progress goes on to somewhere, or one that starts at the place or later. -/
theorem search_iff (honest : m.Honest) (before : Option Char) (text : List Char) :
    m.search before text = true ↔
      (∃ q, m.Continues ⟨before, text⟩ q) ∨ ∃ p q, Place.Later ⟨before, text⟩ p ∧ m.erase.Leads p q := by
  induction text generalizing m before with
  | nil =>
    have still {q : Place} (notAfter : Place.NotAfter ⟨before, []⟩ q) : q = ⟨before, []⟩ :=
      notAfter.resolve_right (Nat.not_lt_zero _)
    refine (leaves_iff honest true ⟨before, []⟩).trans ⟨?_, ?_⟩
    · rintro (goes | ⟨-, leads⟩)
      · exact .inl ⟨_, goes⟩
      · exact .inr ⟨_, _, .refl, leads⟩
    · rintro (⟨q, goes⟩ | ⟨p, q, later, leads⟩)
      · obtain rfl := still goes.notAfter
        exact .inl goes
      · rcases Relation.ReflTransGen.cases_head later with rfl | ⟨-, ⟨⟩, -⟩
        obtain rfl := still leads.notAfter
        exact .inr ⟨rfl, leads⟩
  | cons c rest ih =>
    have moves := shift_moves honest true before c rest
    have found {q : Place} (reaches : m.Reaches true ⟨before, c :: rest⟩ q) :
        (m.shift before c true).leaves = true ∨ ∃ q, (m.shift before c true).next.Continues ⟨some c, rest⟩ q := by
      by_cases still : q = ⟨before, c :: rest⟩
      · exact .inl (moves.leaves.mpr (still ▸ reaches))
      · exact .inr ⟨q, (moves.goes q).mpr ⟨reaches, still⟩⟩
    have given {q : Place} : m.Reaches true ⟨before, c :: rest⟩ q →
        (∃ q, m.Continues ⟨before, c :: rest⟩ q) ∨
          ∃ p q, Place.Later ⟨before, c :: rest⟩ p ∧ m.erase.Leads p q := by
      rintro (goes | ⟨-, leads⟩)
      · exact .inl ⟨q, goes⟩
      · exact .inr ⟨_, q, .refl, leads⟩
    rw [search, Bool.or_eq_true, ih moves.honest, moves.erase]
    constructor
    · rintro (here | ⟨q, goes⟩ | ⟨p, q, later, leads⟩)
      · exact given (moves.leaves.mp here)
      · exact given ((moves.goes q).mp goes).1
      · exact .inr ⟨p, q, .head (.across before c rest) later, leads⟩
    · rintro (⟨q, goes⟩ | ⟨p, q, later, leads⟩)
      · exact (found (.inl goes)).imp_right .inl
      · rcases Relation.ReflTransGen.cases_head later with rfl | ⟨p', ⟨⟩, later⟩
        · exact (found (.inr ⟨rfl, leads⟩)).imp_right .inl
        · exact .inr (.inr ⟨p, q, later, leads⟩)

end Marked

/-- An expression matches in a text if it leads from one place of the text to another. -/
theorem Regex.matchesIn_iff (r : Regex) (text : String) :
    r.matchesIn text = true ↔ ∃ p q, Place.Later ⟨none, text.toList⟩ p ∧ r.Leads p q := by
  unfold Regex.matchesIn
  rw [Marked.search_iff (Marked.honest_unmarked r), Marked.erase_unmarked]
  refine or_iff_right ?_
  rintro ⟨q, goes⟩
  exact Marked.not_continues (Marked.honest_unmarked r) (Marked.isMarked_unmarked r) goes

end Pattern
end RecordStore
