import RecordStore.Pattern.Expression
import RecordStore.Proofs.Pattern.Matching

/-!
# Expressions one after another

A sequence is kept in a form of its own: balanced as a tree, without empty parts, and with literals joined. None of
this changes where it leads (`Expression.leads_inSequence`).
-/

namespace RecordStore
namespace Pattern
namespace Regex

/-- Expressions one after another lead from one place to another. -/
def Chain : List Regex → Place → Place → Prop
  | [], p, q => q = p
  | r :: rs, p, q => ∃ m, r.Leads p m ∧ Chain rs m q

theorem chain_append {rs ss : List Regex} {p q : Place} :
    Chain (rs ++ ss) p q ↔ ∃ m, Chain rs p m ∧ Chain ss m q := by
  induction rs generalizing p with
  | nil =>
    constructor
    · exact fun chain => ⟨p, rfl, chain⟩
    · rintro ⟨m, rfl, chain⟩
      exact chain
  | cons r rs ih =>
    constructor
    · rintro ⟨m, leads, chain⟩
      obtain ⟨n, first, second⟩ := ih.mp chain
      exact ⟨n, ⟨m, leads, first⟩, second⟩
    · rintro ⟨n, ⟨m, leads, first⟩, second⟩
      exact ⟨m, leads, ih.mpr ⟨n, first, second⟩⟩

theorem chain_singleton {r : Regex} {p q : Place} : Chain [r] p q ↔ r.Leads p q := by
  constructor
  · rintro ⟨m, leads, rfl⟩
    exact leads
  · exact fun leads => ⟨q, leads, rfl⟩

/-- The tree of the first expressions of a list leads where they do one after another. -/
theorem leads_joinFirst (count : Nat) (rs : List Regex) :
    (joinFirst cat empty count rs).2 = rs.drop count ∧
      ∀ p q, (joinFirst cat empty count rs).1.Leads p q ↔ Chain (rs.take count) p q := by
  induction count using Nat.strongRecOn generalizing rs with
  | _ count ih =>
    unfold joinFirst
    by_cases few : count < 2
    · rw [if_pos few]
      split
      · exact ⟨rfl, fun p q => chain_singleton.symm⟩
      · rename_i notOne
        obtain rfl | rfl : count = 0 ∨ count = 1 := by omega
        · exact ⟨rfl, fun p q => by simp [Chain, Leads]⟩
        · cases rs with
          | nil => exact ⟨rfl, fun p q => by simp [Chain, Leads]⟩
          | cons r rest => exact absurd rfl (notOne r rest rfl)
    · rw [if_neg few]
      obtain ⟨left, first⟩ := ih (count / 2) (by omega) rs
      obtain ⟨right, second⟩ := ih (count - count / 2) (by omega) (rs.drop (count / 2))
      have whole : count / 2 + (count - count / 2) = count := by omega
      dsimp only
      rw [left]
      refine ⟨by rw [right, List.drop_drop, whole], fun p q => ?_⟩
      rw [← whole, List.take_add, chain_append]
      simp only [whole, Leads, first, second]

theorem leads_cats {rs : List Regex} {p q : Place} : (cats rs).Leads p q ↔ Chain rs p q := by
  rw [cats, (leads_joinFirst rs.length rs).2, List.take_length]

theorem leads_star {r : Regex} {p q : Place} : r.star.Leads p q ↔ Relation.ReflTransGen r.Leads p q := by
  rw [Relation.reflTransGen_iff_eq_or_transGen]
  exact or_comm

end Regex

namespace Expression

theorem regexes_eq_map (es : List Expression) : regexes es = es.map regex := by
  induction es with
  | nil => rfl
  | cons e rest ih => simp only [regexes, ih, List.map_cons]

theorem leads_literal {cs : List Char} {p q : Place} :
    (literal cs).regex.Leads p q ↔ Regex.Chain (cs.map fun c => .one (.single c)) p q := by
  rw [regex, Regex.leads_cats]

theorem leads_sequence {es : List Expression} {p q : Place} :
    (sequence es).regex.Leads p q ↔ Regex.Chain (es.map regex) p q := by
  rw [regex, Regex.leads_cats, regexes_eq_map]

/-- The parts of an expression lead where it does. -/
theorem chain_parts {e : Expression} {p q : Place} : Regex.Chain (e.parts.map regex) p q ↔ e.regex.Leads p q := by
  cases e with
  | empty => rfl
  | sequence es => exact leads_sequence.symm
  | _ => exact Regex.chain_singleton

theorem chain_flatMap_parts {es : List Expression} {p q : Place} :
    Regex.Chain ((es.flatMap parts).map regex) p q ↔ Regex.Chain (es.map regex) p q := by
  induction es generalizing p with
  | nil => rfl
  | cons e rest ih =>
    rw [List.flatMap_cons, List.map_append, Regex.chain_append]
    simp only [chain_parts, ih, List.map_cons, Regex.Chain]

/-- Literals that are joined lead where they do one after another. -/
theorem chain_fuse {es : List Expression} {p q : Place} :
    Regex.Chain ((fuse es).map regex) p q ↔ Regex.Chain (es.map regex) p q := by
  induction es generalizing p with
  | nil => rfl
  | cons e rest ih =>
    have apart : Regex.Chain ((e :: fuse rest).map regex) p q ↔ Regex.Chain ((e :: rest).map regex) p q := by
      simp only [List.map_cons, Regex.Chain, ih]
    rw [← apart, fuse.eq_def (e :: rest)]
    dsimp only
    split
    · rename_i a b others joined
      rw [joined]
      simp only [List.map_cons, Regex.Chain, leads_literal, List.map_append, Regex.chain_append]
      constructor
      · rintro ⟨m, ⟨n, first, second⟩, third⟩
        exact ⟨n, first, m, second, third⟩
      · rintro ⟨n, first, m, second, third⟩
        exact ⟨m, ⟨n, first, second⟩, third⟩
    · rfl

/-- Expressions put in sequence lead where they do one after another. -/
theorem leads_inSequence {es : List Expression} {p q : Place} :
    (inSequence es).regex.Leads p q ↔ Regex.Chain (es.map regex) p q := by
  rw [← chain_flatMap_parts, ← chain_fuse]
  unfold inSequence
  split
  · rename_i none
    rw [none]
    rfl
  · rename_i e single
    rw [single]
    exact Regex.chain_singleton.symm
  · exact leads_sequence

end Expression
end Pattern
end RecordStore
