import RecordStore.Text.Runs

/-!
# Sets of characters

A set of characters is a list of ranges of code points in ascending order. Sets that are read from a text or
joined with others have no two ranges that overlap or touch. Surrogates are no characters: the character before
U+E000 is U+D7FF, but ranges that end and start there do not count as touching.
-/

namespace RecordStore
namespace Text

/-- A set of characters, given by ranges from a first to a last code point. -/
structure CharSet where
  ranges : List (Nat × Nat)
  deriving DecidableEq, Repr

namespace CharSet

def next (c : Nat) : Nat :=
  if c = 0xD7FF then 0xE000 else c + 1

def previous (c : Nat) : Nat :=
  if c = 0xE000 then 0xD7FF else c - 1

/-- Whether two ranges overlap or have no code point between them. -/
def touch (r s : Nat × Nat) : Bool :=
  Nat.max r.1 s.1 ≤ Nat.min r.2 s.2 + 1

def comesBefore (r s : Nat × Nat) : Bool :=
  r.1 < s.1 || (r.1 = s.1 && r.2 ≤ s.2)

/-- Ranges in ascending order, with all that touch made one; `r` comes before them. -/
def merge (r : Nat × Nat) : List (Nat × Nat) → List (Nat × Nat)
  | [] => [r]
  | s :: rest =>
    if touch r s then merge (Nat.min r.1 s.1, Nat.max r.2 s.2) rest
    else r :: merge s rest

def ofRanges (ranges : List (Nat × Nat)) : CharSet :=
  match ranges.mergeSort comesBefore with
  | [] => ⟨[]⟩
  | r :: rest => ⟨merge r rest⟩

def ofText (text : String) : CharSet :=
  ofRanges (Runs.ranges text)

def ofLabels {α : Type} (wanted : α → Bool) (labelled : List ((Nat × Nat) × α)) : CharSet :=
  ofRanges (labelled.filterMap fun (range, label) => if wanted label then some range else none)

def empty : CharSet := ⟨[]⟩

def all : CharSet := ⟨[(0, Runs.lastCode)]⟩

def range (first last : Char) : CharSet := ⟨[(first.toNat, last.toNat)]⟩

def single (c : Char) : CharSet := range c c

/-- Whether a code point is in one of some ascending ranges. -/
def covers : List (Nat × Nat) → Nat → Bool
  | [], _ => false
  | (first, last) :: rest, c => if c < first then false else c ≤ last || covers rest c

def mem (s : CharSet) (c : Char) : Bool :=
  covers s.ranges c.toNat

def union (s t : CharSet) : CharSet :=
  if t.ranges.isEmpty || s = t then s else ofRanges (s.ranges ++ t.ranges)

def unions (sets : List CharSet) : CharSet :=
  ofRanges (sets.flatMap ranges)

def overlap? (r s : Nat × Nat) : Option (Nat × Nat) :=
  let first := Nat.max r.1 s.1
  let last := Nat.min r.2 s.2
  if first ≤ last then some (first, last) else none

def inter (s t : CharSet) : CharSet :=
  ⟨s.ranges.flatMap fun r => t.ranges.filterMap (overlap? r)⟩

/-- What ascending ranges leave of the range from `first` to `last`. -/
def cut (first last : Nat) : List (Nat × Nat) → List (Nat × Nat)
  | [] => [(first, last)]
  | (low, high) :: rest =>
    if high < first then cut first last rest
    else if last < low then [(first, last)]
    else
      (if first < low then [(first, previous low)] else []) ++
        (if high < last then cut (next high) last rest else [])

def diff (s t : CharSet) : CharSet :=
  ⟨s.ranges.flatMap fun (first, last) => cut first last t.ranges⟩

def symmDiff (s t : CharSet) : CharSet :=
  diff (union s t) (inter s t)

/-- What lies between ascending ranges and after them. The ends of what lies between two ranges are put in order:
where one range ends and the next one starts at the surrogates, that is the range of the two characters there. -/
def gaps (last : Nat) : List (Nat × Nat) → List (Nat × Nat)
  | [] => if last < Runs.lastCode then [(next last, Runs.lastCode)] else []
  | (low, high) :: rest =>
    (Nat.min (next last) (previous low), Nat.max (next last) (previous low)) :: gaps high rest

def compl (s : CharSet) : CharSet :=
  match s.ranges with
  | [] => all
  | (first, last) :: rest => ⟨(if 0 < first then [(0, previous first)] else []) ++ gaps last rest⟩

/-- A set, or all other characters. -/
def complIf (negated : Bool) (s : CharSet) : CharSet :=
  if negated then compl s else s

def isAscii (s : CharSet) : Bool :=
  s.ranges.all fun r => r.2 < 128

theorem mem_all (c : Char) : all.mem c = true := by
  have h : c.toNat ≤ 0x10FFFF := by
    rcases c.valid with h | ⟨_, h⟩ <;> simp only [Char.toNat] <;> omega
  simp [all, mem, covers, Runs.lastCode, h]

theorem mem_range (first last c : Char) :
    (range first last).mem c = (first.toNat ≤ c.toNat && c.toNat ≤ last.toNat) := by
  by_cases h : c.toNat < first.toNat
  · simp [range, mem, covers, h, Nat.not_le.mpr h]
  · simp [range, mem, covers, h, Nat.le_of_not_lt h]

theorem mem_single (c d : Char) : (single c).mem d = decide (c = d) := by
  simp only [single, mem_range, ← Char.toNat_inj]
  by_cases h : c.toNat = d.toNat
  · simp [h]
  · simp [h]
    omega

end CharSet

end Text
end RecordStore
