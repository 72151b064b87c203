import Underwriting.Proofs.Number.Rounding

/-! # The order of numbers and their sums

A finite number counts units, and its place among the numbers is the one to which its units are
rounded. A sum counts the units of both summands before it is rounded, so its place is that of the
exact sum. Both places grow with the units, hence sums keep the order of their summands.
-/

namespace Underwriting

namespace Binary64

open Magnitude (nearestRank unitsOfRank rankLimit)

section Order

variable {first second third : Binary64}

/-- What is no number has no place, and everything else has one. -/
theorem isNumber_iff : first.isNumber = true ↔ ∃ place, first.place? = some place := by
  cases first <;> simp [isNumber, place?]

theorem atMost_iff : first.atMost second = true ↔
    ∃ place other, first.place? = some place ∧ second.place? = some other ∧ place ≤ other := by
  unfold atMost
  split
  case h_1 place other left right =>
    rw [decide_eq_true_eq]
    refine ⟨fun order => ⟨place, other, left, right, order⟩, ?_⟩
    rintro ⟨_, _, same, alsoSame, order⟩
    cases left.symm.trans same
    cases right.symm.trans alsoSame
    exact order
  case h_2 missing =>
    refine ⟨fun impossible => absurd impossible Bool.false_ne_true, ?_⟩
    rintro ⟨place, other, left, right, -⟩
    exact absurd right (missing place other left)

/-- A comparison looks at places. -/
theorem atMost_congr {left right : Binary64} (firsts : first.place? = left.place?)
    (seconds : second.place? = right.place?) : first.atMost second = left.atMost right := by
  rw [atMost, atMost, firsts, seconds]

theorem atMost_of_places {place other : Int} (left : first.place? = some place)
    (right : second.place? = some other) (order : place ≤ other) : first.atMost second = true :=
  atMost_iff.mpr ⟨place, other, left, right, order⟩

theorem atMost_trans (left : first.atMost second = true) (right : second.atMost third = true) :
    first.atMost third = true := by
  obtain ⟨low, middle, lowPlace, middlePlace, below⟩ := atMost_iff.mp left
  obtain ⟨again, high, againPlace, highPlace, above⟩ := atMost_iff.mp right
  cases middlePlace.symm.trans againPlace
  exact atMost_of_places lowPlace highPlace (Int.le_trans below above)

end Order

section Equality

variable {first second : Binary64}

/-- Signed magnitudes are equal if the magnitudes are, and the signs too unless these are zero. -/
private theorem signed_eq {left right : Bool} {size other : Nat}
    (same : (if left then -(size : Int) else size) = if right then -(other : Int) else other) :
    size = other ∧ (left = right ∨ size = 0) := by
  cases left <;> cases right <;> simp only [Bool.false_eq_true, ↓reduceIte] at same
  · exact ⟨by omega, .inl rfl⟩
  · exact ⟨by omega, .inr (by omega)⟩
  · exact ⟨by omega, .inr (by omega)⟩
  · exact ⟨by omega, .inl rfl⟩

/-- Numbers of one place are the same, or both are zero. -/
theorem eq_or_zero_of_place? {place : Int} (placed : first.place? = some place)
    (alsoPlaced : second.place? = some place) :
    first = second ∨ ∃ left right, first = .finite left .zero ∧ second = .finite right .zero := by
  have same := placed.trans alsoPlaced.symm
  cases first with
  | nan => cases placed
  | infinite left =>
    cases second with
    | nan => cases alsoPlaced
    | infinite right =>
      obtain ⟨-, signs | limit⟩ := signed_eq (Option.some.inj same)
      · exact .inl (congrArg _ signs)
      · cases limit
    | finite right other =>
      have ranks := (signed_eq (Option.some.inj same)).1
      exact absurd other.rank_lt (Nat.not_lt.mpr (Nat.le_of_eq ranks))
  | finite left size =>
    cases second with
    | nan => cases alsoPlaced
    | infinite right =>
      have ranks := (signed_eq (Option.some.inj same)).1
      exact absurd size.rank_lt (Nat.not_lt.mpr (Nat.le_of_eq ranks.symm))
    | finite right other =>
      obtain ⟨ranks, signs⟩ := signed_eq (Option.some.inj same)
      obtain ⟨rank, inRange⟩ := size
      obtain ⟨_, _⟩ := other
      cases ranks
      rcases signs with rfl | zero
      · exact .inl rfl
      · cases zero
        exact .inr ⟨left, right, rfl, rfl⟩

/-- Numerically equal numbers have one place. -/
theorem exists_place?_of_sameValue (same : first.sameValue second = true) :
    ∃ place, first.place? = some place ∧ second.place? = some place := by
  unfold sameValue at same
  split at same
  · rename_i place other left right
    exact ⟨place, left, beq_iff_eq.mp same ▸ right⟩
  · cases same

/-- Numerically equal numbers are the same, or both are zero. -/
theorem eq_or_zero_of_sameValue (same : first.sameValue second = true) :
    first = second ∨ ∃ left right, first = .finite left .zero ∧ second = .finite right .zero := by
  obtain ⟨place, placed, alsoPlaced⟩ := exists_place?_of_sameValue same
  exact eq_or_zero_of_place? placed alsoPlaced

end Equality

section Places

/-- The place of the number to which units are rounded. Beyond the finite range it is the place of
an infinite number. -/
def placeOfUnits (units : Int) : Int :=
  if units < 0 then -(min (nearestRank units.natAbs 1) rankLimit : Nat)
  else (min (nearestRank units.natAbs 1) rankLimit : Nat)

variable {first second : Binary64} {units others : Int}

theorem placeOfUnits_mono (atMost : units ≤ others) : placeOfUnits units ≤ placeOfUnits others := by
  unfold placeOfUnits
  split
  case isTrue below =>
    split
    case isTrue alsoBelow =>
      have ranks := Magnitude.nearestRank_mono (show others.natAbs ≤ units.natAbs by omega)
      omega
    case isFalse => omega
  case isFalse above =>
    rw [if_neg (by omega)]
    have ranks := Magnitude.nearestRank_mono (show units.natAbs ≤ others.natAbs by omega)
    omega

theorem placeOfUnits_zero : placeOfUnits 0 = 0 := by decide

/-- Rounding takes no positive number of units down to zero. -/
theorem placeOfUnits_pos_iff : 0 < placeOfUnits units ↔ 0 < units := by
  constructor
  · intro above
    refine Int.not_le.mp fun below => ?_
    have order := placeOfUnits_mono below
    rw [placeOfUnits_zero] at order
    omega
  · intro above
    have least : placeOfUnits 1 = 1 := by decide
    have order := placeOfUnits_mono (show 1 ≤ units by omega)
    omega

theorem placeOfUnits_nonneg_iff : 0 ≤ placeOfUnits units ↔ 0 ≤ units := by
  constructor
  · intro above
    refine Int.not_lt.mp fun below => ?_
    have least : placeOfUnits (-1) = -1 := by decide
    have order := placeOfUnits_mono (show units ≤ -1 by omega)
    omega
  · intro above
    have order := placeOfUnits_mono above
    rwa [placeOfUnits_zero] at order

theorem place?_ofUnits (units : Int) :
    (ofUnits (units < 0) units.natAbs 1).place? = some (placeOfUnits units) := by
  unfold ofUnits placeOfUnits
  split
  case isTrue inRange =>
    simp only [place?, decide_eq_true_eq, Nat.min_eq_left (Nat.le_of_lt inRange)]
  case isFalse beyond =>
    simp only [place?, decide_eq_true_eq, Nat.min_eq_right (Nat.not_lt.mp beyond)]

theorem isFinite_iff_units? : first.isFinite = true ↔ ∃ units, first.units? = some units := by
  cases first <;> simp [isFinite, units?]

/-- A finite number stands where its units are rounded to. -/
theorem place?_of_units? (counts : first.units? = some units) :
    first.place? = some (placeOfUnits units) := by
  cases first with
  | infinite negative => cases counts
  | nan => cases counts
  | finite negative size =>
    have rank := Magnitude.nearestRank_unitsOfRank size.rank
    have zero : unitsOfRank size.rank = 0 → size.rank = 0 := by
      intro none
      rw [none] at rank
      exact rank.symm
    have inRange := Nat.min_eq_left (Nat.le_of_lt size.rank_lt)
    cases counts
    cases negative with
    | false =>
      simp only [place?, placeOfUnits, Magnitude.units, Bool.false_eq_true, ↓reduceIte,
        Int.natAbs_natCast, rank, inRange]
      rw [if_neg (by omega)]
    | true =>
      simp only [place?, placeOfUnits, Magnitude.units, ↓reduceIte, Int.natAbs_neg,
        Int.natAbs_natCast, rank, inRange, Option.some.injEq]
      split <;> omega

theorem units?_neg (counts : first.units? = some units) : first.neg.units? = some (-units) := by
  cases first with
  | infinite negative => cases counts
  | nan => cases counts
  | finite negative size =>
    cases counts
    cases negative
    · rfl
    · exact congrArg some (Int.neg_neg _).symm

/-- Of finite numbers the one with more units is the greater. -/
theorem atMost_iff_of_units? (left : first.units? = some units)
    (right : second.units? = some others) : first.atMost second = true ↔ units ≤ others := by
  have placed := place?_of_units? left
  have alsoPlaced := place?_of_units? right
  constructor
  · intro atMost
    obtain ⟨_, _, same, alsoSame, order⟩ := atMost_iff.mp atMost
    cases placed.symm.trans same
    cases alsoPlaced.symm.trans alsoSame
    refine Int.not_lt.mp fun above => ?_
    -- Of numbers with one place neither has more units.
    have reverse := placeOfUnits_mono (Int.le_of_lt above)
    rw [Int.le_antisymm order reverse] at placed
    rcases eq_or_zero_of_place? placed alsoPlaced with rfl | ⟨_, _, rfl, rfl⟩
    · cases left.symm.trans right
      exact Int.lt_irrefl _ above
    · have none := fun (negative : Bool) => show (finite negative .zero).units? = some 0 by
        cases negative <;> rfl
      cases left.symm.trans (none _)
      cases right.symm.trans (none _)
      exact Int.lt_irrefl _ above
  · intro fewer
    exact atMost_of_places placed alsoPlaced (placeOfUnits_mono fewer)

/-- A sum of finite numbers is zero or the rounded sum of their units. -/
private theorem add_eq (left : first.units? = some units) (right : second.units? = some others) :
    (units + others = 0 ∧ ∃ negative, first + second = finite negative .zero) ∨
      first + second = ofUnits (units + others < 0) (units + others).natAbs 1 := by
  cases first with
  | infinite negative => cases left
  | nan => cases left
  | finite negative size =>
    cases second with
    | infinite sign => cases right
    | nan => cases right
    | finite sign other =>
      cases left
      cases right
      change (_ ∧ ∃ _, add _ _ = _) ∨ add _ _ = _
      simp only [add]
      generalize (if negative then -(size.units : Int) else size.units) +
        (if sign then -(other.units : Int) else other.units) = total
      by_cases none : total = 0
      · exact .inl ⟨none, negative && sign, if_pos none⟩
      · exact .inr (if_neg none)

/-- A sum of finite numbers stands where the sum of their units is rounded to. -/
theorem place?_add (left : first.units? = some units) (right : second.units? = some others) :
    (first + second).place? = some (placeOfUnits (units + others)) := by
  rcases add_eq left right with ⟨none, negative, sum⟩ | sum
  · rw [sum, none, placeOfUnits_zero]
    cases negative <;> rfl
  · rw [sum, place?_ofUnits]

theorem place?_sub (left : first.units? = some units) (right : second.units? = some others) :
    (first - second).place? = some (placeOfUnits (units - others)) :=
  place?_add left (units?_neg right)

/-- A sum that is the number of units of a magnitude is not rounded. -/
theorem units?_add (left : first.units? = some units) (right : second.units? = some others)
    {rank : Nat} (inRange : rank < rankLimit) (exact : (units + others).natAbs = unitsOfRank rank) :
    (first + second).units? = some (units + others) := by
  rcases add_eq left right with ⟨none, negative, sum⟩ | sum
  · rw [sum, none]
    cases negative <;> rfl
  · have rounded : nearestRank (units + others).natAbs 1 = rank := by
      rw [exact, Magnitude.nearestRank_unitsOfRank]
    rw [sum, ofUnits, dif_pos (rounded ▸ inRange)]
    simp only [units?, Magnitude.units, rounded, ← exact, decide_eq_true_eq, Option.some.injEq]
    split <;> omega

end Places

end Binary64

end Underwriting
