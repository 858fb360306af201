import WireModel.Json.Basic
import WireModel.Proofs.ValueEquality
import Mathlib.Algebra.Order.Field.Basic
import Mathlib.Algebra.Order.Ring.Rat
import Mathlib.Data.Rat.Cast.Order

/-! The double a number is read as: no double lies nearer to it, and of two that are equally near
it is the one with the even magnitude. The conversion finds it in steps of the size the doubles
near the number have; that no double between two steps or beyond them is nearer is what has to be
shown, since the steps are coarser above a power of two and finer below it. -/
namespace WireModel

namespace Double

def gap (a b : Nat) : Nat := (a - b) + (b - a)

@[simp]
private theorem gap_mul (a b c : Nat) : gap (a * c) (b * c) = gap a b * c := by
  simp only [gap, Nat.add_mul, Nat.sub_mul]

/-- A whole number of steps that comes nearest to a target; of two such numbers the even one. -/
structure NearestSteps (target step count : Nat) : Prop where
  near : 2 * gap target (count * step) ≤ step
  even : 2 * gap target (count * step) = step → count % 2 = 0

theorem nearestSteps_roundQuotient (numerator : Nat) {denominator : Nat}
    (positive : 0 < denominator) :
    NearestSteps numerator denominator (roundQuotient numerator denominator) := by
  have parts := Nat.div_add_mod numerator denominator
  have small := Nat.mod_lt numerator positive
  have next : (numerator / denominator + 1) * denominator =
      denominator * (numerator / denominator) + denominator := by
    rw [Nat.succ_mul, Nat.mul_comm]
  have same : numerator / denominator * denominator =
      denominator * (numerator / denominator) := Nat.mul_comm _ _
  unfold roundQuotient
  dsimp only
  split
  · constructor <;> unfold gap <;> omega
  · split
    · constructor <;> unfold gap <;> omega
    · obtain even | odd := Nat.mod_two_eq_zero_or_one (numerator / denominator)
      · rw [even, Nat.add_zero]
        constructor <;> unfold gap <;> omega
      · rw [odd]
        constructor <;> unfold gap <;> omega

namespace NearestSteps

variable {target step count : Nat} (nearest : NearestSteps target step count)

include nearest

theorem scale (factor : Nat) (positive : 0 < factor) :
    NearestSteps (target * factor) (step * factor) count := by
  obtain ⟨near, even⟩ := nearest
  constructor
  · rw [← Nat.mul_assoc, gap_mul, ← Nat.mul_assoc]
    exact Nat.mul_le_mul_right factor near
  · intro tie
    rw [← Nat.mul_assoc, gap_mul, ← Nat.mul_assoc] at tie
    exact even (Nat.eq_of_mul_eq_mul_right positive tie)

/-- Another number of steps is as far away at least, and further if there is no tie. -/
theorem gap_le (other : Nat) : gap target (count * step) ≤ gap target (other * step) ∧
    (other ≠ count → gap target (other * step) = gap target (count * step) → count % 2 = 0) := by
  obtain ⟨near, even⟩ := nearest
  rcases Nat.lt_trichotomy other count with less | rfl | more
  · have apart := Nat.mul_le_mul_right step less
    rw [Nat.succ_mul] at apart
    refine ⟨?_, fun _ tie => even ?_⟩ <;> unfold gap at * <;> omega
  · exact ⟨Nat.le_refl _, fun other => absurd rfl other⟩
  · have apart := Nat.mul_le_mul_right step more
    rw [Nat.succ_mul] at apart
    refine ⟨?_, fun _ tie => even ?_⟩ <;> unfold gap at * <;> omega

private theorem le_count {low : Nat} (positive : 0 < step) (below : low * step ≤ target) :
    low ≤ count := by
  by_contra less
  have apart := Nat.mul_le_mul_right step (Nat.lt_of_not_le less)
  rw [Nat.succ_mul] at apart
  have near := nearest.near
  unfold gap at near
  omega

private theorem count_le {high : Nat} (positive : 0 < step) (above : target ≤ high * step) :
    count ≤ high := by
  by_contra more
  have apart := Nat.mul_le_mul_right step (Nat.lt_of_not_le more)
  rw [Nat.succ_mul] at apart
  have near := nearest.near
  unfold gap at near
  omega

end NearestSteps

private theorem units_of_steps {exponent steps : Nat} (low : Nat.pow 2 52 ≤ steps)
    (high : steps ≤ 2 * Nat.pow 2 52) :
    units (exponent * Nat.pow 2 52 + steps) = steps * Nat.pow 2 exponent := by
  have positive := Nat.two_pow_pos 52
  rcases Nat.lt_or_ge steps (2 * Nat.pow 2 52) with small | large
  · have split : exponent * Nat.pow 2 52 + steps =
        (exponent + 1) * Nat.pow 2 52 + (steps - Nat.pow 2 52) := by
      rw [Nat.succ_mul]
      omega
    rw [split, units_of_fields (by omega), if_neg (Nat.succ_ne_zero _), Nat.add_sub_cancel,
      Nat.add_sub_of_le low]
  · obtain rfl : steps = 2 * Nat.pow 2 52 := by omega
    have split : exponent * Nat.pow 2 52 + 2 * Nat.pow 2 52 =
        (exponent + 2) * Nat.pow 2 52 + 0 := by
      rw [Nat.add_mul, Nat.add_zero]
    have doubled : Nat.pow 2 (exponent + 1) = 2 * Nat.pow 2 exponent := Nat.pow_succ'
    rw [split, units_of_fields positive, if_neg (Nat.succ_ne_zero _), Nat.add_zero,
      Nat.add_sub_assoc (by omega), doubled, ← Nat.mul_assoc, Nat.mul_comm (Nat.pow 2 52) 2]

/-- From the magnitude of `2 ^ 52` steps on, every magnitude is a whole number of steps. -/
theorem exists_multiple {exponent magnitude : Nat}
    (large : (exponent + 1) * Nat.pow 2 52 ≤ magnitude) :
    ∃ count, units magnitude = count * Nat.pow 2 exponent := by
  have field : exponent + 1 ≤ magnitude / Nat.pow 2 52 :=
    (Nat.le_div_iff_mul_le (Nat.two_pow_pos 52)).2 large
  obtain ⟨more, same⟩ : ∃ more, magnitude / Nat.pow 2 52 = exponent + 1 + more :=
    ⟨_, (Nat.add_sub_of_le field).symm⟩
  have power : Nat.pow 2 (exponent + 1 + more - 1) = Nat.pow 2 more * Nat.pow 2 exponent := by
    rw [Nat.add_right_comm, Nat.add_sub_cancel, Nat.add_comm]
    exact Nat.pow_add 2 more exponent
  have normal : exponent + 1 + more ≠ 0 := by omega
  simp only [units, same, if_neg normal, power, ← Nat.mul_assoc]
  exact ⟨_, rfl⟩

/-- A magnitude that none comes nearer to the target than; of two such magnitudes the even one. -/
structure Nearest (target : Nat) (magnitude : Fin magnitudeCount) : Prop where
  near : ∀ other : Fin magnitudeCount, gap target (units magnitude) ≤ gap target (units other)
  even : ∀ other : Fin magnitudeCount, other ≠ magnitude →
    gap target (units other) = gap target (units magnitude) → magnitude.val % 2 = 0

theorem NearestSteps.nearest {target exponent steps : Nat} {magnitude : Fin magnitudeCount}
    (nearest : NearestSteps target (Nat.pow 2 exponent) steps)
    (value : magnitude.val = exponent * Nat.pow 2 52 + steps)
    (low : Nat.pow 2 52 * Nat.pow 2 exponent ≤ target)
    (high : target ≤ 2 * Nat.pow 2 52 * Nat.pow 2 exponent) : Nearest target magnitude := by
  have step := Nat.two_pow_pos exponent
  have atLeast := nearest.le_count step low
  have atMost := nearest.count_le step high
  have own : units magnitude = steps * Nat.pow 2 exponent := by
    rw [value, units_of_steps atLeast atMost]
  have start : units ((exponent + 1) * Nat.pow 2 52) = Nat.pow 2 52 * Nat.pow 2 exponent := by
    rw [Nat.succ_mul, units_of_steps (Nat.le_refl _) (by omega)]
  -- Below the first magnitude of the steps there is none as near as that one.
  have below {other : Fin magnitudeCount} (less : other.val < (exponent + 1) * Nat.pow 2 52) :
      gap target (steps * Nat.pow 2 exponent) < gap target (units other) := by
    have less := strictMono_nat_of_lt_succ units_lt_succ less
    rw [start] at less
    have first := (nearest.gap_le (Nat.pow 2 52)).1
    unfold gap at first ⊢
    omega
  constructor
  · intro other
    rw [own]
    rcases Nat.lt_or_ge other.val ((exponent + 1) * Nat.pow 2 52) with less | large
    · exact Nat.le_of_lt (below less)
    · obtain ⟨count, multiple⟩ := exists_multiple large
      rw [multiple]
      exact (nearest.gap_le count).1
  · intro other apart tie
    rw [own] at tie
    rcases Nat.lt_or_ge other.val ((exponent + 1) * Nat.pow 2 52) with less | large
    · exact absurd tie (Nat.ne_of_gt (below less))
    · obtain ⟨count, multiple⟩ := exists_multiple large
      have different : count ≠ steps := by
        rintro rfl
        exact apart (Fin.ext (units_injective (multiple.trans own.symm)))
      rw [multiple] at tie
      have even := (nearest.gap_le count).2 different tie
      have whole : Nat.pow 2 52 = 2 * Nat.pow 2 51 := Nat.pow_succ'
      rw [value, whole, Nat.mul_left_comm, Nat.mul_add_mod, even]

/-- Of two nearest magnitudes that differ, both were even and next to each other. -/
theorem Nearest.unique {target : Nat} {magnitude magnitude' : Fin magnitudeCount}
    (nearest : Nearest target magnitude) (nearest' : Nearest target magnitude') :
    magnitude = magnitude' := by
  wlog less : magnitude < magnitude' generalizing magnitude magnitude'
  · rcases Nat.lt_or_ge magnitude'.val magnitude.val with more | notMore
    · exact (this nearest' nearest more).symm
    · exact Fin.ext (Nat.le_antisymm notMore (Nat.le_of_not_lt less))
  have tie : gap target (units magnitude) = gap target (units magnitude') :=
    Nat.le_antisymm (nearest.near magnitude') (nearest'.near magnitude)
  have even := nearest.even magnitude' (Fin.ne_of_gt less) tie.symm
  have even' := nearest'.even magnitude (Fin.ne_of_lt less) tie
  have order : magnitude.val < magnitude'.val := less
  have between := nearest.near ⟨magnitude.val + 1, by omega⟩
  have first := units_lt_succ magnitude.val
  have second : units (magnitude.val + 1) < units magnitude' :=
    strictMono_nat_of_lt_succ units_lt_succ (by omega)
  unfold gap at tie between
  dsimp only at between
  omega

section Integers

variable {n : Nat}

private theorem floorLog_one (positive : n ≠ 0) : floorLog n 1 = n.log2 := by
  have guess : (n.log2 : Int) - (Nat.log2 1 : Int) = n.log2 := Int.sub_zero _
  have reached : 1 * Nat.pow 2 n.log2 ≤ n := by
    rw [Nat.one_mul]
    exact Nat.log2_self_le positive
  simp only [floorLog, guess, Int.natCast_nonneg, Int.toNat_natCast, reached, if_true]

/-- An integer is rounded to whole steps of the last place that its leading digit leaves. -/
theorem nearestSteps_roundSteps (n : Nat) : NearestSteps (n * unitsInOne)
    (Nat.pow 2 (n.log2 + 1022)) (roundSteps n 1 (n.log2 - 52)) := by
  unfold roundSteps
  by_cases large : 52 ≤ n.log2
  · have places : ((n.log2 : Int) - 52).toNat = n.log2 - 52 := by omega
    have step : Nat.pow 2 (n.log2 - 52) * unitsInOne = Nat.pow 2 (n.log2 + 1022) * 1 :=
      @pow_mul_unitsInOne _ (n.log2 + 1022) 0 (by omega)
    have positive : 0 < Nat.pow 2 (n.log2 - 52) := Nat.two_pow_pos _
    have rounded := (nearestSteps_roundQuotient n positive).scale unitsInOne
      (Nat.pos_of_ne_zero unitsInOne_ne_zero)
    rw [step, Nat.mul_one] at rounded
    rwa [if_pos (by omega), places, Nat.one_mul]
  · have places : (-((n.log2 : Int) - 52)).toNat = 52 - n.log2 := by omega
    have step : 1 * unitsInOne = Nat.pow 2 (52 - n.log2) * Nat.pow 2 (n.log2 + 1022) :=
      @pow_mul_unitsInOne 0 _ _ (by omega)
    have positive : 0 < Nat.pow 2 (n.log2 + 1022) := Nat.two_pow_pos _
    have rounded := (nearestSteps_roundQuotient (n * Nat.pow 2 (52 - n.log2)) Nat.one_pos).scale
      (Nat.pow 2 (n.log2 + 1022)) positive
    rw [Nat.mul_assoc, ← step, Nat.one_mul, Nat.one_mul] at rounded
    rwa [if_neg (by omega), places]

private theorem round?_one (positive : n ≠ 0) : round? n 1 =
    ofIndex? ((n.log2 + 1022) * Nat.pow 2 52 + roundSteps n 1 (n.log2 - 52)) := by
  have unit : max ((n.log2 : Int) - 52) (-1074) = n.log2 - 52 := by omega
  have index : ((n.log2 : Int) - 52 + 1074).toNat = n.log2 + 1022 := by omega
  simp only [round?, if_neg positive, floorLog_one positive, unit, index]

theorem exists_nearest (small : n < 0x10000000000000000) :
    ∃ magnitude, round? n 1 = some magnitude ∧ Nearest (n * unitsInOne) magnitude := by
  by_cases zero : n = 0
  · subst zero
    refine ⟨⟨0, by decide⟩, rfl, fun other => ?_, fun other _ _ => rfl⟩
    rw [Nat.zero_mul]
    exact Nat.zero_le _
  · have nearest := nearestSteps_roundSteps n
    have step := Nat.two_pow_pos (n.log2 + 1022)
    have low : Nat.pow 2 52 * Nat.pow 2 (n.log2 + 1022) ≤ n * unitsInOne := by
      rw [← @pow_mul_unitsInOne n.log2 52 (n.log2 + 1022) (by omega)]
      exact Nat.mul_le_mul_right _ (Nat.log2_self_le zero)
    have high : n * unitsInOne ≤ 2 * Nat.pow 2 52 * Nat.pow 2 (n.log2 + 1022) := by
      have next := @pow_mul_unitsInOne (n.log2 + 1) 53 (n.log2 + 1022) (by omega)
      have doubled : Nat.pow 2 53 = 2 * Nat.pow 2 52 := Nat.pow_succ'
      rw [← doubled, ← next]
      exact Nat.mul_le_mul_right _ (Nat.le_of_lt Nat.lt_log2_self)
    have finite : (n.log2 + 1022) * Nat.pow 2 52 + roundSteps n 1 (n.log2 - 52) <
        magnitudeCount := by
      have digits : n.log2 < 64 := (Nat.log2_lt zero).2 small
      have atMost := nearest.count_le step high
      have room : (n.log2 + 1022) * Nat.pow 2 52 ≤ 1085 * Nat.pow 2 52 :=
        Nat.mul_le_mul_right _ (by omega)
      have positive : 0 < Nat.pow 2 52 := Nat.two_pow_pos 52
      unfold magnitudeCount
      omega
    exact ⟨⟨_, finite⟩, (round?_one zero).trans (dif_pos finite), nearest.nearest rfl low high⟩

end Integers

/-- The double that an integer is rounded to: with the sign of the integer, no double is nearer to
it, and of two that are equally near it is the one with the even magnitude. -/
structure RoundsTo (value : Int) (x : Double) : Prop where
  sign : x.negative = decide (value < 0)
  near : ∀ y : Double, |(value : Rat) - x.number| ≤ |(value : Rat) - y.number|
  even : ∀ y : Double, y.number ≠ x.number →
    |(value : Rat) - y.number| = |(value : Rat) - x.number| → x.magnitude.val % 2 = 0

section Doubles

variable {value : Int} {x y : Double}

private theorem abs_sub_number (value : Int) (x : Double) :
    |(value : Rat) - x.number| =
      ((value * unitsInOne - x.scaled).natAbs : Rat) / (unitsInOne : Rat) := by
  have positive : (0 : Rat) < unitsInOne := by
    exact_mod_cast Nat.pos_of_ne_zero unitsInOne_ne_zero
  have difference : (value : Rat) - x.number =
      ((value * unitsInOne - x.scaled : Int) : Rat) / (unitsInOne : Rat) := by
    rw [number_eq_scaled, Rat.mkRat_eq_div]
    push_cast
    rw [sub_div, mul_div_cancel_right₀ _ positive.ne']
  rw [difference, abs_div, abs_of_pos positive, Nat.cast_natAbs, Int.cast_abs]

theorem abs_sub_le_iff : |(value : Rat) - x.number| ≤ |(value : Rat) - y.number| ↔
    (value * unitsInOne - x.scaled).natAbs ≤ (value * unitsInOne - y.scaled).natAbs := by
  have positive : (0 : Rat) < unitsInOne := by
    exact_mod_cast Nat.pos_of_ne_zero unitsInOne_ne_zero
  rw [abs_sub_number, abs_sub_number, div_le_div_iff_of_pos_right positive, Nat.cast_le]

private theorem abs_sub_eq_iff : |(value : Rat) - x.number| = |(value : Rat) - y.number| ↔
    (value * unitsInOne - x.scaled).natAbs = (value * unitsInOne - y.scaled).natAbs := by
  rw [le_antisymm_iff, abs_sub_le_iff, abs_sub_le_iff, Nat.le_antisymm_iff]

private theorem mul_unitsInOne (value : Int) : value * unitsInOne =
    if value < 0 then -((value.natAbs * unitsInOne : Nat) : Int)
    else ((value.natAbs * unitsInOne : Nat) : Int) := by
  rw [Int.natCast_mul]
  split
  · next negative =>
    rw [Int.ofNat_natAbs_of_nonpos (Int.le_of_lt negative), Int.neg_mul, Int.neg_neg]
  · next positive => rw [Int.natAbs_of_nonneg (Int.not_lt.1 positive)]

/-- How far a double is from an integer, in units: its magnitude counts, and a sign other than that
of the integer adds to the distance. -/
theorem natAbs_sub_scaled (value : Int) (x : Double) :
    (value * unitsInOne - x.scaled).natAbs =
      if x.negative = decide (value < 0) then gap (value.natAbs * unitsInOne) (units x.magnitude)
      else value.natAbs * unitsInOne + units x.magnitude := by
  rw [mul_unitsInOne, scaled]
  unfold gap
  generalize value.natAbs * unitsInOne = target
  generalize units x.magnitude = magnitude
  by_cases negative : value < 0 <;> cases x.negative <;> simp [negative] <;> omega

private theorem gap_le_natAbs (value : Int) (x : Double) :
    gap (value.natAbs * unitsInOne) (units x.magnitude) ≤
      (value * unitsInOne - x.scaled).natAbs := by
  rw [natAbs_sub_scaled]
  split
  · exact Nat.le_refl _
  · unfold gap
    omega

/-- No double but the nearest one is as near, unless it has another magnitude. -/
theorem magnitude_ne_of_tie (nearest : Nearest (value.natAbs * unitsInOne) x.magnitude)
    (sign : x.negative = decide (value < 0)) (apart : y.number ≠ x.number)
    (tie : (value * unitsInOne - y.scaled).natAbs =
      gap (value.natAbs * unitsInOne) (units x.magnitude)) : y.magnitude ≠ x.magnitude := by
  intro same
  rw [Ne, number_eq_iff, scaled, scaled, same] at apart
  rw [natAbs_sub_scaled, same] at tie
  by_cases sign' : y.negative = decide (value < 0)
  · rw [sign, sign'] at apart
    exact apart rfl
  · -- With the other sign both would have to be zero.
    have zero := nearest.near ⟨0, by decide⟩
    have least : units 0 = 0 := rfl
    rw [if_neg sign'] at tie
    rw [least] at zero
    unfold gap at tie zero
    have nothing : units x.magnitude = 0 := by omega
    simp [nothing] at apart

theorem roundsTo_iff : RoundsTo value x ↔
    x.negative = decide (value < 0) ∧ Nearest (value.natAbs * unitsInOne) x.magnitude := by
  constructor
  · rintro ⟨sign, near, even⟩
    refine ⟨sign, fun other => ?_, fun other apart tie => ?_⟩
    · have le := abs_sub_le_iff.1 (near ⟨x.negative, other⟩)
      rwa [natAbs_sub_scaled, natAbs_sub_scaled, if_pos sign, if_pos sign] at le
    · apply even ⟨x.negative, other⟩
      · rw [Ne, number_eq_iff, scaled, scaled]
        intro same
        refine apart (Fin.ext (units_injective ?_))
        cases negative : x.negative <;> simpa [negative] using same
      · rw [abs_sub_eq_iff, natAbs_sub_scaled, natAbs_sub_scaled, if_pos sign, if_pos sign]
        exact tie
  · rintro ⟨sign, nearest⟩
    have own := natAbs_sub_scaled value x
    rw [if_pos sign] at own
    refine ⟨sign, fun y => ?_, fun y apart tie => ?_⟩
    · rw [abs_sub_le_iff, own]
      exact Nat.le_trans (nearest.near y.magnitude) (gap_le_natAbs value y)
    · rw [abs_sub_eq_iff, own] at tie
      refine nearest.even _ (magnitude_ne_of_tie nearest sign apart tie) ?_
      exact Nat.le_antisymm (tie ▸ gap_le_natAbs value y) (nearest.near y.magnitude)

theorem RoundsTo.unique (rounds : RoundsTo value x) (rounds' : RoundsTo value y) : x = y := by
  obtain ⟨sign, nearest⟩ := roundsTo_iff.1 rounds
  obtain ⟨sign', nearest'⟩ := roundsTo_iff.1 rounds'
  cases x
  cases y
  cases sign.trans sign'.symm
  cases nearest.unique nearest'
  rfl

theorem roundsTo_ofInt (small : value.natAbs < 0x10000000000000000) :
    RoundsTo value (ofInt value) := by
  obtain ⟨magnitude, rounded, nearest⟩ := exists_nearest small
  have same : ofInt value = ⟨decide (value < 0), magnitude⟩ := by
    simp only [ofInt, rounded]
  rw [same]
  exact roundsTo_iff.2 ⟨rfl, nearest⟩

end Doubles

end Double

/-- The double that a number stands for: a double for itself, and an integer for the double that it
is rounded to. -/
inductive Number.Denotes : Number → Double → Prop
  | integer {value x} (rounds : Double.RoundsTo value.toInt x) : Denotes (.integer value) x
  | natural {value x} (rounds : Double.RoundsTo value.toNat x) : Denotes (.natural value) x
  | double {x} : Denotes (.double x) x

theorem Number.denotes_iff {number : Number} {x : Double} :
    number.Denotes x ↔ x = number.toDouble := by
  have integer (value : Int64) : Double.RoundsTo value.toInt (.ofInt value.toInt) := by
    apply Double.roundsTo_ofInt
    have above := value.toInt_lt
    have below := value.le_toInt
    omega
  have natural (value : UInt64) : Double.RoundsTo value.toNat (.ofInt value.toNat) := by
    apply Double.roundsTo_ofInt
    rw [Int.natAbs_natCast]
    exact value.toNat_lt
  constructor
  · rintro (rounds | rounds | _)
    · exact rounds.unique (integer _)
    · exact rounds.unique (natural _)
    · rfl
  · rintro rfl
    cases number with
    | integer value => exact .integer (integer value)
    | natural value => exact .natural (natural value)
    | double value => exact .double

end WireModel
