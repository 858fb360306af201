import WireModel.Decoding.Value
import Mathlib.Order.Monotone.Basic

/-! Equality of values. Doubles are equal if they stand for the same number, which is so only of the
two zeros besides a double and itself. So two values are equal if they have the same structure once
every zero is made the positive one, and equality is an equivalence at every depth. -/
namespace WireModel

namespace Double

/-- The number that a double stands for. -/
def number (x : Double) : Rat :=
  mkRat (if x.negative then -(ratio x.magnitude).1 else (ratio x.magnitude).1)
    (ratio x.magnitude).2

/-- How many times a magnitude holds the least positive one. -/
def units (magnitude : Nat) : Nat :=
  let exponent := magnitude / Nat.pow 2 52
  let fraction := magnitude % Nat.pow 2 52
  if exponent = 0 then fraction else (Nat.pow 2 52 + fraction) * Nat.pow 2 (exponent - 1)

theorem units_of_fields {exponent fraction : Nat} (small : fraction < Nat.pow 2 52) :
    units (exponent * Nat.pow 2 52 + fraction) =
      if exponent = 0 then fraction
      else (Nat.pow 2 52 + fraction) * Nat.pow 2 (exponent - 1) := by
  have quotient : (exponent * Nat.pow 2 52 + fraction) / Nat.pow 2 52 = exponent := by
    rw [Nat.mul_comm, Nat.mul_add_div (Nat.two_pow_pos 52), Nat.div_eq_of_lt small, Nat.add_zero]
  have remainder : (exponent * Nat.pow 2 52 + fraction) % Nat.pow 2 52 = fraction := by
    rw [Nat.mul_comm, Nat.mul_add_mod, Nat.mod_eq_of_lt small]
  simp only [units, quotient, remainder]

theorem units_lt_succ (magnitude : Nat) : units magnitude < units (magnitude + 1) := by
  obtain ⟨exponent, fraction, small, rfl⟩ : ∃ exponent fraction, fraction < Nat.pow 2 52 ∧
      magnitude = exponent * Nat.pow 2 52 + fraction :=
    ⟨_, _, Nat.mod_lt _ (Nat.two_pow_pos 52), (Nat.div_add_mod' _ _).symm⟩
  rw [units_of_fields small]
  by_cases last : fraction + 1 = Nat.pow 2 52
  · -- The next magnitude begins a new exponent.
    have next : exponent * Nat.pow 2 52 + fraction + 1 = (exponent + 1) * Nat.pow 2 52 + 0 := by
      rw [Nat.add_assoc, last, Nat.succ_mul, Nat.add_zero]
    rw [next, units_of_fields (Nat.two_pow_pos 52), if_neg (Nat.succ_ne_zero _), Nat.add_sub_cancel]
    cases exponent with
    | zero => exact small
    | succ exponent =>
      have doubled : Nat.pow 2 (exponent + 1) = 2 * Nat.pow 2 exponent := Nat.pow_succ'
      rw [if_neg (Nat.succ_ne_zero _), Nat.add_sub_cancel, Nat.add_zero, doubled,
        ← Nat.mul_assoc]
      exact Nat.mul_lt_mul_of_pos_right (by omega) (Nat.two_pow_pos exponent)
  · rw [Nat.add_assoc, units_of_fields (by omega)]
    split
    · exact Nat.lt_succ_self _
    · exact Nat.mul_lt_mul_of_pos_right (by omega) (Nat.two_pow_pos _)

theorem units_injective : Function.Injective units :=
  (strictMono_nat_of_lt_succ units_lt_succ).injective

@[irreducible] def unitsInOne : Nat := Nat.pow 2 1074

-- The power is too large to be computed at every step, so only its exponent is known.
theorem exists_unitsInOne : ∃ exponent, exponent = 1074 ∧ unitsInOne = Nat.pow 2 exponent := by
  unfold unitsInOne
  exact ⟨_, rfl, rfl⟩

theorem pow_mul_unitsInOne {a b c : Nat} (exponents : a + 1074 = b + c) :
    Nat.pow 2 a * unitsInOne = Nat.pow 2 b * Nat.pow 2 c := by
  obtain ⟨exponent, known, same⟩ := exists_unitsInOne
  have power (m n : Nat) : Nat.pow 2 m * Nat.pow 2 n = Nat.pow 2 (m + n) :=
    (Nat.pow_add 2 m n).symm
  rw [same, power, power, known, exponents]

theorem unitsInOne_ne_zero : unitsInOne ≠ 0 := by
  obtain ⟨exponent, _, same⟩ := exists_unitsInOne
  rw [same]
  exact Nat.ne_of_gt (Nat.two_pow_pos exponent)

private theorem ratio_eq (magnitude : Fin magnitudeCount) :
    ratio magnitude =
      let exponent := magnitude.val / Nat.pow 2 52
      let fraction := magnitude.val % Nat.pow 2 52
      if exponent = 0 then (fraction, unitsInOne)
      else if exponent < 1075 then (Nat.pow 2 52 + fraction, Nat.pow 2 (1075 - exponent))
      else ((Nat.pow 2 52 + fraction) * Nat.pow 2 (exponent - 1075), 1) := by
  unfold ratio unitsInOne
  rfl

private theorem ratio_ne_zero (magnitude : Fin magnitudeCount) : (ratio magnitude).2 ≠ 0 := by
  simp only [ratio_eq]
  split
  · exact unitsInOne_ne_zero
  · split
    · exact Nat.ne_of_gt (Nat.two_pow_pos _)
    · exact Nat.one_ne_zero

private theorem ratio_eq_units (magnitude : Fin magnitudeCount) :
    (ratio magnitude).1 * unitsInOne = units magnitude * (ratio magnitude).2 := by
  simp only [ratio_eq, units]
  generalize Nat.pow 2 52 + magnitude.val % Nat.pow 2 52 = significand
  generalize magnitude.val / Nat.pow 2 52 = exponent
  by_cases subnormal : exponent = 0
  · simp only [subnormal, if_true]
  · by_cases small : exponent < 1075
    · have factors := @pow_mul_unitsInOne 0 (exponent - 1) (1075 - exponent) (by omega)
      simp only [subnormal, small, if_true, if_false]
      rw [Nat.mul_assoc, ← factors, Nat.pow_eq, Nat.pow_zero, Nat.one_mul]
    · have factors := @pow_mul_unitsInOne (exponent - 1075) (exponent - 1) 0 (by omega)
      simp only [subnormal, small, if_false]
      rw [Nat.mul_assoc, factors, Nat.mul_assoc]

def scaled (x : Double) : Int :=
  if x.negative then -(units x.magnitude) else units x.magnitude

theorem number_eq_scaled (x : Double) : x.number = mkRat x.scaled unitsInOne := by
  have exact : ((ratio x.magnitude).1 : Int) * unitsInOne =
      (units x.magnitude : Int) * (ratio x.magnitude).2 := by
    exact_mod_cast ratio_eq_units x.magnitude
  rw [number, scaled, Rat.mkRat_eq_iff (ratio_ne_zero _) unitsInOne_ne_zero]
  split
  · rw [Int.neg_mul, Int.neg_mul, exact]
  · exact exact

theorem number_eq_iff {x y : Double} : x.number = y.number ↔ x.scaled = y.scaled := by
  rw [number_eq_scaled, number_eq_scaled, Rat.mkRat_eq_iff unitsInOne_ne_zero unitsInOne_ne_zero,
    Int.mul_eq_mul_right_iff (Int.natCast_ne_zero.2 unitsInOne_ne_zero)]

/-- Doubles are equal exactly if they stand for the same number. -/
theorem same_iff_number (x y : Double) : x.same y ↔ x.number = y.number := by
  have magnitudes : x.magnitude = y.magnitude ↔ units x.magnitude = units y.magnitude := by
    rw [units_injective.eq_iff, Fin.ext_iff]
  have zero : x.magnitude.val = 0 ↔ units x.magnitude = 0 :=
    (units_injective.eq_iff (b := 0)).symm
  simp only [number_eq_iff, same, scaled, Bool.and_eq_true, Bool.or_eq_true, decide_eq_true_eq,
    magnitudes, zero]
  cases x.negative <;> cases y.negative <;> simp <;> omega

/-- Of the two zeros the positive one. -/
def canonical (x : Double) : Double :=
  if x.magnitude.val = 0 then zero else x

theorem same_iff (x y : Double) : x.same y ↔ x.canonical = y.canonical := by
  obtain ⟨negative, magnitude⟩ := x
  obtain ⟨negative', magnitude'⟩ := y
  simp only [same, canonical, Bool.and_eq_true, Bool.or_eq_true, decide_eq_true_eq, Fin.ext_iff]
  by_cases zero : magnitude.val = 0 <;> by_cases zero' : magnitude'.val = 0
  · simp [zero, zero']
  · simp [zero, zero', Double.zero, Fin.ext_iff, eq_comm]
  · simp [zero, zero', Double.zero, Fin.ext_iff]
  · simp [zero, zero', Fin.ext_iff, and_comm]

end Double

namespace Value

mutual

def canonical : Value → Value
  | .unit => .unit
  | .bool value => .bool value
  | .int value => .int value
  | .real value => .real value.canonical
  | .string value => .string value
  | .list items => .list (canonicalItems items)
  | .set items => .set (canonicalItems items)
  | .none => .none
  | .some value => .some value.canonical
  | .dict entries => .dict (canonicalEntries entries)
  | .record fields => .record (canonicalFields fields)
  | .constructor name fields => .constructor name (canonicalFields fields)
  | .label text => .label text

def canonicalItems : List Value → List Value
  | [] => []
  | item :: rest => item.canonical :: canonicalItems rest

def canonicalEntries : List (Value × Value) → List (Value × Value)
  | [] => []
  | (key, value) :: rest => (key.canonical, value.canonical) :: canonicalEntries rest

def canonicalFields : List (String × Value) → List (String × Value)
  | [] => []
  | (name, value) :: rest => (name, value.canonical) :: canonicalFields rest

end

mutual

/-- Values are equal exactly if they have the same structure but for the sign of zeros. -/
theorem same_iff : (a b : Value) → (a.same b ↔ a.canonical = b.canonical)
  | .unit, b | .none, b => by cases b <;> simp [same, canonical]
  | .bool _, b | .int _, b | .string _, b | .label _, b => by cases b <;> simp [same, canonical]
  | .real x, b => by cases b <;> simp [same, canonical, x.same_iff]
  | .some x, b => by cases b <;> simp [same, canonical, same_iff x]
  | .list items, b | .set items, b => by cases b <;> simp [same, canonical, sameItems_iff items]
  | .dict entries, b => by cases b <;> simp [same, canonical, sameEntries_iff entries]
  | .record fields, b => by cases b <;> simp [same, canonical, sameFields_iff fields]
  | .constructor name fields, b => by cases b <;> simp [same, canonical, sameFields_iff fields]

theorem sameItems_iff : (as bs : List Value) →
    (sameItems as bs ↔ canonicalItems as = canonicalItems bs)
  | [], bs => by cases bs <;> simp [sameItems, canonicalItems]
  | _ :: _, [] => by simp [sameItems, canonicalItems]
  | a :: as, b :: bs => by simp [sameItems, canonicalItems, same_iff a b, sameItems_iff as bs]

theorem sameEntries_iff : (as bs : List (Value × Value)) →
    (sameEntries as bs ↔ canonicalEntries as = canonicalEntries bs)
  | [], bs => by cases bs <;> simp [sameEntries, canonicalEntries]
  | _ :: _, [] => by simp [sameEntries, canonicalEntries]
  | (key, value) :: as, (_, _) :: bs => by
    simp [sameEntries, canonicalEntries, same_iff key, same_iff value, sameEntries_iff as bs]

theorem sameFields_iff : (as bs : List (String × Value)) →
    (sameFields as bs ↔ canonicalFields as = canonicalFields bs)
  | [], bs => by cases bs <;> simp [sameFields, canonicalFields]
  | _ :: _, [] => by simp [sameFields, canonicalFields]
  | (name, value) :: as, (_, _) :: bs => by
    simp [sameFields, canonicalFields, same_iff value, sameFields_iff as bs]

end

theorem same_equivalence : Equivalence fun a b : Value => a.same b := by
  simp only [same_iff]
  exact ⟨fun _ => rfl, fun h => h.symm, fun h h' => h.trans h'⟩

end Value

end WireModel
