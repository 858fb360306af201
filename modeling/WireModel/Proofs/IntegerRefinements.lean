import WireModel.Proofs.Scalars

/-! Refinements of the integers, held against integers without a bound. Bounds and widths are
checked on 64-bit integers. In the widths where a shift and a negation are made, both give what they
give on the integers; in larger widths every 64-bit integer fits and nothing is computed. -/
namespace WireModel

/-- Two's complement of the width holds the integer. -/
def FitsWidth (width : UInt32) (n : Int) : Prop :=
  -Int.pow 2 (width.toNat - 1) ≤ n ∧ n < Int.pow 2 (width.toNat - 1)

instance (width : UInt32) (n : Int) : Decidable (FitsWidth width n) :=
  inferInstanceAs (Decidable (_ ∧ _))

namespace IntRestriction

/-- The rules that an integer breaks: the minimum, then the maximum, then the width. -/
def broken (r : IntRestriction) (n : Int) : List Violation :=
  ((r.min.filter (n < ·.toInt)).map .belowMinimum).toList ++
    ((r.max.filter (·.toInt < n)).map .aboveMaximum).toList ++
    ((r.width.filter (¬FitsWidth · n)).map .tooWide).toList

private theorem broken_eq_nil {r : IntRestriction} {n : Int} :
    r.broken n = [] ↔
      (∀ min, r.min = some min → min.toInt ≤ n) ∧ (∀ max, r.max = some max → n ≤ max.toInt) ∧
        ∀ width, r.width = some width → FitsWidth width n := by
  simp only [broken, List.append_eq_nil_iff, Option.toList_eq_nil_iff, Option.map_eq_none_iff,
    Option.filter_eq_none_iff, decide_eq_true_eq, Int.not_lt, Decidable.not_not, and_assoc]

/-- A width is checked by 64-bit arithmetic exactly as it is meant. -/
theorem width_broken_iff {width : UInt32} (positive : 1 ≤ width) {n : Int64} :
    (1 ≤ width && width ≤ 63 && (n < -widthBound width || widthBound width ≤ n)) = true ↔
      ¬FitsWidth width n.toInt := by
  have nonzero : width ≠ 0 := by
    rintro rfl
    exact absurd positive (by decide)
  have rule := @width_iff width n
  simp only [nonzero, ne_eq, not_false_eq_true, forall_const] at rule
  simp only [FitsWidth, rule, Decidable.not_not, Bool.and_eq_true, Bool.or_eq_true,
    decide_eq_true_eq, and_assoc]

theorem violation?_eq_head?_broken {r : IntRestriction}
    (positive : ∀ width, r.width = some width → 1 ≤ width) (n : Int64) :
    r.violation? n = (r.broken n.toInt).head? := by
  unfold violation? broken
  simp only [← Int64.lt_iff_toInt_lt]
  cases r.min.filter (n < ·) with
  | some min => rfl
  | none =>
    cases r.max.filter (· < n) with
    | some max => rfl
    | none =>
      cases there : r.width with
      | none => rfl
      | some width =>
        have checked := width_broken_iff (positive width there) (n := n)
        by_cases fits : FitsWidth width n.toInt
        · simp [Option.filter, fits, mt checked.1 (not_not_intro fits)]
        · simp [Option.filter, fits, checked.2 fits]

/-- An integer is in a refinement exactly if it keeps the bounds and fits in the width, on integers
without a bound. Where a width of up to 63 bits asks for a shift and a negation, the shift is by
fewer than 64 places and both results are those on the integers. Of several broken rules the minimum
is reported before the maximum, and the maximum before the width. -/
theorem integer_refinement_exact (r : IntRestriction)
    (positive : ∀ width, r.width = some width → 1 ≤ width) (n : Int64) :
    (r.violation? n = none ↔
      (∀ min, r.min = some min → min.toInt ≤ n.toInt) ∧
      (∀ max, r.max = some max → n.toInt ≤ max.toInt) ∧
      ∀ width, r.width = some width →
        -Int.pow 2 (width.toNat - 1) ≤ n.toInt ∧ n.toInt < Int.pow 2 (width.toNat - 1)) ∧
    (∀ width, r.width = some width → width ≤ 63 →
      width.toNat - 1 < 64 ∧ (widthBound width).toInt = Int.pow 2 (width.toNat - 1) ∧
      (-widthBound width).toInt = -Int.pow 2 (width.toNat - 1)) ∧
    r.violation? n = (r.broken n.toInt).head? := by
  have reported := violation?_eq_head?_broken positive n
  refine ⟨?_, fun width there small => ⟨?_, ?_⟩, reported⟩
  · rw [reported, List.head?_eq_none_iff]
    exact broken_eq_nil
  · have : width.toNat ≤ 63 := UInt32.le_iff_toNat_le.1 small
    omega
  · exact toInt_widthBound (positive width there) small

-- One bit more and the negation leaves the 64-bit integers.
example : -widthBound 64 = widthBound 64 := by decide

theorem integer_refinement_exact_byte :
    let r : IntRestriction := { min := some 1000, max := some 100, width := some 8 }
    let wide : IntRestriction := { width := some 64 }
    r.broken 500 = [.belowMinimum 1000, .aboveMaximum 100, .tooWide 8] ∧
      r.violation? 500 = some (.belowMinimum 1000) ∧
      (widthBound 8).toInt = 128 ∧ (-widthBound 8).toInt = -128 ∧
      wide.violation? Int64.minValue = none := by
  intro r wide
  obtain ⟨_, arithmetic, reported⟩ := integer_refinement_exact r (by simp [r]) 500
  obtain ⟨_, shift, negation⟩ := arithmetic 8 rfl (by decide)
  refine ⟨rfl, reported, shift, negation, ?_⟩
  refine (integer_refinement_exact wide (by simp [wide]) _).1.2 ⟨by simp [wide], by simp [wide], ?_⟩
  rintro width ⟨rfl⟩
  decide

end IntRestriction

end WireModel
