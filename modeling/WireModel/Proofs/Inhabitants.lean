import WireModel.Pattern.Compiled
import WireModel.Proofs.Processing
import WireModel.Proofs.Scalars

/-! Which refinements have a value. The check compares the two bounds of a restriction and looks at
its width alone, while a value has to keep all three; so a refinement that passes has a value
unless one of its bounds misses the range of its width. -/
namespace WireModel

namespace IntRestriction

structure Checked (r : IntRestriction) : Prop where
  ordered : ∀ min max, r.min = some min → r.max = some max → min ≤ max
  width : ∀ width, r.width = some width → 1 ≤ width.toNat ∧ width.toNat ≤ 64

/-- The range of the width reaches past the least value and down to the greatest one. -/
structure WidthMeetsBounds (r : IntRestriction) : Prop where
  min : ∀ width min, r.width = some width → r.min = some min →
    min.toInt < Int.pow 2 (width.toNat - 1)
  max : ∀ width max, r.width = some width → r.max = some max →
    -Int.pow 2 (width.toNat - 1) ≤ max.toInt

/-- The least integer that keeps the minimum and the width. -/
def lowest (r : IntRestriction) : Int :=
  Max.max ((r.min.map Int64.toInt).getD (-0x8000000000000000))
    ((r.width.map fun width => -Int.pow 2 (width.toNat - 1)).getD (-0x8000000000000000))

variable {r : IntRestriction}

private theorem Checked.halfRange (checked : r.Checked) {width : UInt32}
    (has : r.width = some width) :
    0 < Int.pow 2 (width.toNat - 1) ∧ Int.pow 2 (width.toNat - 1) ≤ 0x8000000000000000 := by
  have small : width.toNat - 1 ≤ 63 := by
    have := (checked.width width has).2
    omega
  have cast : Int.pow 2 (width.toNat - 1) = (Nat.pow 2 (width.toNat - 1) : Nat) :=
    (Int.natCast_pow 2 (width.toNat - 1)).symm
  have positive : 0 < Nat.pow 2 (width.toNat - 1) := Nat.two_pow_pos _
  have bounded : Nat.pow 2 (width.toNat - 1) ≤ 0x8000000000000000 :=
    Nat.pow_le_pow_right Nat.two_pos small
  omega

private theorem le_lowest_of_min {min : Int64} (has : r.min = some min) : min.toInt ≤ r.lowest := by
  simp only [lowest, has, Option.map_some, Option.getD_some]
  omega

private theorem le_lowest_of_width {width : UInt32} (has : r.width = some width) :
    -Int.pow 2 (width.toNat - 1) ≤ r.lowest := by
  simp only [lowest, has, Option.map_some, Option.getD_some]
  omega

theorem lowest_cases (r : IntRestriction) :
    (∃ min, r.min = some min ∧ r.lowest = min.toInt) ∨
      (∃ width, r.width = some width ∧ r.lowest = -Int.pow 2 (width.toNat - 1)) ∨
      r.lowest = -0x8000000000000000 := by
  unfold lowest
  cases r.min <;> cases r.width <;> simp <;> omega

private theorem toInt_ofInt_lowest (checked : r.Checked) :
    (Int64.ofInt r.lowest).toInt = r.lowest := by
  have inRange : -0x8000000000000000 ≤ r.lowest ∧ r.lowest < 0x8000000000000000 := by
    rcases r.lowest_cases with ⟨min, _, same⟩ | ⟨width, has, same⟩ | same
    · have below := min.le_toInt
      have above := min.toInt_lt
      omega
    · have half := checked.halfRange has
      omega
    · omega
  exact Int64.toInt_ofInt_of_le inRange.1 inRange.2

theorem exists_admits_iff (checked : r.Checked) :
    (∃ value, r.Admits value) ↔ r.WidthMeetsBounds := by
  constructor
  · rintro ⟨value, admitted⟩
    have fits {width} (has : r.width = some width) :=
      admitted.width width has fun zero => by simpa [zero] using (checked.width width has).1
    refine ⟨fun width min has below => ?_, fun width max has above => ?_⟩
    · exact Int.lt_of_le_of_lt (Int64.le_iff_toInt_le.1 (admitted.min min below)) (fits has).2
    · exact Int.le_trans (fits has).1 (Int64.le_iff_toInt_le.1 (admitted.max max above))
  · intro meets
    have value := toInt_ofInt_lowest checked
    refine ⟨Int64.ofInt r.lowest, ⟨fun min has => ?_, fun max has => ?_, fun width has _ => ?_⟩⟩
    · rw [Int64.le_iff_toInt_le, value]
      exact le_lowest_of_min has
    · rw [Int64.le_iff_toInt_le, value]
      rcases r.lowest_cases with ⟨min, below, same⟩ | ⟨width, wide, same⟩ | same
      · rw [same]
        exact Int64.le_iff_toInt_le.1 (checked.ordered min max below has)
      · rw [same]
        exact meets.max width max wide has
      · rw [same]
        exact max.le_toInt
    · rw [value]
      refine ⟨le_lowest_of_width has, ?_⟩
      have half := checked.halfRange has
      rcases r.lowest_cases with ⟨min, below, same⟩ | ⟨other, wide, same⟩ | same
      · rw [same]
        exact meets.min width min has below
      · cases has.symm.trans wide
        omega
      · omega

end IntRestriction

theorem StringRestriction.exists_admits [Pattern.Engine] {r : StringRestriction}
    (ordered : ∀ min max, r.minLength = some min → r.maxLength = some max → min ≤ max)
    (free : r.regex = none) : ∃ text, r.Admits text := by
  refine ⟨.ofList (List.replicate ((r.minLength.map UInt64.toNat).getD 0) 'a'), ?_, ?_, ?_⟩
  · intro min has
    simp [has]
  · intro max has
    cases low : r.minLength with
    | none => simp
    | some min => simpa using UInt64.le_iff_toNat_le.1 (ordered min max low has)
  · intro pattern has
    cases free.symm.trans has

namespace Coding

variable {declaration : String} {position : Position}

private theorem checked_of_intErrors {r : IntRestriction}
    (h : intErrors declaration position r = []) : r.Checked := by
  obtain ⟨bounds, widths⟩ := List.append_eq_nil_iff.1 h
  refine ⟨fun min max low high => ?_, fun width has => ?_⟩
  · simpa [low, high] using bounds
  · simp only [has, Bool.or_eq_true, decide_eq_true_eq, ite_eq_right_iff, List.cons_ne_nil,
      imp_false, not_or, UInt32.not_lt] at widths
    obtain ⟨positive, small⟩ := widths
    refine ⟨Nat.pos_of_ne_zero fun zero => positive (UInt32.toNat_inj.1 zero), ?_⟩
    exact UInt32.le_iff_toNat_le.1 small

theorem ordered_of_stringErrors [Pattern.Engine] {r : StringRestriction}
    (h : stringErrors declaration position r = []) :
    ∀ min max, r.minLength = some min → r.maxLength = some max → min ≤ max := by
  intro min max low high
  have lengths := (List.append_eq_nil_iff.1 h).1
  simpa [low, high] using lengths

/-- A refinement of the strings without a pattern has a value if it passes the check, and one of
the integers has a value exactly if its width meets its bounds. -/
theorem checked_refinements_inhabited [Pattern.Engine] {model accepted : Model}
    {declaration : Declaration Classification} (checked : check model = .ok accepted)
    (member : declaration ∈ accepted.declarations) :
    (∀ r, declaration.body = .restricted (.int r) →
      ((∃ value, r.violation? value = none) ↔ r.WidthMeetsBounds)) ∧
    ∀ r, declaration.body = .restricted (.string r) → r.regex = none →
      ∃ text, r.violation? text = none := by
  obtain ⟨_, none, rfl⟩ := check_eq_ok.1 checked
  have noErrors := List.flatMap_eq_nil_iff.1 none declaration member
  refine ⟨fun r isInt => ?_, fun r isString free => ?_⟩
  · simp only [declarationErrors, isInt, restrictionErrors] at noErrors
    simp only [IntRestriction.violation?_eq_none]
    exact IntRestriction.exists_admits_iff (checked_of_intErrors noErrors)
  · simp only [declarationErrors, isString, restrictionErrors] at noErrors
    simp only [StringRestriction.violation?_eq_none]
    exact StringRestriction.exists_admits (ordered_of_stringErrors noErrors) free

def refinedInt (r : IntRestriction) : Model where
  declarations := [{ name := "Byte", body := .restricted (.int r) }]

section Program

attribute [local instance] Pattern.regexEngine

theorem checked_refinements_inhabited_byte :
    ∃ r : IntRestriction, r.width = some 8 ∧ r.min = some 127 ∧ r.WidthMeetsBounds ∧
      check (refinedInt r) = .ok (refinedInt r) ∧ ∃ value, r.violation? value = none := by
  have meets : ({ min := some 127, width := some 8 } : IntRestriction).WidthMeetsBounds := by
    refine ⟨?_, nofun⟩
    rintro width min ⟨rfl⟩ ⟨rfl⟩
    decide
  have checked : check (refinedInt { min := some 127, width := some 8 }) = .ok _ :=
    check_eq_ok.2 ⟨rfl, rfl, rfl⟩
  exact ⟨_, rfl, rfl, meets, checked,
    ((checked_refinements_inhabited checked (List.mem_singleton_self _)).1 _ rfl).2 meets⟩

/-- The check lets a refinement through that no integer satisfies. -/
theorem width_misses_minimum :
    ∃ r : IntRestriction, check (refinedInt r) = .ok (refinedInt r) ∧
      ∀ value, r.violation? value ≠ none := by
  refine ⟨{ min := some 1000, width := some 8 }, check_eq_ok.2 ⟨rfl, rfl, rfl⟩, ?_⟩
  intro value none
  have admitted := IntRestriction.violation?_eq_none.1 none
  have low := Int64.le_iff_toInt_le.1 (admitted.min 1000 rfl)
  have high := (admitted.width 8 rfl (by decide)).2
  exact absurd (Int.lt_of_le_of_lt low high) (by decide)

end Program

end Coding

end WireModel
