import WireModel.Decoding.Run
import WireModel.Proofs.Rounding

/-! What the leaves of decoders accept: scalars and values of refinements. Widths are ranges of
integers here, and the canonical text of an integer reads back as that integer. -/
namespace WireModel

/-- The values of a scalar type and how they are written. -/
inductive Basic.Writes : Basic → Json → Value → Prop
  | bool (value : Bool) : Writes .bool (.bool value) (.bool value)
  | int (value : Int64) : Writes .int (.number (.integer value)) (.int value)
  | real {number : Number} {x : Double} (denoted : number.Denotes x) :
    Writes .real (.number number) (.real x)
  | string (text : String) : Writes .string (.string text) (.string text)

/-- Whether an integer keeps the bounds, and fits in two's complement of the width. -/
structure IntRestriction.Admits (r : IntRestriction) (value : Int64) : Prop where
  min : ∀ min, r.min = some min → min ≤ value
  max : ∀ max, r.max = some max → value ≤ max
  width : ∀ width, r.width = some width → width ≠ 0 →
    -Int.pow 2 (width.toNat - 1) ≤ value.toInt ∧ value.toInt < Int.pow 2 (width.toNat - 1)

/-- Whether a text keeps the bounds on its length and matches the pattern as a whole. -/
structure StringRestriction.Admits [Pattern.Engine] (r : StringRestriction) (text : String) :
    Prop where
  minLength : ∀ min, r.minLength = some min → min.toNat ≤ text.length
  maxLength : ∀ max, r.maxLength = some max → text.length ≤ max.toNat
  regex : ∀ pattern, r.regex = some pattern →
    ∃ regex, Pattern.Engine.compile (Pattern.anchored pattern) = .ok regex ∧
      Pattern.Engine.matchesIn regex text

inductive Restriction.Writes [Pattern.Engine] : Restriction → Json → Value → Prop
  | int {r : IntRestriction} {value : Int64} (admitted : r.Admits value) :
    Writes (.int r) (.number (.integer value)) (.int value)
  | string {r : StringRestriction} {text : String} (admitted : r.Admits text) :
    Writes (.string r) (.string text) (.string text)

theorem toInt_widthBound {width : UInt32} (positive : 1 ≤ width) (small : width ≤ 63) :
    (widthBound width).toInt = Int.pow 2 (width.toNat - 1) ∧
      (-widthBound width).toInt = -Int.pow 2 (width.toNat - 1) := by
  have all : ∀ width < 64, 1 ≤ width →
      (widthBound (.ofNat width)).toInt = Int.pow 2 (width - 1) ∧
        (-widthBound (.ofNat width)).toInt = -Int.pow 2 (width - 1) := by
    decide +kernel
  have range := all width.toNat
    (Nat.lt_succ_of_le (UInt32.le_iff_toNat_le.1 small)) (UInt32.le_iff_toNat_le.1 positive)
  rwa [UInt32.ofNat_toNat] at range

theorem toInt_mem_of_le {width : Nat} (large : 64 ≤ width) (value : Int64) :
    -Int.pow 2 (width - 1) ≤ value.toInt ∧ value.toInt < Int.pow 2 (width - 1) := by
  have grows : 0x8000000000000000 ≤ Nat.pow 2 (width - 1) :=
    Nat.pow_le_pow_right Nat.two_pos (Nat.le_sub_one_of_lt large)
  have cast : Int.pow 2 (width - 1) = (Nat.pow 2 (width - 1) : Nat) :=
    (Int.natCast_pow 2 (width - 1)).symm
  have below := value.le_toInt
  have above := value.toInt_lt
  omega

namespace IntRestriction

theorem width_iff {width : UInt32} {value : Int64} :
    (width ≠ 0 → -Int.pow 2 (width.toNat - 1) ≤ value.toInt ∧
      value.toInt < Int.pow 2 (width.toNat - 1)) ↔
    ¬(1 ≤ width ∧ width ≤ 63 ∧ (value < -widthBound width ∨ widthBound width ≤ value)) := by
  by_cases zero : width = 0
  · subst zero
    simp
  have positive : 1 ≤ width := by
    rw [UInt32.le_iff_toNat_le]
    exact Nat.pos_of_ne_zero fun h => zero (UInt32.toNat_inj.1 h)
  by_cases small : width ≤ 63
  · obtain ⟨upper, lower⟩ := toInt_widthBound positive small
    simp only [ne_eq, zero, not_false_eq_true, forall_const, positive, small, true_and,
      Int64.lt_iff_toInt_lt, Int64.le_iff_toInt_le, upper, lower]
    omega
  · have large : 64 ≤ width.toNat := by
      rw [UInt32.le_iff_toNat_le] at small
      exact Nat.lt_of_not_le small
    exact ⟨fun _ checked => small checked.2.1, fun _ _ => toInt_mem_of_le large value⟩

@[simp]
theorem violation?_eq_none {r : IntRestriction} {value : Int64} :
    r.violation? value = none ↔ r.Admits value := by
  have fields : r.Admits value ↔
      r.min.filter (value < ·) = none ∧ r.max.filter (· < value) = none ∧
        ∀ width, r.width = some width →
          ¬(1 ≤ width ∧ width ≤ 63 ∧ (value < -widthBound width ∨ widthBound width ≤ value)) := by
    simp only [← width_iff, Option.filter_eq_none_iff, decide_eq_true_eq, Int64.not_lt]
    exact ⟨fun h => ⟨h.min, h.max, h.width⟩, fun ⟨min, max, width⟩ => ⟨min, max, width⟩⟩
  rw [fields, violation?]
  cases r.min.filter (value < ·) with
  | some min => simp
  | none =>
    cases r.max.filter (· < value) with
    | some max => simp
    | none =>
      cases r.width with
      | none => simp
      | some width => simp [and_assoc]

end IntRestriction

@[simp]
theorem StringRestriction.violation?_eq_none [Pattern.Engine] {r : StringRestriction}
    {text : String} :
    r.violation? text = none ↔ r.Admits text := by
  have fields : r.Admits text ↔
      r.minLength.filter (text.length < ·.toNat) = none ∧
        r.maxLength.filter (·.toNat < text.length) = none ∧
        ∀ pattern, r.regex = some pattern →
          ∃ regex, Pattern.Engine.compile (Pattern.anchored pattern) = .ok regex ∧
            Pattern.Engine.matchesIn regex text := by
    simp only [Option.filter_eq_none_iff, decide_eq_true_eq, Nat.not_lt]
    exact ⟨fun h => ⟨h.minLength, h.maxLength, h.regex⟩, fun ⟨min, max, regex⟩ => ⟨min, max, regex⟩⟩
  rw [fields, violation?]
  cases r.minLength.filter (text.length < ·.toNat) with
  | some min => simp
  | none =>
    cases r.maxLength.filter (·.toNat < text.length) with
    | some max => simp
    | none =>
      cases r.regex with
      | none => simp
      | some pattern =>
        cases compiled : Pattern.Engine.compile (Pattern.anchored pattern) <;> simp [compiled]

namespace Text

private theorem digitValue?_of_isDigit {c : Char} (h : c.isDigit) :
    digitValue? c = some (c.toNat - '0'.toNat) := by
  obtain ⟨low, high⟩ := Char.isDigit_iff_toNat.1 h
  have inRange : '0' ≤ c ∧ c ≤ '9' := ⟨Char.le_def.2 low, Char.le_def.2 high⟩
  simp only [digitValue?, inRange, decide_true, Bool.and_self, if_true]
  rfl

private theorem le_ofDigitChars (digits : List Char) (value : Nat) :
    value ≤ Nat.ofDigitChars 10 digits value := by
  induction digits generalizing value with
  | nil => exact Nat.le_refl value
  | cons c rest ih =>
    rw [Nat.ofDigitChars_cons]
    exact Nat.le_trans (by omega) (ih _)

private theorem readDigits_eq_ok {bound : Nat} {overflow : IntegerFault} {digits : List Char}
    (areDigits : ∀ c ∈ digits, c.isDigit) {value : Nat}
    (inBounds : Nat.ofDigitChars 10 digits value ≤ bound) :
    readDigits bound overflow value digits = .ok (Nat.ofDigitChars 10 digits value) := by
  induction digits generalizing value with
  | nil => rfl
  | cons c rest ih =>
    rw [Nat.ofDigitChars_cons] at inBounds ⊢
    have fits := Nat.le_trans (le_ofDigitChars rest _) inBounds
    simp only [readDigits, digitValue?_of_isDigit (areDigits c List.mem_cons_self), fits, if_true]
    exact ih (fun d member => areDigits d (List.mem_cons_of_mem _ member)) inBounds

private theorem readDigits_toDigits {bound n : Nat} {overflow : IntegerFault}
    (inBounds : n ≤ bound) : readDigits bound overflow 0 (Nat.toDigits 10 n) = .ok n := by
  have value : Nat.ofDigitChars 10 (Nat.toDigits 10 n) 0 = n := Nat.ofDigitChars_ten_toDigits
  rw [readDigits_eq_ok (fun c member => Nat.isDigit_of_mem_toDigits (by decide) (by decide) member)
    (by rwa [value]), value]

private theorem readInteger_repr {n : Nat} (inBounds : n ≤ 0x7FFFFFFFFFFFFFFF) :
    readInteger n.repr = .ok (Int64.ofInt n) := by
  have read := @readDigits_toDigits _ _ .tooLarge inBounds
  have head := @Nat.isDigit_of_mem_toDigits 10 n
  simp only [readInteger, Nat.toList_repr]
  cases digits : Nat.toDigits 10 n with
  | nil => exact absurd digits Nat.toDigits_ne_nil
  | cons c rest =>
    rw [digits] at read head
    have isDigit : c.isDigit := head (by decide) (by decide) List.mem_cons_self
    split
    · next h => cases h
    · next h => cases h; cases isDigit
    · next h => cases h; cases isDigit
    · next h => cases h; cases isDigit
    · next h => cases h; cases isDigit
    · rw [read]
      rfl

private theorem readInteger_neg_repr {n : Nat} (inBounds : n ≤ 0x8000000000000000) :
    readInteger ("-" ++ n.repr) = .ok (Int64.ofInt (-n)) := by
  have read := @readDigits_toDigits _ _ .tooSmall inBounds
  have digits : ("-" ++ n.repr).toList = '-' :: Nat.toDigits 10 n := by
    rw [String.toList_append, Nat.toList_repr]
    rfl
  simp only [readInteger, digits]
  cases some : Nat.toDigits 10 n with
  | nil => exact absurd some Nat.toDigits_ne_nil
  | cons c rest =>
    rw [some] at read
    simp only [read]
    rfl

@[simp]
theorem readInteger_integerText (value : Int64) : readInteger (integerText value) = .ok value := by
  have above := value.toInt_lt
  have below := value.le_toInt
  rw [integerText, Int.toString_eq_repr, Int.repr_eq_if]
  split
  · next positive =>
    rw [readInteger_repr (by omega), Int.toNat_of_nonneg positive, Int64.ofInt_toInt]
  · next negative =>
    rw [readInteger_neg_repr (by omega), Int.toNat_of_nonneg (by omega), Int.neg_neg,
      Int64.ofInt_toInt]

end Text

namespace Decoding

theorem scalar_eq_ok {path : Path} {basic : Basic} {input : Json} {value : Value} :
    scalar path basic input = .ok value ↔ basic.Writes input value := by
  constructor
  · intro h
    unfold scalar at h
    split at h
    · cases h; exact .bool _
    · cases h; exact .int _
    · cases h; exact .real (Number.denotes_iff.2 rfl)
    · cases h; exact .string _
    all_goals cases h
  · rintro (_ | _ | denoted | _)
    · rfl
    · rfl
    · rw [Number.denotes_iff.1 denoted]
      rfl
    · rfl

theorem refined_eq_ok [Pattern.Engine] {path : Path} {name : String} {restriction : Restriction}
    {input : Json} {value : Value} :
    refined path name restriction input = .ok value ↔ restriction.Writes input value := by
  constructor
  · intro h
    unfold refined at h
    split at h
    · split at h
      · next admitted =>
        cases h
        exact .int (IntRestriction.violation?_eq_none.1 admitted)
      · cases h
    · split at h
      · next admitted =>
        cases h
        exact .string (StringRestriction.violation?_eq_none.1 admitted)
      · cases h
    all_goals cases h
  · rintro (admitted | admitted)
    · simp only [refined, IntRestriction.violation?_eq_none.2 admitted]
    · simp only [refined, StringRestriction.violation?_eq_none.2 admitted]

theorem enumeration_eq_ok {path : Path} {name : String} {labels : List String} {input : Json}
    {value : Value} :
    enumeration path name labels input = .ok value ↔
      ∃ label ∈ labels, input = .string label ∧ value = .label label := by
  unfold enumeration
  split
  · next label =>
    by_cases known : label ∈ labels
    · simp [known, eq_comm]
    · simp [known]
  · next other =>
    simp only [reduceCtorEq, false_iff]
    rintro ⟨label, _, rfl, _⟩
    exact other label rfl

end Decoding

end WireModel
