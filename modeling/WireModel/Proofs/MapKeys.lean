import WireModel.Pattern.Compiled
import WireModel.Proofs.Linking
import Mathlib.Data.List.Induction

/-! Keys of maps and plain values of one scalar are accepted alike. An integer among the keys has
to be spelled in its canonical decimal form, and then it is accepted exactly if the integer is; a
label or a text among the keys is accepted exactly if it is as a string. -/
namespace WireModel

namespace Text

/-- Digits that spell a positive number; the first of them is not zero. -/
structure SpellsPositive (digits : List Char) (n : Nat) : Prop where
  areDigits : ∀ c ∈ digits, c.isDigit
  notEmpty : digits ≠ []
  noLeadingZero : digits.head? ≠ some '0'
  value : Nat.ofDigitChars 10 digits 0 = n

/-- The canonical decimal text of an integer: no sign but the minus of a negative integer, and no
zero before other digits or after the minus. -/
inductive Canonical : String → Int → Prop
  | zero : Canonical "0" 0
  | positive {digits : List Char} {n : Nat} (spelled : SpellsPositive digits n) :
      Canonical (.ofList digits) n
  | negative {digits : List Char} {n : Nat} (spelled : SpellsPositive digits n) :
      Canonical (.ofList ('-' :: digits)) (-n)

private theorem digitChar_of_isDigit {c : Char} (h : c.isDigit) :
    c.toNat - '0'.toNat < 10 ∧ (c.toNat - '0'.toNat).digitChar = c := by
  obtain ⟨low, high⟩ := Char.isDigit_iff_toNat.1 h
  have zero : '0'.toNat = 48 := rfl
  have nine : '9'.toNat = 57 := rfl
  have small : c.toNat - '0'.toNat < 10 := by omega
  refine ⟨small, Char.toNat_inj.1 ?_⟩
  rw [Nat.toNat_digitChar_of_lt_ten small]
  omega

theorem SpellsPositive.toDigits_eq {digits : List Char} {n : Nat} (h : SpellsPositive digits n) :
    0 < n ∧ Nat.toDigits 10 n = digits := by
  obtain ⟨areDigits, notEmpty, noLeadingZero, rfl⟩ := h
  induction digits using List.reverseRecOn with
  | nil => exact absurd rfl notEmpty
  | append_singleton front c ih =>
    obtain ⟨small, same⟩ := digitChar_of_isDigit (areDigits c (by simp))
    rw [Nat.ofDigitChars_append, Nat.ofDigitChars_cons, Nat.ofDigitChars_nil]
    by_cases single : front = []
    · subst single
      have notZero : c.toNat - '0'.toNat ≠ 0 := by
        intro zero
        rw [zero] at same
        exact noLeadingZero (congrArg some same.symm)
      rw [Nat.ofDigitChars_nil, Nat.mul_zero, Nat.zero_add, Nat.toDigits_of_lt_base small, same]
      exact ⟨Nat.pos_of_ne_zero notZero, rfl⟩
    · rw [List.head?_append_of_ne_nil _ single] at noLeadingZero
      obtain ⟨positive, written⟩ :=
        ih (fun d member => areDigits d (List.mem_append_left _ member)) single noLeadingZero
      rw [← Nat.toDigits_append_toDigits (by decide) positive small, written,
        Nat.toDigits_of_lt_base small, same]
      exact ⟨by omega, rfl⟩

private theorem head?_toDigits_ne_zero {n : Nat} (positive : 0 < n) :
    (Nat.toDigits 10 n).head? ≠ some '0' := by
  induction n using Nat.strongRecOn with
  | _ n ih =>
    by_cases small : n < 10
    · have digits : ∀ n < 10, 0 < n → n.digitChar ≠ '0' := by decide
      rw [Nat.toDigits_of_lt_base small]
      simpa using digits n small positive
    · rw [Nat.toDigits_of_base_le (by decide) (by omega),
        List.head?_append_of_ne_nil _ Nat.toDigits_ne_nil]
      exact ih (n / 10) (by omega) (by omega)

private theorem spellsPositive_toDigits {n : Nat} (positive : 0 < n) :
    SpellsPositive (Nat.toDigits 10 n) n where
  areDigits _ member := Nat.isDigit_of_mem_toDigits (by decide) (by decide) member
  notEmpty := Nat.toDigits_ne_nil
  noLeadingZero := head?_toDigits_ne_zero positive
  value := Nat.ofDigitChars_ten_toDigits

private theorem canonical_repr (n : Nat) : Canonical n.repr n := by
  rw [Nat.repr_eq_ofList_toDigits]
  cases n with
  | zero => exact .zero
  | succ n => exact .positive (spellsPositive_toDigits n.succ_pos)

private theorem neg_repr_eq (n : Nat) :
    "-" ++ n.repr = String.ofList ('-' :: Nat.toDigits 10 n) := by
  apply String.toList_inj.1
  rw [String.toList_append, Nat.toList_repr, String.toList_ofList, String.toList_ofList]
  exact List.singleton_append

private theorem canonical_neg_repr {n : Nat} (positive : 0 < n) :
    Canonical ("-" ++ n.repr) (-n) := by
  rw [neg_repr_eq]
  exact .negative (spellsPositive_toDigits positive)

/-- Integers are written in their canonical text, and no other text is canonical. -/
theorem integerText_eq_iff {value : Int64} {text : String} :
    integerText value = text ↔ Canonical text value.toInt := by
  rw [integerText, Int.toString_eq_repr]
  generalize value.toInt = n
  constructor
  · rintro rfl
    rw [Int.repr_eq_if]
    split
    · next notNegative =>
      have canonical := canonical_repr n.toNat
      rwa [Int.toNat_of_nonneg notNegative] at canonical
    · next negative =>
      have canonical := canonical_neg_repr (n := (-n).toNat) (by omega)
      rwa [Int.toNat_of_nonneg (by omega), Int.neg_neg] at canonical
  · intro canonical
    cases canonical with
    | zero => rfl
    | positive spelled =>
      obtain ⟨_, rfl⟩ := spelled.toDigits_eq
      exact Nat.repr_eq_ofList_toDigits
    | @negative digits n spelled =>
      obtain ⟨positive, rfl⟩ := spelled.toDigits_eq
      rw [Int.repr_eq_if, if_neg (by omega), Int.neg_neg, Int.toNat_natCast, neg_repr_eq]

end Text

namespace Decoding

section Keys

variable [Pattern.Engine] {table : DecoderTable} {target name : String} {decoder : Decoder}

/-- A key whose target is what it relies on is only ever rejected as a key, under its own text. -/
theorem key_error_of_expects {keyDecoder : KeyDecoder} {path : Path} {raw : String}
    {error : DecodeError} (found : table.get? target = some decoder)
    (h : key table path raw keyDecoder = .error error)
    (refers : keyDecoder.target? = some target) (expects : keyDecoder.Expects decoder) :
    ∃ fault, error = .invalidKey path raw fault := by
  have fits : keyDecoder.FitsIn table := by
    intro other body same there
    cases refers.symm.trans same
    cases found.symm.trans there
    exact expects
  obtain ⟨missing, _, same, absent⟩ | ⟨fault, same, _⟩ := key_error_of_fits fits h
  · cases refers.symm.trans same
    cases found.symm.trans absent
  · exact ⟨fault, same⟩

private theorem key_enumeration_eq_ok {labels : List String} {path place : Path} {raw : String}
    {value : Value} (found : table.get? target = some (.enumeration name labels)) :
    key table path raw (.enumeration target) = .ok value ↔
      enumeration place name labels (.string raw) = .ok value := by
  simp only [key, found, enumeration]
  split <;> simp

private theorem key_string_eq_ok {r : StringRestriction} {path place : Path} {raw : String}
    {value : Value} (found : table.get? target = some (.refined name (.string r))) :
    key table path raw (.refined target .string) = .ok value ↔
      refined place name (.string r) (.string raw) = .ok value := by
  simp only [key, keyScalar, found, keyViolation?, refined]
  split <;> simp

private theorem key_int_eq_ok {r : IntRestriction} {path place : Path} {raw : String}
    {value : Value} (found : table.get? target = some (.refined name (.int r))) :
    key table path raw (.refined target .int) = .ok value ↔
      ∃ n : Int64, Text.Canonical raw n.toInt ∧ value = .int n ∧
        refined place name (.int r) (.number (.integer n)) = .ok value := by
  simp only [key_eq_ok, refined_eq_ok, ← Text.integerText_eq_iff]
  constructor
  · intro reads
    cases reads with
    | @integer _ _ _ n there admitted =>
      cases found.symm.trans there
      exact ⟨n, rfl, rfl, .int admitted⟩
    | string notInteger => exact absurd rfl notInteger
  · rintro ⟨n, rfl, rfl, ⟨admitted⟩⟩
    exact .integer found admitted

/-- Keys of a map are accepted as plain values are. A label or a text that its target bounds is a
key exactly if it is a value, as a string; an integer is a key exactly in its canonical text, and
exactly if it is a value, as a number. All other keys are rejected under their own text. -/
theorem keys_accepted_as_values (found : table.get? target = some decoder) (path : Path)
    (raw : String) (entered : List String) (place : Path) :
    (∀ name labels, decoder = .enumeration name labels →
      (∀ value, key table path raw (.enumeration target) = .ok value ↔
        run table entered place decoder (.string raw) = .ok value) ∧
      ∀ error, key table path raw (.enumeration target) = .error error →
        ∃ fault, error = .invalidKey path raw fault) ∧
    (∀ name restriction, decoder = .refined name (.string restriction) →
      (∀ value, key table path raw (.refined target .string) = .ok value ↔
        run table entered place decoder (.string raw) = .ok value) ∧
      ∀ error, key table path raw (.refined target .string) = .error error →
        ∃ fault, error = .invalidKey path raw fault) ∧
    (∀ name restriction, decoder = .refined name (.int restriction) →
      (∀ value, key table path raw (.refined target .int) = .ok value ↔
        ∃ n : Int64, Text.Canonical raw n.toInt ∧ value = .int n ∧
          run table entered place decoder (.number (.integer n)) = .ok value) ∧
      ∀ error, key table path raw (.refined target .int) = .error error →
        ∃ fault, error = .invalidKey path raw fault) := by
  refine ⟨?_, ?_, ?_⟩
  · rintro name labels rfl
    refine ⟨fun value => ?_, fun error h => key_error_of_expects found h rfl ⟨name, labels, rfl⟩⟩
    rw [run]
    exact key_enumeration_eq_ok found
  · rintro name r rfl
    refine ⟨fun value => ?_, fun error h => key_error_of_expects found h rfl ⟨name, _, rfl, rfl⟩⟩
    rw [run]
    exact key_string_eq_ok found
  · rintro name r rfl
    refine ⟨fun value => ?_, fun error h => key_error_of_expects found h rfl ⟨name, _, rfl, rfl⟩⟩
    simp only [run]
    exact key_int_eq_ok found

end Keys

section Program

attribute [local instance] Pattern.regexEngine

theorem keys_accepted_as_values_port :
    ∃ table : DecoderTable,
      table.get? "Port" = some (.refined "Port" (.int { min := some 1, width := some 16 })) ∧
      key table {} "32767" (.refined "Port" .int) = .ok (.int 32767) ∧
      (∃ n : Int64, Text.Canonical "32767" n.toInt ∧ Value.int 32767 = .int n ∧
        run table [] {} (.refined "Port" (.int { min := some 1, width := some 16 }))
          (.number (.integer n)) = .ok (.int 32767)) ∧
      key table {} "+80" (.refined "Port" .int) = .error (.invalidKey {} "+80" .notCanonical) ∧
      ¬∃ n : Int64, Text.Canonical "+80" n.toInt ∧ Value.int 80 = .int n ∧
        run table [] {} (.refined "Port" (.int { min := some 1, width := some 16 }))
          (.number (.integer n)) = .ok (.int 80) := by
  let table : DecoderTable :=
    (∅ : DecoderTable).insert "Port" (.refined "Port" (.int { min := some 1, width := some 16 }))
  have found : table.get? "Port" =
    some (.refined "Port" (.int { min := some 1, width := some 16 })) := rfl
  have alike (raw : String) := (keys_accepted_as_values found {} raw [] {}).2.2 _ _ rfl
  have accepted : key table {} "32767" (.refined "Port" .int) = .ok (.int 32767) := rfl
  have rejected : key table {} "+80" (.refined "Port" .int) =
    .error (.invalidKey {} "+80" .notCanonical) := rfl
  refine ⟨table, found, accepted, ((alike "32767").1 _).1 accepted, rejected, fun reads => ?_⟩
  cases rejected.symm.trans (((alike "+80").1 _).2 reads)

end Program

end Decoding

end WireModel
