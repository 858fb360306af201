import WireModel.Proofs.AnchoredPatterns
import WireModel.Proofs.Inhabitants
import WireModel.Proofs.Linking
import WireModel.Proofs.WireKeys

/-! Patterns that fail at decoding. A pattern is checked as it stands, but it decides about values
between anchors. So decoding can blame a pattern that passed the check, and it does so for some
input exactly if a decoder has a pattern that ends in a comment or that the anchors carry over the
limits of the engine. -/
namespace WireModel

/-- The reason that an error gives against a value of a refinement or against a key. -/
def DecodeError.reason? : DecodeError → Option String
  | .refinement _ _ _ reason => some reason.text
  | .invalidKey _ _ reason => some reason.text
  | _ => none

/-- Blames the pattern of a refinement, not the input. -/
def DecodeError.BlamesPattern (error : DecodeError) : Prop :=
  ∃ reason, error.reason? = some reason ∧ "pattern does not compile".toList <+: reason.toList

def Restriction.Fails [Pattern.Engine] (restriction : Restriction) : Prop :=
  ∃ r pattern fault, restriction = .string r ∧ r.regex = some pattern ∧
    Pattern.Engine.compile (Pattern.anchored pattern) = .error fault

section Texts

/-- The character that the text of a violation starts with. -/
def Violation.initial : Violation → Char
  | .belowMinimum _ => 'b'
  | .aboveMaximum _ => 'a'
  | .tooWide _ | .mismatch _ => 'd'
  | .tooShort _ => 's'
  | .tooLong _ => 'l'
  | .badPattern _ => 'p'
  | .wrongScalar => 'v'

theorem head?_append_text {text rest : String} {c : Char} (h : text.toList.head? = some c) :
    (text ++ rest).toList.head? = some c := by
  simp [String.toList_append, h]

private theorem Violation.head?_text (violation : Violation) :
    violation.text.toList.head? = some violation.initial := by
  cases violation with
  | belowMinimum | aboveMaximum | badPattern => exact head?_append_text rfl
  | tooWide | tooShort | tooLong | mismatch => exact head?_append_text (head?_append_text rfl)
  | wrongScalar => rfl

theorem head?_of_blame {text : String} (h : "pattern does not compile".toList <+: text.toList) :
    text.toList.head? = some 'p' := by
  obtain ⟨rest, same⟩ := h
  rw [← same]
  rfl

theorem Violation.eq_badPattern {violation : Violation}
    (h : "pattern does not compile".toList <+: violation.text.toList) :
    ∃ fault, violation = .badPattern fault := by
  have first := violation.head?_text.symm.trans (head?_of_blame h)
  cases violation with
  | badPattern fault => exact ⟨fault, rfl⟩
  | _ => cases first

theorem KeyFault.eq_badPattern {path : Path} {key : String} {fault : KeyFault}
    (linked : ¬(DecodeError.invalidKey path key fault).Mislinked)
    (h : "pattern does not compile".toList <+: fault.text.toList) :
    ∃ pattern, fault = .violates (.badPattern pattern) := by
  cases fault with
  | violates violation =>
    obtain ⟨pattern, rfl⟩ := Violation.eq_badPattern h
    exact ⟨pattern, rfl⟩
  | notEnumeration | notRefinement => exact (linked trivial).elim
  | notLabel =>
    cases (head?_append_text (c := 'n') rfl).symm.trans (head?_of_blame h)
  | notInteger =>
    cases (head?_append_text (c := 'n') (head?_append_text rfl)).symm.trans (head?_of_blame h)
  | notCanonical => cases head?_of_blame h

private theorem blamesPattern_refinement {path : Path} {name value : String}
    (fault : Pattern.Fault) :
    (DecodeError.refinement path name value (.badPattern fault)).BlamesPattern := by
  have start : "pattern does not compile".toList <+: "pattern does not compile: ".toList := by
    decide
  have spelt : (Violation.badPattern fault).text =
      "pattern does not compile: " ++ fault.message := rfl
  refine ⟨_, rfl, ?_⟩
  rw [spelt, String.toList_append]
  exact start.trans (List.prefix_append _ _)

end Texts

private theorem IntRestriction.violation?_ne_badPattern {r : IntRestriction} {value : Int64}
    {fault : Pattern.Fault} : r.violation? value ≠ some (.badPattern fault) := by
  unfold violation?
  split
  · simp
  · simp
  · split <;> simp
  · simp

namespace StringRestriction

variable [Pattern.Engine] {r : StringRestriction} {text : String} {fault : Pattern.Fault}

private theorem fails_of_violation? (h : r.violation? text = some (.badPattern fault)) :
    (Restriction.string r).Fails := by
  simp only [violation?] at h
  split at h
  · cases h
  · cases h
  · next pattern has _ _ =>
    split at h
    · split at h <;> cases h
    · next failed => exact ⟨r, pattern, _, rfl, has, failed⟩
  · cases h

/-- A pattern that fails is reported for every text that keeps the bounds on its length. -/
theorem violation?_of_fails {pattern : String} (has : r.regex = some pattern)
    (failed : Pattern.Engine.compile (Pattern.anchored pattern) = .error fault)
    (lengths : ({ r with regex := none } : StringRestriction).Admits text) :
    r.violation? text = some (.badPattern fault) := by
  have low : r.minLength.filter (text.length < ·.toNat) = none := by
    simp only [Option.filter_eq_none_iff, decide_eq_true_eq, Nat.not_lt]
    exact lengths.minLength
  have high : r.maxLength.filter (·.toNat < text.length) = none := by
    simp only [Option.filter_eq_none_iff, decide_eq_true_eq, Nat.not_lt]
    exact lengths.maxLength
  simp [violation?, low, high, has, failed]

end StringRestriction

namespace Decoding

variable [Pattern.Engine] {table : DecoderTable} {path : Path} {error : DecodeError}

private theorem fails_of_refined {name : String} {restriction : Restriction} {input : Json}
    (h : refined path name restriction input = .error error) (blames : error.BlamesPattern) :
    restriction.Fails := by
  obtain ⟨reason, gives, starts⟩ := blames
  unfold refined at h
  split at h
  · split at h <;> cases h
    next broken =>
    cases gives
    obtain ⟨fault, rfl⟩ := Violation.eq_badPattern starts
    exact (IntRestriction.violation?_ne_badPattern broken).elim
  · split at h <;> cases h
    next broken =>
    cases gives
    obtain ⟨fault, rfl⟩ := Violation.eq_badPattern starts
    exact StringRestriction.fails_of_violation? broken
  · cases h
    cases gives
  · cases h
    cases gives

private theorem fails_of_keyViolation? {restriction : Restriction} {value : Value}
    {fault : Pattern.Fault}
    (h : keyViolation? restriction value = some (.badPattern fault)) : restriction.Fails := by
  unfold keyViolation? at h
  split at h
  · exact (IntRestriction.violation?_ne_badPattern h).elim
  · exact StringRestriction.fails_of_violation? h
  · cases h

private theorem fails_of_key {raw : String} {keyDecoder : KeyDecoder}
    (h : key table path raw keyDecoder = .error error) (linked : ¬error.Mislinked)
    (blames : error.BlamesPattern) :
    ∃ target name restriction, table.get? target = some (.refined name restriction) ∧
      restriction.Fails := by
  obtain ⟨reason, gives, starts⟩ := blames
  obtain ⟨_, _, rfl⟩ | ⟨fault, rfl⟩ := key_error h
  · cases gives
  · cases gives
    obtain ⟨pattern, rfl⟩ := KeyFault.eq_badPattern linked starts
    cases keyDecoder with
    | text => cases h
    | enumeration target =>
      simp only [key] at h
      split at h
      · cases h
      · split at h <;> cases h
      · cases h
    | refined target basic =>
      simp only [key] at h
      split at h
      · next unread =>
        cases h
        obtain same | ⟨_, same⟩ := keyScalar_error unread <;> cases same
      split at h
      · cases h
      · next name restriction found =>
        split at h <;> cases h
        next broken => exact ⟨target, name, restriction, found, fails_of_keyViolation? broken⟩
      · cases h

/-- Only a refinement whose pattern fails makes a level blame a pattern. -/
theorem Rejects.fails {guarded : Bool} {activation : Activation}
    (h : Rejects guarded table activation error) (linked : ¬error.Mislinked)
    (blames : error.BlamesPattern) :
    (∃ name restriction, activation.decoder = .refined name restriction ∧ restriction.Fails) ∨
    ∃ target name restriction, table.get? target = some (.refined name restriction) ∧
      restriction.Fails := by
  cases h with
  | refinement wrong => exact .inl ⟨_, _, rfl, fails_of_refined wrong blames⟩
  | dictKey _ wrong => exact .inr (fails_of_key wrong linked blames)
  | scalar wrong =>
    obtain ⟨_, rfl⟩ := scalar_error wrong
    obtain ⟨_, gives, _⟩ := blames
    cases gives
  | label wrong =>
    obtain ⟨_, gives, _⟩ := blames
    obtain rfl | ⟨_, _, _, rfl⟩ := enumeration_error wrong <;> cases gives
  | _ =>
    obtain ⟨_, gives, _⟩ := blames
    cases gives

end Decoding

section Report

variable [Pattern.Engine] {model : Model} {defaults : Defaults} {options : Options}

/-- Where decoding blames a pattern, a decoder of the report has a pattern that fails. -/
theorem exists_fails_of_decode (wellScoped : model.WellScoped) {name : String} {input : Json}
    {error : DecodeError}
    (h : Decoding.decode (.ofFragments (generate defaults options model).fragments) name input =
      .error error) (blames : error.BlamesPattern) :
    ∃ fragment ∈ (generate defaults options model).fragments, ∃ own restriction,
      fragment.function.body = .refined own restriction ∧ restriction.Fails := by
  let Listed : Decoder → Prop := fun part => ∀ own restriction, part = .refined own restriction →
    ∃ fragment ∈ (generate defaults options model).fragments,
      fragment.function.body = .refined own restriction
  have entry := @get?_ofFragments_eq_some defaults options model wellScoped.names
  have parts : ∀ caller body,
      (DecoderTable.ofFragments (generate defaults options model).fragments).get? caller =
        some body → ∀ part, body.Contains part → Listed part := by
    rintro caller body found _ contains own restriction rfl
    obtain ⟨fragment, member, _, rfl⟩ := entry.1 found
    obtain ⟨_, _, built⟩ := find?_of_mem_fragments wellScoped.names member
    exact ⟨fragment, member, (Site.eq_of_kind built contains nofun).symm⟩
  obtain ⟨activation, listed, rejects⟩ := Decoding.exists_part_rejects (Q := Listed) nofun parts h
  obtain ⟨own, restriction, same, fails⟩ | ⟨target, own, restriction, found, fails⟩ :=
    rejects.fails (decode_error_of_wellScoped wellScoped h).1 blames
  · obtain ⟨fragment, member, body⟩ := listed own restriction same
    exact ⟨fragment, member, own, restriction, body, fails⟩
  · obtain ⟨fragment, member, _, body⟩ := entry.1 found
    exact ⟨fragment, member, own, restriction, body, fails⟩

end Report

namespace Coding

variable [Pattern.Engine] {declaration : String} {position : Position} {r : StringRestriction}

theorem compiles_of_stringErrors (h : stringErrors declaration position r = []) {pattern : String}
    (has : r.regex = some pattern) : ∃ regex, Pattern.Engine.compile pattern = .ok regex := by
  have patterns := (List.append_eq_nil_iff.1 h).2
  simp only [has] at patterns
  split at patterns
  · next regex compiled => exact ⟨regex, compiled⟩
  · cases patterns

theorem exists_text_of_stringErrors (h : stringErrors declaration position r = []) :
    ∃ text, ({ r with regex := none } : StringRestriction).Admits text := by
  have ordered := ordered_of_stringErrors h
  exact StringRestriction.exists_admits ordered rfl

end Coding

theorem Decoding.decode_refined [Pattern.Engine] {table : DecoderTable} {name own : String}
    {restriction : Restriction} (found : table.get? name = some (.refined own restriction))
    (input : Json) : decode table name input = refined {} own restriction input := by
  rw [decode, call, dif_neg List.not_mem_nil]
  split
  · next absent => cases found.symm.trans absent
  · next there =>
    cases found.symm.trans there
    rw [run]

private theorem Site.body_of_refined {site : Site} {body : Body Classification} {own : String}
    {restriction : Restriction} (built : site.forBody body = .ok (.refined own restriction)) :
    body = .restricted restriction := by
  have kind := kind_of_forBody built
  rcases body with _ | _ | _ | _
  · cases kind
  · cases kind
  · cases kind
  · cases built
    rfl

section Compiled

variable [Pattern.Engine] {draft : Draft} {properties : Properties} {processors : List Processor}
  {compiled : Compiled} {declaration : Declaration Classification} {r : StringRestriction}
  {pattern : String}

private theorem compiled_stringErrors
    (compiles : compile draft properties processors = .ok compiled)
    (coding : .coding ∈ processors) (member : declaration ∈ compiled.model.declarations)
    (body : declaration.body = .restricted (.string r)) :
    ∃ position, Coding.stringErrors declaration.name position r = [] := by
  have noErrors := compiled_declarationErrors coding compiles declaration member
  simp only [Coding.declarationErrors, body, Coding.restrictionErrors] at noErrors
  exact ⟨_, noErrors⟩

theorem compiled_patterns (compiles : compile draft properties processors = .ok compiled)
    (coding : .coding ∈ processors) (member : declaration ∈ compiled.model.declarations)
    (body : declaration.body = .restricted (.string r)) (has : r.regex = some pattern) :
    ∃ regex, Pattern.Engine.compile pattern = .ok regex := by
  obtain ⟨_, noErrors⟩ := compiled_stringErrors compiles coding member body
  exact Coding.compiles_of_stringErrors noErrors has

theorem compiles_of_fragment (compiles : compile draft properties processors = .ok compiled)
    (coding : .coding ∈ processors) {options : Options} {fragment : Fragment} {own : String}
    (member : fragment ∈ (generate compiled.defaults options compiled.model).fragments)
    (body : fragment.function.body = .refined own (.string r)) (has : r.regex = some pattern) :
    (∃ regex, Pattern.Engine.compile pattern = .ok regex) ∧
    ∃ text, ({ r with regex := none } : StringRestriction).Admits text := by
  obtain ⟨declaration, found, built⟩ :=
    find?_of_mem_fragments (compiled_wellScoped compiles).names member
  rw [body] at built
  have restricted := Site.body_of_refined built
  have among := List.mem_of_find?_eq_some found
  obtain ⟨_, noErrors⟩ := compiled_stringErrors compiles coding among restricted
  exact ⟨Coding.compiles_of_stringErrors noErrors has, Coding.exists_text_of_stringErrors noErrors⟩

/-- Each pattern of an accepted model compiles, and it does so between its anchors exactly if it
does not end in a comment and the anchors leave it within the limits of the engine. So some input
makes a report blame a pattern exactly if one of its decoders has a pattern that is not so. -/
theorem pattern_faults_exact (language : Pattern.Language)
    (compiles : compile draft properties processors = .ok compiled)
    (coding : .coding ∈ processors) :
    (∀ declaration ∈ compiled.model.declarations, ∀ r pattern,
      declaration.body = .restricted (.string r) → r.regex = some pattern →
      (∃ regex, Pattern.Engine.compile pattern = .ok regex) ∧
      ((∃ regex, Pattern.Engine.compile (Pattern.anchored pattern) = .ok regex) ↔
        ¬language.EndsInComment pattern ∧ language.Fits (Pattern.anchored pattern))) ∧
    ∀ options,
      (∃ name input error,
        Decoding.decode (.ofFragments (generate compiled.defaults options compiled.model).fragments)
          name input = .error error ∧ error.BlamesPattern) ↔
      ∃ fragment ∈ (generate compiled.defaults options compiled.model).fragments,
        ∃ own r pattern, fragment.function.body = .refined own (.string r) ∧
          r.regex = some pattern ∧
          (language.EndsInComment pattern ∨ ¬language.Fits (Pattern.anchored pattern)) := by
  have wellScoped := compiled_wellScoped compiles
  refine ⟨?_, fun options => ⟨?_, ?_⟩⟩
  · intro declaration member r pattern body has
    have accepted := compiled_patterns compiles coding member body has
    exact ⟨accepted, language.compiles_anchored_iff accepted⟩
  · rintro ⟨name, input, error, failed, blames⟩
    obtain ⟨fragment, member, own, _, body, r, pattern, fault, rfl, has, fails⟩ :=
      exists_fails_of_decode wellScoped failed blames
    have accepted := (compiles_of_fragment compiles coding member body has).1
    exact ⟨fragment, member, own, r, pattern, body, has,
      (language.fails_iff accepted).1 ⟨fault, fails⟩⟩
  · rintro ⟨fragment, member, own, r, pattern, body, has, broken⟩
    obtain ⟨accepted, text, lengths⟩ := compiles_of_fragment compiles coding member body has
    obtain ⟨fault, fails⟩ := (language.fails_iff accepted).2 broken
    have found := (get?_ofFragments_eq_some wellScoped.names).2 ⟨fragment, member, rfl, body⟩
    refine ⟨fragment.declaration, .string text,
      .refinement {} own (Text.quoted text) (.badPattern fault), ?_, blamesPattern_refinement fault⟩
    rw [Decoding.decode_refined found]
    simp only [Decoding.refined, StringRestriction.violation?_of_fails has fails lengths]

end Compiled

def patternDraft (pattern : String) : Draft where
  declarations := [
    { name := "Code"
      body := .restricted (.string { regex := some pattern })
      info := decodedInfo }]
  wellScoped := rfl

section Program

attribute [local instance] Pattern.regexEngine

theorem pattern_faults_exact_code :
    ∃ compiled, compile (patternDraft "a{2}|b") ∅ [.coding] = .ok compiled ∧
      ∀ options, (generate compiled.defaults options compiled.model).fragments.length = 1 ∧
        ¬∃ name input error,
          Decoding.decode
            (.ofFragments (generate compiled.defaults options compiled.model).fragments)
            name input = .error error ∧ error.BlamesPattern := by
  obtain ⟨compiled, compiles⟩ :
      ∃ compiled, compile (patternDraft "a{2}|b") ∅ [.coding] = .ok compiled := ⟨_, rfl⟩
  refine ⟨compiled, compiles, fun options => ?_⟩
  obtain ⟨patterns, faults⟩ :=
    pattern_faults_exact Pattern.regexLanguage compiles List.mem_cons_self
  cases compiles
  obtain ⟨notComment, fits⟩ := (patterns _ List.mem_cons_self _ _ rfl rfl).2.1 ⟨_, rfl⟩
  refine ⟨rfl, fun blamed => ?_⟩
  obtain ⟨fragment, member, own, r, pattern, body, has, broken⟩ := (faults options).1 blamed
  cases List.mem_singleton.1 member
  cases body
  cases has
  exact broken.elim notComment fun exceeds => exceeds fits

/-- A comment at the end of a pattern takes the anchor after it: the check accepts the pattern, and
decoding blames it. -/
theorem commented_pattern_fails :
    ∃ compiled, compile (patternDraft "(?x)a # c") ∅ [.coding] = .ok compiled ∧
      ∀ options, ∃ error,
        Decoding.decode (.ofFragments (generate compiled.defaults options compiled.model).fragments)
          "Code" (.string "a") = .error error ∧ error.BlamesPattern := by
  obtain ⟨compiled, compiles⟩ :
      ∃ compiled, compile (patternDraft "(?x)a # c") ∅ [.coding] = .ok compiled := ⟨_, rfl⟩
  have decoded : ∀ table : DecoderTable,
      table.get? "Code" = some (.refined "Code" (.string { regex := some "(?x)a # c" })) →
      Decoding.decode table "Code" (.string "a") =
        .error (.refinement {} "Code" "\"a\""
          (.badPattern ⟨Pattern.Defect.groupUnclosed.message⟩)) := by
    intro table found
    rw [Decoding.decode_refined found]
    rfl
  refine ⟨compiled, compiles, fun options => ?_⟩
  cases compiles
  exact ⟨_, decoded _ rfl, blamesPattern_refinement _⟩

end Program

end WireModel
