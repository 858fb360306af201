import WireModel.Pattern.Reader
import WireModel.Proofs.Outcomes

/-! Reading a pattern when a closing parenthesis follows it. What is read from a text is read from
the longer text too, and the parenthesis is left over, unless a comment at the end of the text goes
on and takes it. -/
namespace WireModel.Pattern

/-- Texts that close a group, and at most the whole pattern, after what was read. -/
def Closing (suffix : List Char) : Prop :=
  suffix = [')'] ∨ suffix = [')', '$']

/-- How the reading of a text goes on when a closing text follows: the closing text is left over,
or nothing is, neither before nor after. -/
def Carries {α : Type} (read : List Char → Except Defect (α × List Char)) (text : List Char)
    (value : α) (rest : List Char) : Prop :=
  (∀ suffix, Closing suffix → read (text ++ suffix) = .ok (value, rest ++ suffix)) ∨
  (rest = [] ∧ ∀ suffix, Closing suffix → read (text ++ suffix) = .ok (value, []))

namespace Carries

variable {α β γ : Type} {first : List Char → Except Defect (α × List Char)}
  {second : List Char → Except Defect (β × List Char)}
  {whole : List Char → Except Defect (γ × List Char)} {text text' middle rest : List Char}
  {value : α} {other : β} {result : γ}

/-- A reader that leaves what its part leaves. -/
theorem through (part : Carries first text value rest)
    (step : ∀ suffix after, Closing suffix → first (text ++ suffix) = .ok (value, after) →
      whole (text' ++ suffix) = .ok (result, after)) :
    Carries whole text' result rest := by
  rcases part with left | ⟨rfl, taken⟩
  · exact .inl fun suffix closing => step suffix _ closing (left suffix closing)
  · exact .inr ⟨rfl, fun suffix closing => step suffix _ closing (taken suffix closing)⟩

/-- A reader of two parts; the second part is read where the first one ended. -/
theorem andThen (part : Carries first text value middle) (part' : Carries second middle other rest)
    (here : second middle = .ok (other, rest)) (empty : middle = [] → rest = [])
    (step : ∀ suffix between after, first (text ++ suffix) = .ok (value, between) →
      second between = .ok (other, after) → whole (text' ++ suffix) = .ok (result, after)) :
    Carries whole text' result rest := by
  rcases part with left | ⟨rfl, taken⟩
  · exact part'.through fun suffix after closing read =>
      step suffix _ after (left suffix closing) read
  · obtain rfl := empty rfl
    exact .inr ⟨rfl, fun suffix closing => step suffix _ _ (taken suffix closing) here⟩

end Carries

section Spaces

variable {verbose : Bool} {text rest : List Char}

private theorem skipBlanks_append_of_cons {inComment : Bool} {c : Char}
    (h : skipBlanks inComment text = c :: rest) (suffix : List Char) :
    skipBlanks inComment (text ++ suffix) = c :: (rest ++ suffix) := by
  fun_induction skipBlanks inComment text with
  | case1 => cases h
  | case2 d text ih => simpa [skipBlanks] using ih h
  | case3 _ d text outside blank ih => simpa [skipBlanks, outside, blank] using ih h
  | case4 _ text outside solid ih => simpa [skipBlanks, outside, solid] using ih h
  | case5 _ d text outside solid plain =>
    cases h
    simp [skipBlanks, outside, solid, plain]

private theorem skipBlanks_true_closing {suffix : List Char} (closing : Closing suffix) :
    skipBlanks true suffix = [] := by
  rcases closing with rfl | rfl <;> rfl

private theorem skipBlanks_false_closing {suffix : List Char} (closing : Closing suffix) :
    skipBlanks false suffix = suffix := by
  rcases closing with rfl | rfl <;> rfl

/-- Where only blanks and comments stand, either they end before a closing text or the last comment
takes it. -/
theorem skipBlanks_append_of_nil {inComment : Bool} (h : skipBlanks inComment text = []) :
    (∀ suffix, Closing suffix → skipBlanks inComment (text ++ suffix) = suffix) ∨
      ∀ suffix, Closing suffix → skipBlanks inComment (text ++ suffix) = [] := by
  fun_induction skipBlanks inComment text with
  | case1 inComment =>
    cases inComment with
    | false => exact .inl fun _ => skipBlanks_false_closing
    | true => exact .inr fun _ => skipBlanks_true_closing
  | case2 d text ih => simpa [skipBlanks] using ih h
  | case3 _ d text outside blank ih => simpa [skipBlanks, outside, blank] using ih h
  | case4 _ text outside solid ih => simpa [skipBlanks, outside, solid] using ih h
  | case5 => cases h

@[simp]
theorem space_nil (verbose : Bool) : space verbose [] = [] := by
  cases verbose <;> rfl

theorem space_append_of_cons {c : Char} (h : space verbose text = c :: rest)
    (suffix : List Char) : space verbose (text ++ suffix) = c :: (rest ++ suffix) := by
  cases verbose with
  | false =>
    cases h
    rfl
  | true => exact skipBlanks_append_of_cons h suffix

theorem space_append (verbose : Bool) (text : List Char) :
    (∀ suffix, Closing suffix → space verbose (text ++ suffix) = space verbose text ++ suffix) ∨
      (space verbose text = [] ∧
        ∀ suffix, Closing suffix → space verbose (text ++ suffix) = []) := by
  cases verbose with
  | false => exact .inl fun _ _ => rfl
  | true =>
    cases h : space true text with
    | cons c rest => exact .inl fun suffix _ => space_append_of_cons h suffix
    | nil =>
      rcases skipBlanks_append_of_nil h with left | taken
      · exact .inl left
      · exact .inr ⟨rfl, taken⟩

def spaceReader (verbose : Bool) (text : List Char) : Except Defect (Unit × List Char) :=
  .ok ((), space verbose text)

theorem spaceReader_carries (verbose : Bool) (text : List Char) :
    Carries (spaceReader verbose) text () (space verbose text) := by
  rcases space_append verbose text with left | ⟨nothing, taken⟩
  · exact .inl fun suffix closing => by rw [spaceReader, left suffix closing]
  · exact .inr ⟨nothing, fun suffix closing => by rw [spaceReader, taken suffix closing]⟩

theorem takeRun_append {keep : Char → Bool} {inComment : Bool} {run : List Char} {c : Char}
    (h : takeRun verbose keep inComment text = (run, c :: rest)) (suffix : List Char) :
    takeRun verbose keep inComment (text ++ suffix) = (run, c :: (rest ++ suffix)) := by
  fun_induction takeRun verbose keep inComment text generalizing run with
  | case1 => cases h
  | case2 d text ih => simpa [takeRun] using ih h
  | case3 _ d text outside blank ih => simpa [takeRun, outside, blank] using ih h
  | case4 _ d text outside solid hash ih => simpa [takeRun, outside, solid, hash] using ih h
  | case5 _ d text outside solid plain kept later after same ih =>
    cases h
    simp [takeRun, outside, solid, plain, kept, ih same]
  | case6 _ d text outside solid plain stops =>
    cases h
    simp [takeRun, outside, solid, plain, stops]

theorem dropWhile_append_of_cons {p : Char → Bool} {c : Char} (h : text.dropWhile p = c :: rest)
    (suffix : List Char) : (text ++ suffix).dropWhile p = c :: (rest ++ suffix) := by
  rw [List.dropWhile_append, h]
  rfl

theorem takeWhile_append_of_cons {p : Char → Bool} {c : Char}
    (h : text.dropWhile p = c :: rest) (suffix : List Char) :
    (text ++ suffix).takeWhile p = text.takeWhile p := by
  have lengths := congrArg List.length (List.takeWhile_append_dropWhile (p := p) (l := text))
  rw [h, List.length_append, List.length_cons] at lengths
  rw [List.takeWhile_append, if_neg (by omega)]

end Spaces

section Escapes

variable {verbose : Bool} {text rest : List Char}

private theorem readCode_fixed_nil {count : Nat} {digits : List Char}
    (h : readCode.fixed verbose count [] = .ok (digits, rest)) : rest = [] := by
  cases count <;> cases h
  rfl

private theorem readCode_fixed_carries {count : Nat} {digits : List Char}
    (h : readCode.fixed verbose count text = .ok (digits, rest)) :
    Carries (readCode.fixed verbose count) text digits rest := by
  fun_induction readCode.fixed verbose count text generalizing digits rest with
  | case1 =>
    cases h
    exact .inl fun _ _ => rfl
  | case2 => cases h
  | case3 count c text isHex ih =>
    obtain ⟨⟨later, after⟩, read, h⟩ := bind_eq_ok.1 h
    cases h
    refine (spaceReader_carries verbose text).andThen (ih read) read ?_ ?_
    · intro nothing
      rw [nothing] at read
      exact readCode_fixed_nil read
    · intro suffix between after skipped read
      cases skipped
      simp only [List.cons_append, readCode.fixed, isHex, if_true]
      exact bind_eq_ok.2 ⟨_, read, rfl⟩
  | case4 => cases h

private theorem readCode_carries {width : Nat} {literal : Literal}
    (h : readCode verbose width text = .ok (literal, rest)) :
    Carries (readCode verbose width) text literal rest := by
  unfold readCode at h
  split at h
  · cases h
  · next inside skipped =>
    split at h
    · cases h
    · next digits after run =>
      dsimp only at h
      split at h
      · cases h
      · next notEmpty =>
        obtain ⟨char, isChar, h⟩ := bind_eq_ok.1 h
        cases h
        refine (spaceReader_carries verbose after).through fun suffix after' _ skipping => ?_
        cases skipping
        simp only [readCode, space_append_of_cons skipped suffix, takeRun_append run suffix,
          notEmpty]
        exact bind_eq_ok.2 ⟨char, isChar, rfl⟩
    · cases h
  · next start notNil notBrace =>
    obtain ⟨⟨digits, after⟩, read, h⟩ := bind_eq_ok.1 h
    obtain ⟨char, isChar, h⟩ := bind_eq_ok.1 h
    cases h
    obtain ⟨c, start, skipped⟩ := List.exists_cons_of_ne_nil notNil
    refine (readCode_fixed_carries read).through fun suffix after' _ read' => ?_
    rw [skipped] at read'
    unfold readCode
    rw [space_append_of_cons skipped suffix]
    split
    · next nothing => cases nothing
    · next brace =>
      cases brace
      exact (notBrace _ skipped).elim
    · exact bind_eq_ok.2 ⟨_, read', bind_eq_ok.2 ⟨char, isChar, rfl⟩⟩

private theorem readProperty_carries {negated : Bool} {item : Expr}
    (h : readProperty verbose negated text = .ok (item, rest)) :
    Carries (readProperty verbose negated) text item rest := by
  unfold readProperty at h
  split at h
  · cases h
  · next inside skipped =>
    split at h
    · cases h
    · next name close after run =>
      cases h
      refine .inl fun suffix _ => ?_
      simp only [readProperty, space_append_of_cons skipped suffix, takeRun_append run suffix]
      rfl
  · cases h
  · next c after notBrace notEscape skipped =>
    cases h
    refine (spaceReader_carries verbose after).through fun suffix after' _ skipping => ?_
    cases skipping
    unfold readProperty
    rw [space_append_of_cons skipped suffix]
    split
    · next nothing => cases nothing
    · next brace =>
      cases brace
      exact (notBrace rfl).elim
    · next escape =>
      cases escape
      exact (notEscape rfl).elim
    · next same =>
      cases same
      rfl

private theorem readBoundary_carries {item : Expr}
    (h : readBoundary verbose text = .ok (item, rest)) :
    Carries (readBoundary verbose) text item rest := by
  refine .inl fun suffix closing => ?_
  unfold readBoundary at h
  dsimp only at h
  split at h
  · next inside =>
    split at h
    · cases h
    · next c start skipped =>
      split at h
      · next isName =>
        split at h
        · next name after run =>
          simp only [readBoundary, List.cons_append, space_append_of_cons skipped suffix, isName,
            if_true, takeRun_append run suffix]
          split at h <;> cases h <;> rfl
        · cases h
      · next notName =>
        cases h
        simp only [readBoundary, List.cons_append, space_append_of_cons skipped suffix, notName]
        rfl
  · next notBrace =>
    cases h
    unfold readBoundary
    split
    · next inside same =>
      cases text with
      | nil => rcases closing with rfl | rfl <;> cases same
      | cons c text =>
        cases same
        exact (notBrace text rfl).elim
    · rfl

theorem readEscape_carries {item : Expr} (h : readEscape verbose text = .ok (item, rest)) :
    Carries (readEscape verbose) text item rest := by
  cases text with
  | nil => cases h
  | cons c text =>
    by_cases digit : isDigit c
    · simp [readEscape, digit] at h
    by_cases escapable : isEscapable c
    · simp only [readEscape, digit, escapable, if_true] at h
      cases h
      exact .inl fun suffix _ => by simp [readEscape, digit, escapable]
    simp only [readEscape, digit, escapable, Bool.false_eq_true, if_false] at h
    split at h
    -- code points, properties and boundaries go on behind the letter
    case h_1 | h_2 | h_3 =>
      obtain ⟨⟨literal, after⟩, read, same⟩ := map_eq_ok.1 h
      cases same
      refine (readCode_carries read).through fun suffix after' _ read' => ?_
      change Except.map _ (readCode verbose _ (text ++ suffix)) = _
      rw [read']
      rfl
    case h_4 | h_5 => exact (readProperty_carries h).through fun _ _ _ read => read
    case h_20 => exact (readBoundary_carries h).through fun _ _ _ read => read
    case h_24 => cases h
    all_goals
      cases h
      exact .inl fun _ _ => rfl

end Escapes

end WireModel.Pattern
