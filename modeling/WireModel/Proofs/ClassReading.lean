import WireModel.Proofs.PatternReading

/-! Reading a bracketed class when a closing parenthesis follows the pattern. A class ends within
its text, so the parenthesis is always left over. -/
namespace WireModel.Pattern

open WireModel.Unicode (isBlank)

variable {verbose : Bool} {text rest suffix : List Char}

private theorem readAsciiClass?_named_append (negated : Bool) (text : List Char)
    (closing : Closing suffix) :
    readAsciiClass?.named negated (text ++ suffix) =
      (readAsciiClass?.named negated text).map fun (item, after) => (item, after ++ suffix) := by
  have none : suffix.dropWhile (· != ':') = [] := by rcases closing with rfl | rfl <;> rfl
  unfold readAsciiClass?.named
  cases dropped : text.dropWhile (· != ':') with
  | nil => simp [List.dropWhile_append, dropped, none]
  | cons c after =>
    rw [dropWhile_append_of_cons dropped, takeWhile_append_of_cons dropped]
    cases after with
    | nil => rcases closing with rfl | rfl <;> simp
    | cons d after =>
      split
      · next same =>
        cases same
        dsimp only
        split <;> rfl
      · next other =>
        split
        · next same =>
          cases same
          exact (other _ rfl).elim
        · rfl

private theorem readAsciiClass?_append (text : List Char) (closing : Closing suffix) :
    readAsciiClass? (text ++ suffix) =
      (readAsciiClass? text).map fun (item, after) => (item, after ++ suffix) := by
  have others : ∀ text : List Char, (∀ inside, text ≠ ':' :: inside) →
      readAsciiClass? text = none := by
    intro text other
    unfold readAsciiClass?
    split
    · exact (other _ rfl).elim
    · exact (other _ rfl).elim
    · rfl
  have plain : ∀ inside : List Char, inside.head? ≠ some '^' →
      readAsciiClass? (':' :: inside) = readAsciiClass?.named false inside := by
    intro inside notNegated
    unfold readAsciiClass?
    split
    · next same =>
      cases same
      exact (notNegated rfl).elim
    · next same =>
      cases same
      rfl
    · next other => exact (other _ rfl).elim
  cases text with
  | nil => rcases closing with rfl | rfl <;> rfl
  | cons c text =>
    by_cases colon : c = ':'
    case neg =>
      rw [others (c :: text) fun _ same => colon (List.cons.inj same).1]
      exact others _ fun _ same => colon (List.cons.inj same).1
    subst colon
    cases text with
    | nil =>
      rw [List.cons_append, List.nil_append, plain, plain]
      · exact readAsciiClass?_named_append false [] closing
      · simp
      · rcases closing with rfl | rfl <;> simp
    | cons d text =>
      by_cases negated : d = '^'
      · subst negated
        exact readAsciiClass?_named_append true text closing
      · rw [List.cons_append, plain, plain]
        · exact readAsciiClass?_named_append false (d :: text) closing
        · simpa using negated
        · simpa using negated

private theorem readClassMember_carries {item : Expr}
    (h : readClassMember verbose text = .ok (item, rest)) :
    Carries (readClassMember verbose) text item rest := by
  unfold readClassMember at h
  split at h
  · cases h
  · exact (readEscape_carries h).through fun _ _ _ read => read
  · next c text notEscape =>
    cases h
    refine .inl fun suffix _ => ?_
    unfold readClassMember
    split
    · next nothing => cases nothing
    · next same =>
      cases same
      exact (notEscape rfl).elim
    · next same =>
      cases same
      rfl

private theorem afterDash_scan_append {inComment : Bool} {c : Char}
    (h : afterDash.scan inComment text = some c) (suffix : List Char) :
    afterDash.scan inComment (text ++ suffix) = some c := by
  fun_induction afterDash.scan inComment text with
  | case1 => cases h
  | case2 _ d text blank ih => simpa [afterDash.scan, blank] using ih h
  | case3 inComment d text solid hash ih => simpa [afterDash.scan, solid, hash] using ih h
  | case4 inComment d text solid plain =>
    cases h
    simp [afterDash.scan, solid, plain]

/-- Where the scan finds nothing there are only blanks and the start of one comment. -/
theorem skipBlanks_of_scan_none {inComment : Bool} (h : afterDash.scan inComment text = none) :
    skipBlanks inComment text = [] ∧ (inComment → skipBlanks false text = []) := by
  fun_induction afterDash.scan inComment text with
  | case1 => simp [skipBlanks]
  | case2 inComment d text blank ih =>
    obtain ⟨inside, outside⟩ := ih h
    cases inComment with
    | false => simpa [skipBlanks, blank] using inside
    | true =>
      refine ⟨?_, fun _ => by simpa [skipBlanks, blank] using outside rfl⟩
      rw [skipBlanks, if_pos rfl]
      cases d != '\n' with
      | true => exact inside
      | false => exact outside rfl
  | case3 inComment d text solid hash ih =>
    simp only [Bool.and_eq_true, Bool.not_eq_true', beq_iff_eq] at hash
    obtain ⟨rfl, rfl⟩ := hash
    simpa [skipBlanks, solid] using (ih h).1
  | case4 => cases h

private theorem afterDash_append (verbose : Bool) (text : List Char) :
    (∀ suffix, afterDash verbose (text ++ suffix) = afterDash verbose text) ∨
      (space verbose text = [] ∧ afterDash verbose text ≠ some ']' ∧
        afterDash verbose text ≠ some '-') := by
  cases verbose with
  | false =>
    cases text with
    | nil => exact .inr ⟨rfl, by simp [afterDash], by simp [afterDash]⟩
    | cons c text => exact .inl fun _ => rfl
  | true =>
    cases scanned : afterDash.scan false text with
    | some c =>
      refine .inl fun suffix => ?_
      simp [afterDash, scanned, afterDash_scan_append scanned suffix]
    | none =>
      have first : ∀ c, isBlank c = false → c ≠ '#' → text.head? ≠ some c := by
        intro c solid plain isHead
        cases text with
        | nil => cases isHead
        | cons d text =>
          cases isHead
          simp [afterDash.scan, solid, plain] at scanned
      refine .inr ⟨(skipBlanks_of_scan_none scanned).1, ?_, ?_⟩
      · simpa [afterDash, scanned] using first ']' rfl (by decide)
      · simpa [afterDash, scanned] using first '-' rfl (by decide)

private theorem readClassRange_carries {item : ClassExpr}
    (h : readClassRange verbose text = .ok (item, rest)) :
    Carries (readClassRange verbose) text item rest := by
  obtain ⟨⟨first, after⟩, member, h⟩ := bind_eq_ok.1 h
  dsimp only at h
  split at h
  · cases h
  · next c later skipped =>
    -- the first member ends before something, so it leaves the closing text
    have on : ∀ suffix, Closing suffix →
        readClassMember verbose (text ++ suffix) = .ok (first, after ++ suffix) := by
      rcases readClassMember_carries member with left | ⟨rfl, _⟩
      · exact left
      · cases verbose <;> cases skipped
    split at h
    · next single =>
      obtain ⟨item', isItem, h⟩ := bind_eq_ok.1 h
      cases h
      refine .inl fun suffix closing => bind_eq_ok.2 ⟨_, on suffix closing, ?_⟩
      have still : c ≠ '-' || afterDash verbose (later ++ suffix) = some ']' ||
          afterDash verbose (later ++ suffix) = some '-' := by
        rcases afterDash_append verbose later with same | ⟨_, notClose, notDash⟩
        · rw [same]
          exact single
        · simp only [notClose, notDash, decide_false, Bool.or_false] at single
          simp [single]
      dsimp only
      rw [space_append_of_cons skipped suffix]
      dsimp only
      rw [if_pos still]
      exact bind_eq_ok.2 ⟨item, isItem, rfl⟩
    · next range =>
      split at h
      · cases h
      · next start notNil =>
        have same : ∀ suffix, afterDash verbose (later ++ suffix) = afterDash verbose later := by
          rcases afterDash_append verbose later with same | ⟨nothing, _⟩
          · exact same
          · exact absurd nothing notNil
        obtain ⟨d, more, nonempty⟩ := List.exists_cons_of_ne_nil notNil
        obtain ⟨⟨last, after'⟩, member', h⟩ := bind_eq_ok.1 h
        obtain ⟨low, isLow, h⟩ := bind_eq_ok.1 h
        obtain ⟨high, isHigh, h⟩ := bind_eq_ok.1 h
        split at h
        · next ordered =>
          cases h
          refine (readClassMember_carries member').through fun suffix after' closing read => ?_
          refine bind_eq_ok.2 ⟨_, on suffix closing, ?_⟩
          dsimp only
          rw [space_append_of_cons skipped suffix]
          dsimp only
          rw [same suffix, if_neg range, space_append_of_cons nonempty suffix]
          rw [nonempty] at read
          refine bind_eq_ok.2 ⟨_, read, bind_eq_ok.2 ⟨_, isLow, bind_eq_ok.2 ⟨_, isHigh, ?_⟩⟩⟩
          rw [if_pos ordered]
          rfl
        · cases h

theorem classStart_append {d : Char} {more : List Char}
    (h : (if (space verbose text).head? == some '^' then space verbose (space verbose text).tail
      else space verbose text) = d :: more) (suffix : List Char) :
    (space verbose (text ++ suffix)).head? = (space verbose text).head? ∧
      (if (space verbose text).head? == some '^' then
        space verbose (space verbose (text ++ suffix)).tail
      else space verbose (text ++ suffix)) = d :: (more ++ suffix) := by
  cases skipped : space verbose text with
  | nil =>
    rw [skipped] at h
    cases h
  | cons c start =>
    rw [skipped] at h
    rw [space_append_of_cons skipped suffix]
    refine ⟨rfl, ?_⟩
    by_cases negated : c = '^'
    · subst negated
      exact space_append_of_cons h suffix
    · have plain : (some c == some '^') = false := by simp [negated]
      simp only [List.head?_cons, plain, Bool.false_eq_true, if_false] at h ⊢
      cases h
      rfl

theorem openClass_append {negated : Bool} {items : List ClassExpr}
    (h : openClass verbose text = .ok (negated, items, rest)) (suffix : List Char) :
    openClass verbose (text ++ suffix) = .ok (negated, items, rest ++ suffix) := by
  unfold openClass at h
  dsimp only at h
  cases begins : (if (space verbose text).head? == some '^' then
      space verbose (space verbose text).tail else space verbose text) with
  | nil =>
    rw [begins] at h
    cases h
  | cons d more =>
    obtain ⟨sameHead, begins'⟩ := classStart_append begins suffix
    rw [begins] at h
    unfold openClass
    dsimp only
    rw [sameHead, begins']
    cases run : takeRun verbose (· == '-') false (d :: more) with
    | mk dashes stop =>
      rw [run] at h
      cases stop with
      | nil => cases h
      | cons e after =>
        rw [← List.cons_append, takeRun_append run suffix]
        dsimp only at h ⊢
        split at h
        · next same => cases same
        · next same =>
          cases same
          split at h
          · next dashed =>
            cases h
            exact if_pos dashed
          · next undashed =>
            refine (if_neg undashed).trans ?_
            split at h
            · cases h
            · next notEmpty =>
              obtain ⟨f, inner, inside⟩ := List.exists_cons_of_ne_nil fun nothing =>
                notEmpty (List.isEmpty_iff.2 nothing)
              rw [inside] at h
              cases h
              rw [space_append_of_cons inside suffix]
              rfl
        · next notClose =>
          cases h
          split
          · next same => cases same
          · next same =>
            cases same
            exact (notClose _ rfl).elim
          · rfl

theorem not_doubled_append {c d : Char} {start : List Char} (other : d ≠ ')')
    (closing : Closing suffix) (h : ∀ later, c :: start = d :: d :: later → False) :
    ∀ later, c :: (start ++ suffix) = d :: d :: later → False := by
  intro later same
  cases start with
  | nil => rcases closing with rfl | rfl <;> simp [other.symm] at same
  | cons e start =>
    simp only [List.cons_append, List.cons.injEq] at same
    obtain ⟨rfl, rfl, _⟩ := same
    exact h start rfl

theorem readClass_of_range {fuel : Nat} {stack : List ClassFrame} {items : List ClassExpr}
    {c : Char} {start : List Char} (skipped : space verbose text = c :: start)
    (notOpen : ∀ later, c :: start = '[' :: later → False)
    (notClose : ∀ later, c :: start = ']' :: later → False)
    (notAnd : ∀ later, c :: start = '&' :: '&' :: later → False)
    (notMinus : ∀ later, c :: start = '-' :: '-' :: later → False)
    (notTilde : ∀ later, c :: start = '~' :: '~' :: later → False) :
    readClass verbose (fuel + 1) stack items text =
      readClassRange verbose (c :: start) >>= fun read =>
        readClass verbose fuel stack (read.1 :: items) read.2 := by
  rw [readClass, skipped]
  dsimp only
  split
  · next same => cases same
  · next same => exact (notOpen _ same).elim
  · next same => exact (notClose _ same).elim
  · next same => exact (notAnd _ same).elim
  · next same => exact (notMinus _ same).elim
  · next same => exact (notTilde _ same).elim
  · rfl

/-- Classes end within the text, so a closing text and more fuel change nothing. -/
theorem readClass_append {fuel fuel' : Nat} {stack : List ClassFrame} {items : List ClassExpr}
    {item : Expr} (h : readClass verbose fuel stack items text = .ok (item, rest))
    (closing : Closing suffix) (enough : fuel ≤ fuel') :
    readClass verbose fuel' stack items (text ++ suffix) = .ok (item, rest ++ suffix) := by
  induction fuel generalizing fuel' stack items text with
  | zero => cases h
  | succ fuel ih =>
    cases fuel' with
    | zero => cases enough
    | succ fuel' =>
      have enough := Nat.le_of_succ_le_succ enough
      cases skipped : space verbose text with
      | nil => simp [readClass, skipped] at h
      | cons c start =>
        unfold readClass at h
        dsimp only at h
        rw [skipped] at h
        have skipped' := space_append_of_cons skipped suffix
        split at h
        · next same => cases same
        · next same =>
          cases same
          simp only [readClass, skipped']
          have entering (h : (openClass verbose start >>= fun opened =>
                readClass verbose fuel (.outer items opened.1 :: stack) opened.2.1 opened.2.2) =
                .ok (item, rest)) :
              (openClass verbose (start ++ suffix) >>= fun opened =>
                readClass verbose fuel' (.outer items opened.1 :: stack) opened.2.1 opened.2.2) =
                .ok (item, rest ++ suffix) := by
            obtain ⟨⟨_, inner, after⟩, opened, h⟩ := bind_eq_ok.1 h
            exact bind_eq_ok.2 ⟨_, openClass_append opened suffix, ih h enough⟩
          split at h
          · next outermost =>
            rw [if_pos outermost]
            exact entering h
          · next nested =>
            rw [if_neg nested, readAsciiClass?_append start closing]
            split at h
            · next found =>
              rw [found]
              exact ih h enough
            · next found =>
              rw [found]
              exact entering h
        · next same =>
          cases same
          simp only [readClass, skipped']
          split at h
          · cases h
            rfl
          · exact ih h enough
          · cases h
        iterate 3
          · next same =>
            cases same
            simp only [readClass, skipped', List.cons_append]
            exact ih h enough
        · next notNil notOpen notClose notAnd notMinus notTilde =>
          obtain ⟨⟨member, after⟩, read, h⟩ := bind_eq_ok.1 h
          rcases readClassRange_carries read with left | ⟨rfl, _⟩
          case inr =>
            cases fuel with
            | zero => cases h
            | succ => simp [readClass] at h
          rw [readClass_of_range skipped']
          · exact bind_eq_ok.2 ⟨_, left suffix closing, ih h enough⟩
          · rintro later same
            cases same
            exact notOpen _ rfl
          · rintro later same
            cases same
            exact notClose _ rfl
          · exact not_doubled_append (by decide) closing notAnd
          · exact not_doubled_append (by decide) closing notMinus
          · exact not_doubled_append (by decide) closing notTilde

end WireModel.Pattern
