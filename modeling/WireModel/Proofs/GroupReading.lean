import WireModel.Proofs.PatternReading

/-! Reading the start of a group, and the bounds of a repetition, when a closing parenthesis follows
the pattern. -/
namespace WireModel.Pattern

open WireModel.Unicode (isBlank)

section Groups

variable {scope scope' : Scope} {text rest : List Char}

private theorem readFlags_append {changes result : FlagChanges} {negating dangling : Bool}
    {mark : Char} (h : readFlags changes negating dangling text = .ok (result, mark, rest))
    (suffix : List Char) :
    readFlags changes negating dangling (text ++ suffix) = .ok (result, mark, rest ++ suffix) := by
  fun_induction readFlags changes negating dangling text with
  | case3 changes negating dangling c text ends settled =>
    cases h
    simp [readFlags, ends, settled]
  | case5 changes negating dangling text new goes ih => simpa [readFlags, new] using ih h
  | case8 changes negating dangling c text goes notMinus flag isFlag new ih =>
    simpa [readFlags, goes, notMinus, isFlag, new] using ih h
  | _ => cases h

private theorem readGroupName_append {name : String} (h : readGroupName text = .ok (name, rest))
    (suffix : List Char) : readGroupName (text ++ suffix) = .ok (name, rest ++ suffix) := by
  unfold readGroupName at h ⊢
  split at h
  · split at h <;> cases h
  · next dropped =>
    rw [dropWhile_append_of_cons dropped suffix, takeWhile_append_of_cons dropped suffix]
    dsimp only at h ⊢
    split at h
    · cases h
    · next notEmpty =>
      split at h
      · next valid =>
        cases h
        rw [if_neg notEmpty, if_pos valid]
      · cases h

private theorem openGroup_plain (plain : ∀ inside, space scope.verbose text ≠ '?' :: inside) :
    scope.openGroup text = .ok (scope.enter true [], space scope.verbose text) := by
  unfold Scope.openGroup
  split
  case h_9 => rfl
  all_goals
    next same => exact (plain _ same).elim

/-- What a group's name that was read opens, and where reading goes on. -/
def Scope.named (scope : Scope) : String × List Char → Except Defect (Scope × List Char)
  | (name, rest) => do
    if scope.names.contains name then throw (.groupNameRepeated name)
    return ({ scope with names := name :: scope.names }.enter true [], rest)

theorem named_eq_ok {name : String} : scope.named (name, text) = .ok (scope', rest) ↔
    name ∉ scope.names ∧
      { scope with names := name :: scope.names }.enter true [] = scope' ∧ text = rest := by
  by_cases repeated : name ∈ scope.names
  · simp [Scope.named, repeated, throw, throwThe, MonadExceptOf.throw, bind, Except.bind]
  · simp [Scope.named, repeated, pure, Except.pure]

private theorem named_append {name : String} (h : scope.named (name, text) = .ok (scope', rest))
    (suffix : List Char) : scope.named (name, text ++ suffix) = .ok (scope', rest ++ suffix) := by
  obtain ⟨new, opened, rfl⟩ := named_eq_ok.1 h
  exact named_eq_ok.2 ⟨new, opened, rfl⟩

private theorem openGroup_named {inside : List Char}
    (skipped : space scope.verbose text = '?' :: 'P' :: '<' :: inside ∨
      space scope.verbose text = '?' :: '<' :: inside ∧
        (∀ tail, inside ≠ '=' :: tail) ∧ ∀ tail, inside ≠ '!' :: tail) :
    scope.openGroup text = readGroupName inside >>= scope.named := by
  unfold Scope.openGroup
  rcases skipped with skipped | ⟨skipped, notEqual, notBang⟩
  · rw [skipped]
    rfl
  · rw [skipped]
    split
    case h_3 same =>
      cases same
      exact (notEqual _ rfl).elim
    case h_4 same =>
      cases same
      exact (notBang _ rfl).elim
    case h_6 same =>
      cases same
      rfl
    case h_8 notAngle _ same =>
      cases same
      exact (notAngle _ rfl).elim
    case h_9 plain => exact (plain _ rfl).elim
    all_goals
      next same => cases same

def Scope.flagged (scope : Scope) :
    FlagChanges × Char × List Char → Except Defect (Scope × List Char)
  | (changes, mark, rest) =>
    if mark = ':' then .ok (scope.enter false changes, rest)
    else if changes.isEmpty then .error .repetitionMissing
    else
      .ok ({ scope with verbose := (changes.state? .verbose).getD scope.verbose }.push
        (.flags changes), rest)

theorem flagged_eq_ok {changes : FlagChanges} {mark : Char} :
    scope.flagged (changes, mark, text) = .ok (scope', rest) ↔
      (mark = ':' ∧ scope.enter false changes = scope' ∨
        mark ≠ ':' ∧ ¬changes.isEmpty ∧
          { scope with verbose := (changes.state? .verbose).getD scope.verbose }.push
            (.flags changes) = scope') ∧ text = rest := by
  dsimp only [Scope.flagged]
  by_cases colon : mark = ':'
  · simp [colon]
  · by_cases none : changes.isEmpty = true
    · simp [colon, none]
    · simp [colon, none]

private theorem flagged_append {changes : FlagChanges} {mark : Char}
    (h : scope.flagged (changes, mark, text) = .ok (scope', rest)) (suffix : List Char) :
    scope.flagged (changes, mark, text ++ suffix) = .ok (scope', rest ++ suffix) := by
  obtain ⟨opened, rfl⟩ := flagged_eq_ok.1 h
  exact flagged_eq_ok.2 ⟨opened, rfl⟩

private theorem openGroup_flags {c : Char} {inside : List Char}
    (skipped : space scope.verbose text = '?' :: c :: inside)
    (flags : c ≠ '=' ∧ c ≠ '!' ∧ c ≠ '<' ∧ c ≠ 'P') :
    scope.openGroup text = readFlags [] false false (c :: inside) >>= scope.flagged := by
  obtain ⟨notEqual, notBang, notAngle, notNamed⟩ := flags
  unfold Scope.openGroup
  rw [skipped]
  split
  case h_7 same => cases same
  case h_8 same =>
    cases same
    rfl
  case h_9 plain => exact (plain _ rfl).elim
  all_goals
    next same =>
      cases same
      contradiction

private theorem readGroupName_named_append {inside : List Char}
    (h : readGroupName inside >>= scope.named = .ok (scope', rest)) (suffix : List Char) :
    readGroupName (inside ++ suffix) >>= scope.named = .ok (scope', rest ++ suffix) := by
  obtain ⟨⟨name, after⟩, read, opened⟩ := bind_eq_ok.1 h
  exact bind_eq_ok.2 ⟨_, readGroupName_append read suffix, named_append opened suffix⟩

/-- A group that opens with a question mark says within its text what it opens. -/
theorem openGroup_append {inside : List Char} (skipped : space scope.verbose text = '?' :: inside)
    (h : scope.openGroup text = .ok (scope', rest)) (suffix : List Char) :
    scope.openGroup (text ++ suffix) = .ok (scope', rest ++ suffix) := by
  unfold Scope.openGroup at h
  split at h
  case h_5 named same =>
    rw [openGroup_named (.inl (space_append_of_cons same suffix))]
    exact readGroupName_named_append h suffix
  case h_6 named notEqual notBang same =>
    have starts : ∀ mark tail, named ++ suffix = mark :: tail → ∃ tail', named = mark :: tail' := by
      cases named with
      | nil => cases h
      | cons c named =>
        rintro _ _ start
        cases start
        exact ⟨named, rfl⟩
    have isName : (∀ tail, named ++ suffix ≠ '=' :: tail) ∧ ∀ tail, named ++ suffix ≠ '!' :: tail :=
      ⟨fun _ start => (starts _ _ start).elim notEqual,
        fun _ start => (starts _ _ start).elim notBang⟩
    rw [openGroup_named (.inr ⟨space_append_of_cons same suffix, isName⟩)]
    exact readGroupName_named_append h suffix
  case h_8 flags notEqual notBang _ _ notNamed notAngle notEmpty same =>
    obtain ⟨⟨changes, mark, after⟩, read, opened⟩ := bind_eq_ok.1 h
    cases flags with
    | nil => exact (notEmpty rfl).elim
    | cons c flags =>
      rw [openGroup_flags (space_append_of_cons same suffix) ⟨?_, ?_, ?_, ?_⟩]
      · exact bind_eq_ok.2 ⟨_, readFlags_append read suffix, flagged_append opened suffix⟩
      · rintro rfl
        exact notEqual _ rfl
      · rintro rfl
        exact notBang _ rfl
      · rintro rfl
        exact notAngle _ rfl
      · rintro rfl
        cases read
  case h_9 plain => exact (plain _ skipped).elim
  all_goals cases h

theorem openGroup_carries (h : scope.openGroup text = .ok (scope', rest)) :
    Carries scope.openGroup text scope' rest := by
  by_cases marked : ∃ inside, space scope.verbose text = '?' :: inside
  · obtain ⟨inside, skipped⟩ := marked
    exact .inl fun suffix _ => openGroup_append skipped h suffix
  · have plain : ∀ inside, space scope.verbose text ≠ '?' :: inside :=
      fun inside skipped => marked ⟨inside, skipped⟩
    rw [openGroup_plain plain] at h
    cases h
    refine (spaceReader_carries scope.verbose text).through fun suffix after closing skipped => ?_
    cases skipped
    refine openGroup_plain fun inside opened => ?_
    cases start : space scope.verbose text with
    | cons c more =>
      rw [space_append_of_cons start suffix] at opened
      cases opened
      exact plain _ start
    | nil =>
      rcases space_append scope.verbose text with left | ⟨_, taken⟩
      · rw [left suffix closing, start] at opened
        rcases closing with rfl | rfl <;> cases opened
      · rw [taken suffix closing] at opened
        cases opened

end Groups

section Counts

variable {scope scope' : Scope} {verbose : Bool} {text rest : List Char}

private theorem readCount_append {count : Nat} {c : Char}
    (h : readCount verbose text = .ok (count, c :: rest)) (suffix : List Char) :
    readCount verbose (text ++ suffix) = .ok (count, c :: (rest ++ suffix)) := by
  unfold readCount at h ⊢
  cases dropped : text.dropWhile isBlank with
  | nil =>
    rw [dropped] at h
    cases h
  | cons d start =>
    rw [dropWhile_append_of_cons dropped suffix, ← List.cons_append]
    rw [dropped] at h
    cases taken : takeRun verbose isDigit false (d :: start) with
    | mk digits after =>
      simp only [taken] at h
      split at h
      · cases h
      · next notEmpty =>
        split at h
        · next bounded =>
          simp only [Except.ok.injEq, Prod.mk.injEq] at h
          obtain ⟨rfl, ends⟩ := h
          cases blanks : after.dropWhile isBlank with
          | nil =>
            rw [blanks, space_nil] at ends
            cases ends
          | cons e later =>
            rw [blanks] at ends
            cases after with
            | nil => cases blanks
            | cons a after =>
              rw [takeRun_append taken suffix]
              dsimp only
              rw [if_neg notEmpty, if_pos bounded, ← List.cons_append,
                dropWhile_append_of_cons blanks suffix, ← List.cons_append,
                space_append_of_cons ends suffix]
        · cases h

/-- The bounds of a counted repetition as a text spells them, and what follows the brace. -/
inductive Bounds (verbose : Bool) (text : List Char) : Nat → Option Nat → List Char → Prop
  | exactly {c : Char} {start rest : List Char} {count : Nat}
    (skipped : space verbose text = c :: start)
    (counted : readCount verbose (c :: start) = .ok (count, '}' :: rest)) :
    Bounds verbose text count (some count) rest
  | atLeast {c : Char} {start between rest : List Char} {count : Nat}
    (skipped : space verbose text = c :: start)
    (counted : readCount verbose (c :: start) = .ok (count, ',' :: between))
    (closed : space verbose between = '}' :: rest) :
    Bounds verbose text count none rest
  | range {c d : Char} {start between upper rest : List Char} {least most : Nat}
    (skipped : space verbose text = c :: start)
    (counted : readCount verbose (c :: start) = .ok (least, ',' :: between))
    (skipped' : space verbose between = d :: upper) (opened : d ≠ '}')
    (counted' : readCount verbose (d :: upper) = .ok (most, '}' :: rest)) :
    Bounds verbose text least (some most) rest

theorem Bounds.append {least : Nat} {most : Option Nat}
    (bounds : Bounds verbose text least most rest) (suffix : List Char) :
    Bounds verbose (text ++ suffix) least most (rest ++ suffix) := by
  cases bounds with
  | exactly skipped counted =>
    exact .exactly (space_append_of_cons skipped suffix) (readCount_append counted suffix)
  | atLeast skipped counted closed =>
    exact .atLeast (space_append_of_cons skipped suffix) (readCount_append counted suffix)
      (space_append_of_cons closed suffix)
  | range skipped counted skipped' opened counted' =>
    exact .range (space_append_of_cons skipped suffix) (readCount_append counted suffix)
      (space_append_of_cons skipped' suffix) opened (readCount_append counted' suffix)

def Scope.counted (scope : Scope) (least : Nat) (most : Option Nat) (rest : List Char) :
    Except Defect (Scope × List Char) := do
  if most.any (· < least) then throw .countReversed
  return (← scope.repeat least most, dropLazy (space scope.verbose rest))

theorem counted_eq_ok {least : Nat} {most : Option Nat} :
    scope.counted least most text = .ok (scope', rest) ↔
      ¬most.any (· < least) ∧ scope.repeat least most = .ok scope' ∧
        dropLazy (space scope.verbose text) = rest := by
  unfold Scope.counted
  by_cases reversed : most.any (· < least) = true
  · rw [if_pos reversed]
    simp [reversed, throw, throwThe, MonadExceptOf.throw, bind, Except.bind]
  · rw [if_neg reversed]
    cases scope.repeat least most <;> simp [reversed, pure, Except.pure, bind, Except.bind]

theorem Bounds.readCounted {least : Nat} {most : Option Nat}
    (bounds : Bounds scope.verbose text least most rest) :
    scope.readCounted text = scope.counted least most rest := by
  unfold Scope.readCounted
  cases bounds with
  | exactly skipped counted =>
    simp only [skipped, counted]
    rfl
  | atLeast skipped counted closed =>
    simp only [skipped, counted, bind, Except.bind, closed]
    rfl
  | range skipped counted skipped' opened counted' =>
    simp only [skipped, counted, bind, Except.bind, skipped']
    split
    · next same => cases same
    · next same =>
      cases same
      exact (opened rfl).elim
    · rw [counted']
      rfl

theorem exists_bounds {result : Scope × List Char} (h : scope.readCounted text = .ok result) :
    ∃ least most after, Bounds scope.verbose text least most after ∧
      scope.counted least most after = .ok result := by
  unfold Scope.readCounted at h
  dsimp only at h
  split at h
  · cases h
  · next notEmpty =>
    obtain ⟨⟨least, after⟩, counted, h⟩ := bind_eq_ok.1 h
    dsimp only at h
    cases start : space scope.verbose text with
    | nil => exact (notEmpty start).elim
    | cons c inside =>
      rw [start] at counted
      split at h
      · exact ⟨least, some least, _, .exactly start counted, h⟩
      · split at h
        · cases h
        · next closed => exact ⟨least, none, _, .atLeast start counted closed, h⟩
        · next notEmpty' opened =>
          obtain ⟨⟨most, after⟩, counted', h⟩ := bind_eq_ok.1 h
          dsimp only at h
          split at h
          · cases upper : space scope.verbose _ with
            | nil => exact (notEmpty' upper).elim
            | cons d more =>
              rw [upper] at counted' opened
              exact ⟨least, some most, _, .range start counted upper
                (fun closed => opened more (closed ▸ rfl)) counted', h⟩
          · cases h
      · cases h

def lazyReader (text : List Char) : Except Defect (Unit × List Char) :=
  .ok ((), dropLazy text)

private theorem dropLazy_append {suffix : List Char} (closing : Closing suffix) (text : List Char) :
    dropLazy (text ++ suffix) = dropLazy text ++ suffix := by
  cases text with
  | nil => rcases closing with rfl | rfl <;> rfl
  | cons c text =>
    by_cases mark : c = '?'
    · rw [mark]
      rfl
    · simp [dropLazy, mark]

theorem lazyReader_carries (text : List Char) : Carries lazyReader text () (dropLazy text) :=
  .inl fun suffix closing => by rw [lazyReader, dropLazy_append closing text]

theorem readCounted_carries (h : scope.readCounted text = .ok (scope', rest)) :
    Carries scope.readCounted text scope' rest := by
  obtain ⟨least, most, after, bounds, h⟩ := exists_bounds h
  obtain ⟨ordered, repeated, rfl⟩ := counted_eq_ok.1 h
  refine (spaceReader_carries scope.verbose after).andThen (lazyReader_carries _) rfl
    (fun nothing => by rw [nothing]; rfl) ?_
  intro suffix between last skipped dropped
  cases skipped
  cases dropped
  rw [(bounds.append suffix).readCounted]
  exact counted_eq_ok.2 ⟨ordered, repeated, rfl⟩

end Counts

end WireModel.Pattern
