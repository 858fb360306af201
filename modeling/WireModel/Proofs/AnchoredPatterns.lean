import WireModel.Pattern.Compiled
import WireModel.Proofs.ClassReading
import WireModel.Proofs.GroupReading
import WireModel.Proofs.PatternLanguage

/-! The language of the program's engine. A pattern is read inside the anchors as it is read alone,
unless a comment at its end takes the parenthesis that closes the group around it. -/
namespace WireModel.Pattern

section Rounds

variable {scope scope' : Scope} {fuel : Nat} {c : Char} {text rest : List Char}

/-- What one character does to the scope, and where reading goes on. -/
def Scope.round (scope : Scope) (c : Char) (text : List Char) :
    Except Defect (Scope × List Char) :=
  match c with
  | '(' => scope.openGroup text
  | ')' => do return (← scope.leave, text)
  | '|' => .ok (scope.branch, text)
  | '[' => do
    let (item, rest) ← readClass scope.verbose (text.length + 2) [] [] ('[' :: text)
    return (scope.push item, rest)
  | '?' => do return (← scope.repeat 0 (some 1), dropLazy text)
  | '*' => do return (← scope.repeat 0 none, dropLazy text)
  | '+' => do return (← scope.repeat 1 none, dropLazy text)
  | '{' => scope.readCounted text
  | '\\' => do
    let (item, rest) ← readEscape scope.verbose text
    return (scope.push item, rest)
  | '.' => .ok (scope.push .dot, text)
  | '^' => .ok (scope.push (.assertion .lineStart), text)
  | '$' => .ok (scope.push (.assertion .lineEnd), text)
  | c => .ok (scope.push (.literal ⟨c, false⟩), text)

theorem readItems_of_nil (h : space scope.verbose text = []) :
    readItems (fuel + 1) scope text = scope.finish := by
  rw [readItems, h]

theorem readItems_of_cons (h : space scope.verbose text = c :: rest) :
    readItems (fuel + 1) scope text =
      scope.round c rest >>= fun next => readItems fuel next.1 next.2 := by
  rw [readItems, h]
  split
  case h_1 same => cases same
  case h_14 same =>
    cases same
    rw [Scope.round]
    · rfl
    all_goals assumption
  case h_4 same | h_11 same | h_12 same | h_13 same =>
    cases same
    rfl
  all_goals
    next same =>
      cases same
      simp only [Scope.round, bind_assoc, pure_bind]

theorem round_carries (h : scope.round c text = .ok (scope', rest)) :
    Carries (scope.round c) text scope' rest := by
  unfold Scope.round at h
  split at h
  case h_1 => exact openGroup_carries h
  case h_2 =>
    obtain ⟨_, leaves, h⟩ := bind_eq_ok.1 h
    cases h
    exact .inl fun suffix _ => bind_eq_ok.2 ⟨_, leaves, rfl⟩
  case h_4 =>
    obtain ⟨⟨item, after⟩, read, h⟩ := bind_eq_ok.1 h
    cases h
    refine .inl fun suffix closing => bind_eq_ok.2 ⟨(item, rest ++ suffix), ?_, rfl⟩
    exact readClass_append read closing (by simp)
  case h_5 | h_6 | h_7 =>
    obtain ⟨_, repeated, h⟩ := bind_eq_ok.1 h
    cases h
    refine (lazyReader_carries text).through fun suffix after closing dropped => ?_
    cases dropped
    exact bind_eq_ok.2 ⟨_, repeated, rfl⟩
  case h_8 => exact readCounted_carries h
  case h_9 =>
    obtain ⟨⟨item, after⟩, read, h⟩ := bind_eq_ok.1 h
    cases h
    exact (readEscape_carries read).through fun suffix after closing read' =>
      bind_eq_ok.2 ⟨_, read', rfl⟩
  case h_13 =>
    cases h
    refine .inl fun suffix _ => ?_
    rw [Scope.round] <;> assumption
  all_goals
    cases h
    exact .inl fun suffix _ => rfl

end Rounds

section Bases

variable {scope scope' : Scope} {base : List Frame} {c : Char} {text rest : List Char}

def Scope.under (scope : Scope) (base : List Frame) : Scope :=
  { scope with stack := scope.stack ++ base }

/-- No alternation waits right outside. -/
def Grounded (base : List Frame) : Prop :=
  ∀ branches rest, base ≠ .alternation branches :: rest

private theorem settle_under (grounded : Grounded base) :
    (scope.under base).settle = (scope.settle.1, scope.settle.2 ++ base) := by
  obtain ⟨verbose, stack, names, items⟩ := scope
  unfold Scope.settle Scope.under
  cases stack with
  | nil =>
    dsimp only [List.nil_append]
    split
    · exact (grounded _ _ rfl).elim
    · rfl
  | cons frame stack => cases frame <;> rfl

private theorem branch_under (grounded : Grounded base) :
    (scope.under base).branch = scope.branch.under base := by
  obtain ⟨verbose, stack, names, items⟩ := scope
  unfold Scope.branch Scope.under
  cases stack with
  | nil =>
    dsimp only [List.nil_append]
    split
    · exact (grounded _ _ rfl).elim
    · rfl
  | cons frame stack => cases frame <;> rfl

private theorem repeat_under {least : Nat} {most : Option Nat}
    (h : scope.repeat least most = .ok scope') :
    (scope.under base).repeat least most = .ok (scope'.under base) := by
  obtain ⟨verbose, stack, names, items⟩ := scope
  unfold Scope.repeat Scope.under at *
  dsimp only at *
  split at h
  case h_4 =>
    cases h
    rfl
  all_goals cases h

private theorem leave_under (grounded : Grounded base) (h : scope.leave = .ok scope') :
    (scope.under base).leave = .ok (scope'.under base) := by
  unfold Scope.leave at h ⊢
  rw [settle_under grounded]
  dsimp only at h ⊢
  split at h
  · next same =>
    cases h
    rw [same]
    rfl
  · cases h

private theorem named_under {name : String} (h : scope.named (name, text) = .ok (scope', rest)) :
    (scope.under base).named (name, text) = .ok (scope'.under base, rest) := by
  obtain ⟨new, rfl, rfl⟩ := named_eq_ok.1 h
  exact named_eq_ok.2 ⟨new, rfl, rfl⟩

private theorem flagged_under {changes : FlagChanges} {mark : Char}
    (h : scope.flagged (changes, mark, text) = .ok (scope', rest)) :
    (scope.under base).flagged (changes, mark, text) = .ok (scope'.under base, rest) := by
  obtain ⟨⟨colon, rfl⟩ | ⟨notColon, some, rfl⟩, rfl⟩ := flagged_eq_ok.1 h
  · exact flagged_eq_ok.2 ⟨.inl ⟨colon, rfl⟩, rfl⟩
  · exact flagged_eq_ok.2 ⟨.inr ⟨notColon, some, rfl⟩, rfl⟩

private theorem openGroup_under (h : scope.openGroup text = .ok (scope', rest)) :
    (scope.under base).openGroup text = .ok (scope'.under base, rest) := by
  unfold Scope.openGroup at h ⊢
  have same : (scope.under base).verbose = scope.verbose := rfl
  rw [same]
  generalize space scope.verbose text = start at h ⊢
  split at h
  case h_5 | h_6 =>
    obtain ⟨⟨name, after⟩, read, opened⟩ := bind_eq_ok.1 h
    exact bind_eq_ok.2 ⟨_, read, named_under opened⟩
  case h_8 =>
    obtain ⟨⟨changes, mark, after⟩, read, opened⟩ := bind_eq_ok.1 h
    exact bind_eq_ok.2 ⟨_, read, flagged_under opened⟩
  case h_9 =>
    cases h
    rfl
  all_goals cases h

private theorem readCounted_under (h : scope.readCounted text = .ok (scope', rest)) :
    (scope.under base).readCounted text = .ok (scope'.under base, rest) := by
  obtain ⟨least, most, after, bounds, h⟩ := exists_bounds h
  have bounds' : Bounds (scope.under base).verbose text least most after := bounds
  obtain ⟨ordered, repeated, rfl⟩ := counted_eq_ok.1 h
  rw [bounds'.readCounted]
  exact counted_eq_ok.2 ⟨ordered, repeat_under repeated, rfl⟩

theorem round_under (grounded : Grounded base) (h : scope.round c text = .ok (scope', rest)) :
    (scope.under base).round c text = .ok (scope'.under base, rest) := by
  unfold Scope.round at h
  split at h
  case h_1 => exact openGroup_under h
  case h_2 =>
    obtain ⟨_, leaves, h⟩ := bind_eq_ok.1 h
    cases h
    exact bind_eq_ok.2 ⟨_, leave_under grounded leaves, rfl⟩
  case h_3 =>
    cases h
    exact congrArg (fun branched => Except.ok (branched, text)) (branch_under grounded)
  case h_4 | h_9 =>
    obtain ⟨⟨item, after⟩, read, h⟩ := bind_eq_ok.1 h
    cases h
    exact bind_eq_ok.2 ⟨_, read, rfl⟩
  case h_5 | h_6 | h_7 =>
    obtain ⟨_, repeated, h⟩ := bind_eq_ok.1 h
    cases h
    exact bind_eq_ok.2 ⟨_, repeat_under repeated, rfl⟩
  case h_8 => exact readCounted_under h
  case h_13 =>
    cases h
    rw [Scope.round]
    · rfl
    all_goals assumption
  all_goals
    cases h
    rfl

/-- Reading `text` ends with `final` after some rounds, and leaves a closing text to be read. -/
def Leaves (scope : Scope) (text : List Char) (final : Scope) (rounds : Nat) : Prop :=
  ∀ suffix, Closing suffix → ∀ base, Grounded base → ∀ fuel,
    readItems (rounds + fuel) (scope.under base) (text ++ suffix) =
      readItems fuel (final.under base) suffix

/-- Reading `text` ends with `final` after some rounds, and takes a closing text with it. -/
def Takes (scope : Scope) (text : List Char) (final : Scope) (rounds : Nat) : Prop :=
  ∀ suffix, Closing suffix → ∀ base, Grounded base → ∀ fuel,
    readItems (rounds + fuel + 1) (scope.under base) (text ++ suffix) = (final.under base).finish

private theorem finish_eq_ok {expr : Expr} :
    scope.finish = .ok expr ↔ scope.settle = (expr, []) := by
  unfold Scope.finish
  split
  · next settled => simp [settled]
  · next unsettled =>
    constructor
    · intro h
      cases h
    · intro h
      exact (unsettled _ h).elim

private theorem space_closing {suffix : List Char} (closing : Closing suffix) (verbose : Bool) :
    space verbose suffix = suffix := by
  cases verbose with
  | false => rfl
  | true => rcases closing with rfl | rfl <;> rfl

private theorem readItems_congr (h : space scope.verbose text = space scope.verbose rest)
    (fuel : Nat) : readItems fuel scope text = readItems fuel scope rest := by
  cases fuel with
  | zero => rfl
  | succ fuel => rw [readItems, readItems, h]

theorem leaves_or_takes_of_blank (start : space scope.verbose text = []) :
    Leaves scope text scope 0 ∨ Takes scope text scope 0 := by
  rcases space_append scope.verbose text with left | ⟨_, taken⟩
  · refine .inl fun suffix closing base grounded fuel => ?_
    have skipped : space scope.verbose (text ++ suffix) = suffix := by
      rw [left suffix closing, start, List.nil_append]
    rw [Nat.zero_add]
    apply readItems_congr
    rw [space_closing closing]
    exact skipped
  · exact .inr fun suffix closing base grounded fuel => readItems_of_nil (taken suffix closing)

section Step

variable {next final : Scope} {after : List Char} {rounds : Nat}

private theorem readItems_under_of_round (start : space scope.verbose text = c :: rest)
    {suffix : List Char}
    (taken : scope.round c (rest ++ suffix) = .ok (next, after)) (grounded : Grounded base)
    (fuel : Nat) :
    readItems (fuel + 1) (scope.under base) (text ++ suffix) =
      readItems fuel (next.under base) after := by
  have start' : space (scope.under base).verbose (text ++ suffix) = c :: (rest ++ suffix) :=
    space_append_of_cons start suffix
  rw [readItems_of_cons start', round_under grounded taken]
  rfl

theorem Leaves.of_round (start : space scope.verbose text = c :: rest)
    (left : ∀ suffix, Closing suffix →
      scope.round c (rest ++ suffix) = .ok (next, after ++ suffix))
    (leaves : Leaves next after final rounds) : Leaves scope text final (rounds + 1) := by
  intro suffix closing base grounded fuel
  rw [Nat.add_right_comm, readItems_under_of_round start (left suffix closing) grounded]
  exact leaves suffix closing base grounded fuel

theorem Takes.of_round (start : space scope.verbose text = c :: rest)
    (left : ∀ suffix, Closing suffix →
      scope.round c (rest ++ suffix) = .ok (next, after ++ suffix))
    (takes : Takes next after final rounds) : Takes scope text final (rounds + 1) := by
  intro suffix closing base grounded fuel
  rw [Nat.add_right_comm rounds, readItems_under_of_round start (left suffix closing) grounded]
  exact takes suffix closing base grounded fuel

theorem Takes.of_last_round (start : space scope.verbose text = c :: rest)
    (taken : ∀ suffix, Closing suffix → scope.round c (rest ++ suffix) = .ok (next, [])) :
    Takes scope text next 1 := by
  intro suffix closing base grounded fuel
  rw [readItems_under_of_round start (taken suffix closing) grounded, Nat.add_comm 1]
  exact readItems_of_nil (space_nil _)

end Step

/-- What is read from a text is read before a closing text and inside other groups, and then the
closing text is left or taken. -/
theorem readItems_carries {fuel : Nat} {expr : Expr} (h : readItems fuel scope text = .ok expr) :
    ∃ final rounds, rounds < fuel ∧ final.settle = (expr, []) ∧
      (Leaves scope text final rounds ∨ Takes scope text final rounds) := by
  induction fuel generalizing scope text with
  | zero => cases h
  | succ fuel ih =>
    cases start : space scope.verbose text with
    | nil =>
      rw [readItems_of_nil start] at h
      exact ⟨scope, 0, by omega, finish_eq_ok.1 h, leaves_or_takes_of_blank start⟩
    | cons c rest =>
      rw [readItems_of_cons start] at h
      obtain ⟨⟨next, after⟩, round, h⟩ := bind_eq_ok.1 h
      rcases round_carries round with left | ⟨rfl, taken⟩
      · obtain ⟨final, rounds, fewer, settled, ends⟩ := ih h
        exact ⟨final, rounds + 1, by omega, settled,
          ends.imp (Leaves.of_round start left) (Takes.of_round start left)⟩
      · -- The last comment has begun in this round, so the next one is the last of all.
        cases fuel with
        | zero => cases h
        | succ fuel =>
          have finished := (readItems_of_nil (space_nil _)).symm.trans h
          exact ⟨next, 1, by omega, finish_eq_ok.1 finished, .inr (.of_last_round start taken)⟩

theorem readItems_under {fuel : Nat} {expr : Expr} (h : readItems fuel scope text = .ok expr)
    (grounded : Grounded base) (extra : Nat) :
    ∃ final : Scope, final.settle = (expr, []) ∧
      readItems (fuel + extra) (scope.under base) text = (final.under base).finish := by
  induction fuel generalizing scope text with
  | zero => cases h
  | succ fuel ih =>
    rw [Nat.add_right_comm]
    cases start : space scope.verbose text with
    | nil =>
      rw [readItems_of_nil start] at h
      exact ⟨scope, finish_eq_ok.1 h, readItems_of_nil start⟩
    | cons c rest =>
      rw [readItems_of_cons start] at h
      obtain ⟨⟨next, after⟩, round, h⟩ := bind_eq_ok.1 h
      obtain ⟨final, settled, reads⟩ := ih h
      refine ⟨final, settled, ?_⟩
      have start' : space (scope.under base).verbose text = c :: rest := start
      rw [readItems_of_cons start', round_under grounded round]
      exact reads

end Bases

section Anchors

variable {text : List Char} {expr : Expr} {part : Part} {modes : Modes}

def Expr.withinDepth (expr : Expr) : Except Defect Expr :=
  if depthLimit < expr.depth then .error .nestedTooDeep else .ok expr

private theorem withinDepth_eq_ok {expr' : Expr} :
    expr.withinDepth = .ok expr' ↔ expr = expr' ∧ expr.depth ≤ depthLimit := by
  unfold Expr.withinDepth
  split
  · simp only [reduceCtorEq, false_iff, not_and]
    omega
  · simp only [Except.ok.injEq, iff_self_and]
    omega

private theorem read_eq (pattern : String) : read pattern =
    readItems (pattern.toList.length + 1) {} pattern.toList >>= Expr.withinDepth :=
  rfl

def opened : List Frame :=
  [.group [.assertion .lineStart] false [] false]

private theorem grounded_opened : Grounded opened := by
  intro branches rest same
  cases same

def Expr.between (expr : Expr) : Expr :=
  .concat [.assertion .lineStart, .group false [] expr, .assertion .lineEnd]

theorem readItems_opening (fuel : Nat) (text : List Char) :
    readItems (fuel + 2) {} ("^(?:".toList ++ text) =
      readItems fuel (({} : Scope).under opened) text :=
  rfl

private theorem leave_opened {final : Scope} (settled : final.settle = (expr, [])) :
    (final.under opened).leave = .ok
      { final with
        verbose := false
        stack := []
        items := [.group false [] expr, .assertion .lineStart] } := by
  unfold Scope.leave
  rw [settle_under grounded_opened, settled]
  rfl

private theorem readItems_closing {final : Scope} (settled : final.settle = (expr, []))
    (fuel : Nat) : readItems (fuel + 3) (final.under opened) [')', '$'] = .ok expr.between := by
  rw [readItems_of_cons (space_closing (.inr rfl) _), Scope.round, leave_opened settled]
  rfl

private theorem finish_opened {final : Scope} (settled : final.settle = (expr, [])) :
    (final.under opened).finish = .error .groupUnclosed := by
  unfold Scope.finish
  rw [settle_under grounded_opened, settled]
  rfl

private theorem grounded_nil : Grounded [] := by
  intro branches rest same
  cases same

section Ends

variable {final : Scope} {rounds : Nat}

theorem Leaves.after_pattern (leaves : Leaves {} text final rounds)
    (settled : final.settle = (expr, [])) (fuel : Nat) :
    readItems (rounds + (fuel + 1)) {} (text ++ [')', '$']) = .error .groupUnopened := by
  have left : (final.under []).leave = .error .groupUnopened := by
    unfold Scope.leave
    rw [settle_under grounded_nil, settled]
    rfl
  calc readItems (rounds + (fuel + 1)) {} (text ++ [')', '$'])
      = readItems (fuel + 1) (final.under []) [')', '$'] := leaves _ (.inr rfl) [] grounded_nil _
    _ = .error .groupUnopened := by
        rw [readItems_of_cons (space_closing (.inr rfl) _), Scope.round, left]
        rfl

theorem Leaves.between_anchors (leaves : Leaves {} text final rounds)
    (settled : final.settle = (expr, [])) (fuel : Nat) :
    readItems (rounds + (fuel + 3) + 2) {} ("^(?:".toList ++ (text ++ [')', '$'])) =
      .ok expr.between := by
  rw [readItems_opening, leaves _ (.inr rfl) opened grounded_opened]
  exact readItems_closing settled fuel

theorem Takes.after_pattern (takes : Takes {} text final rounds)
    (settled : final.settle = (expr, [])) (fuel : Nat) :
    readItems (rounds + fuel + 1) {} (text ++ [')', '$']) = .ok expr :=
  calc readItems (rounds + fuel + 1) {} (text ++ [')', '$'])
      = (final.under []).finish := takes _ (.inr rfl) [] grounded_nil fuel
    _ = .ok expr := finish_eq_ok.2 (by rw [settle_under grounded_nil, settled]; rfl)

theorem Takes.between_anchors (takes : Takes {} text final rounds)
    (settled : final.settle = (expr, [])) (fuel : Nat) :
    readItems (rounds + fuel + 1 + 2) {} ("^(?:".toList ++ (text ++ [')', '$'])) =
      .error .groupUnclosed := by
  rw [readItems_opening, takes _ (.inr rfl) opened grounded_opened]
  exact finish_opened settled

end Ends

/-- The expression that a text spells, at any depth of nesting. -/
def expression (text : List Char) : Except Defect Expr :=
  readItems (text.length + 1) {} text

/-- A text that spells an expression leaves the closing anchor to be noticed or takes it, alone and
behind the opening anchor alike. -/
theorem expression_anchored (h : expression text = .ok expr) :
    (expression (text ++ [')', '$']) = .error .groupUnopened ∧
      expression ("^(?:".toList ++ (text ++ [')', '$'])) = .ok expr.between) ∨
    (expression (text ++ [')', '$']) = .ok expr ∧
      expression ("^(?:".toList ++ (text ++ [')', '$'])) = .error .groupUnclosed) := by
  obtain ⟨final, rounds, fewer, settled, ends⟩ := readItems_carries h
  obtain ⟨spare, enough⟩ : ∃ spare, text.length = rounds + spare := ⟨text.length - rounds, by omega⟩
  have alone : (text ++ [')', '$']).length + 1 = rounds + (spare + 2) + 1 := by
    simp [enough, Nat.add_assoc]
  have between : ("^(?:".toList ++ (text ++ [')', '$'])).length + 1 = rounds + (spare + 4) + 3 := by
    simp [enough, Nat.add_assoc]
  unfold expression
  rw [alone, between]
  rcases ends with leaves | takes
  · exact .inl ⟨leaves.after_pattern settled _, leaves.between_anchors settled _⟩
  · exact .inr ⟨takes.after_pattern settled _, takes.between_anchors settled _⟩

/-- A group that is opened before a text that spells an expression is not closed in it. -/
theorem expression_opened (h : expression text = .ok expr) :
    expression ("^(?:".toList ++ text) = .error .groupUnclosed := by
  obtain ⟨final, settled, reads⟩ := readItems_under h grounded_opened 2
  have length : ("^(?:".toList ++ text).length + 1 = text.length + 1 + 2 + 2 := by simp
  rw [expression, length, readItems_opening, reads]
  exact finish_opened settled

private theorem meaning_between (h : expr.meaning {} = .ok (part, modes)) :
    expr.between.meaning {} =
      .ok (.sequence [.ofLook .textStart, part, .ofLook .textEnd], {}) := by
  have inside : expr.meaning (Modes.changeAll {} []) = .ok (part, modes) := h
  simp only [Expr.between, Expr.meaning, Expr.meanings, bind, Except.bind, inside]
  rfl

end Anchors

section Language

def Spells (pattern : String) (expr : Expr) (part : Part) : Prop :=
  expression pattern.toList = .ok expr ∧ ∃ modes, expr.meaning {} = .ok (part, modes)

theorem ofText_eq_ok {pattern : String} {regex : Regex} : Regex.ofText pattern = .ok regex ↔
    ∃ expr part, Spells pattern expr part ∧ expr.depth ≤ depthLimit ∧
      part.automatonSize ≤ sizeLimit ∧ part.regex = regex := by
  unfold Regex.ofText
  rw [read_eq]
  constructor
  · intro h
    obtain ⟨_, depth, h⟩ := bind_eq_ok.1 h
    obtain ⟨expr, spelt, within⟩ := bind_eq_ok.1 depth
    obtain ⟨rfl, shallow⟩ := withinDepth_eq_ok.1 within
    obtain ⟨⟨part, modes⟩, means, h⟩ := bind_eq_ok.1 h
    dsimp only at h
    split at h
    · cases h
    · next small =>
      cases h
      exact ⟨expr, part, ⟨spelt, modes, means⟩, shallow, by omega, rfl⟩
  · rintro ⟨expr, part, ⟨spelt, modes, means⟩, shallow, small, rfl⟩
    refine bind_eq_ok.2 ⟨expr, bind_eq_ok.2 ⟨expr, spelt, withinDepth_eq_ok.2 ⟨rfl, shallow⟩⟩, ?_⟩
    refine bind_eq_ok.2 ⟨(part, modes), means, ?_⟩
    exact if_neg (by omega)

theorem Spells.unique {pattern : String} {expr expr' : Expr} {part part' : Part}
    (h : Spells pattern expr part) (h' : Spells pattern expr' part') :
    expr = expr' ∧ part = part' := by
  obtain ⟨spelt, modes, means⟩ := h
  obtain ⟨spelt', modes', means'⟩ := h'
  cases spelt.symm.trans spelt'
  cases means.symm.trans means'
  exact ⟨rfl, rfl⟩

private theorem toList_opened (text : String) :
    ("^(?:" ++ text).toList = "^(?:".toList ++ text.toList :=
  String.toList_append

private theorem toList_closed (text : String) : (text ++ ")$").toList = text.toList ++ [')', '$'] :=
  String.toList_append

private theorem toList_anchored (text : String) :
    ("^(?:" ++ text ++ ")$").toList = "^(?:".toList ++ (text.toList ++ [')', '$']) := by
  rw [toList_closed, toList_opened, List.append_assoc]

attribute [local instance] regexEngine

/-- The program's engine compiles such a language. A text ends in a comment if the closing anchor
changes nothing about it. -/
def regexLanguage : Language where
  Reads text := ∃ expr part, Spells text expr part
  Fits text := ∀ expr part, Spells text expr part →
    expr.depth ≤ depthLimit ∧ part.automatonSize ≤ sizeLimit
  EndsInComment text := expression (text ++ ")$").toList = expression text.toList
  compiles_iff text := by
    constructor
    · rintro ⟨regex, compiled⟩
      obtain ⟨expr, part, spelt, shallow, small, -⟩ := ofText_eq_ok.1 (mapError_eq_ok.1 compiled)
      refine ⟨⟨expr, part, spelt⟩, fun expr' part' spelt' => ?_⟩
      obtain ⟨rfl, rfl⟩ := spelt.unique spelt'
      exact ⟨shallow, small⟩
    · rintro ⟨⟨expr, part, spelt⟩, fits⟩
      obtain ⟨shallow, small⟩ := fits expr part spelt
      exact ⟨part.regex, mapError_eq_ok.2 (ofText_eq_ok.2 ⟨expr, part, spelt, shallow, small, rfl⟩)⟩
  reads_in_comment text same := by
    simp only [Spells, same]
  comment_in_group text := by
    rintro ⟨expr, part, spelt, -⟩ same
    rw [toList_closed, spelt] at same
    rw [toList_anchored, toList_opened, expression_opened spelt]
    rcases expression_anchored spelt with ⟨noticed, -⟩ | ⟨-, unclosed⟩
    · cases noticed.symm.trans same
    · exact unclosed
  group_unclosed text := by
    rintro ⟨_, _, spelt, -⟩ ⟨_, _, spelt', -⟩
    rw [toList_opened, expression_opened spelt] at spelt'
    cases spelt'
  group_closed text := by
    rintro ⟨expr, part, spelt, modes, means⟩ noticed
    rw [toList_closed, spelt] at noticed
    rcases expression_anchored spelt with ⟨-, closed⟩ | ⟨same, -⟩
    · exact ⟨expr.between, _, toList_anchored text ▸ closed, _, meaning_between means⟩
    · exact (noticed same).elim

end Language

end WireModel.Pattern
