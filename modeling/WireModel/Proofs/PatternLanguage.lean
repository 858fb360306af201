import WireModel.Pattern.Engine

/-! What anchors do to a pattern, for any engine. Of the language that the engine compiles only its
groups and its comments matter, and they are assumed here by name; the limits that an engine sets
on the size of a pattern are a predicate that is not looked into. -/
namespace WireModel.Pattern

structure Language [Engine] where
  /-- Is well formed, whatever its size. -/
  Reads : String → Prop
  /-- Keeps within the limits of the engine. -/
  Fits : String → Prop
  EndsInComment : String → Prop
  compiles_iff : ∀ text,
    (∃ expression, Engine.compile text = .ok expression) ↔ Reads text ∧ Fits text
  /-- A comment takes the closing anchor. -/
  reads_in_comment : ∀ text, EndsInComment text → (Reads (text ++ ")$") ↔ Reads text)
  comment_in_group : ∀ text, Reads text → EndsInComment text → EndsInComment ("^(?:" ++ text)
  group_unclosed : ∀ text, Reads text → ¬Reads ("^(?:" ++ text)
  group_closed : ∀ text, Reads text → ¬EndsInComment text → Reads ("^(?:" ++ text ++ ")$")

namespace Language

variable [Engine] (language : Language) {pattern : String}

/-- A comment at the end of a pattern takes the parenthesis that would close the group. -/
theorem reads_anchored_iff (h : language.Reads pattern) :
    language.Reads (anchored pattern) ↔ ¬language.EndsInComment pattern := by
  constructor
  · intro read ends
    have inside := language.comment_in_group pattern h ends
    have opened := (language.reads_in_comment _ inside).1 read
    exact language.group_unclosed pattern h opened
  · exact language.group_closed pattern h

/-- A pattern that compiles does so between its anchors just if it does not end in a comment and the
anchors leave it within the limits. -/
theorem compiles_anchored_iff (h : ∃ expression, Engine.compile pattern = .ok expression) :
    (∃ expression, Engine.compile (anchored pattern) = .ok expression) ↔
      ¬language.EndsInComment pattern ∧ language.Fits (anchored pattern) := by
  have read := ((language.compiles_iff pattern).1 h).1
  rw [language.compiles_iff, language.reads_anchored_iff read]

theorem fails_iff (h : ∃ expression, Engine.compile pattern = .ok expression) :
    (∃ fault, Engine.compile (anchored pattern) = .error fault) ↔
      language.EndsInComment pattern ∨ ¬language.Fits (anchored pattern) := by
  rw [← Classical.not_not (a := language.EndsInComment pattern), ← Classical.not_and_iff_not_or_not,
    ← language.compiles_anchored_iff h]
  cases Engine.compile (anchored pattern) <;> simp

end Language

end WireModel.Pattern
