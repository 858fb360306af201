import WireModel.Proofs.Documentation

/-! The normal form of a text, said without the way it is computed. A text splits into lines, a line
and a list of lines have a core between their blank ends, and the normal form of a text is made of
the cores of the lines in the core of its lines. -/
namespace WireModel

section Core

variable {α β : Type} {p : α → Bool}

/-- What is left of a list without its ends: all that stands around it is to be dropped, and neither
its own first item nor its last one is. -/
structure IsCore (p : α → Bool) (items core : List α) : Prop where
  around : ∃ front back, items = front ++ core ++ back ∧
    (∀ item ∈ front, p item) ∧ ∀ item ∈ back, p item
  ends : Stripped p core

private theorem isCore_stripEnds (p : α → Bool) (items : List α) :
    IsCore p items (stripEnds p items) where
  around := by
    refine ⟨items.takeWhile p, (items.dropWhile p).rtakeWhile p, ?_, ?_, ?_⟩
    · rw [stripEnds, List.append_assoc, List.rdropWhile_append_rtakeWhile,
        List.takeWhile_append_dropWhile]
    · exact fun item => List.mem_takeWhile_imp
    · exact fun item => List.mem_rtakeWhile_imp
  ends := stripped_stripEnds p items

private theorem rdropWhile_map (f : β → α) (items : List β) :
    (items.map f).rdropWhile p = (items.rdropWhile (p ∘ f)).map f := by
  rw [List.rdropWhile, ← List.map_reverse, List.dropWhile_map, ← List.map_reverse, List.rdropWhile]

private theorem stripEnds_map (f : β → α) (items : List β) :
    stripEnds p (items.map f) = (stripEnds (p ∘ f) items).map f := by
  rw [stripEnds, List.dropWhile_map, rdropWhile_map, stripEnds]

theorem Stripped.map {f : β → α} {items : List β} (h : Stripped (p ∘ f) items) :
    Stripped p (items.map f) where
  start := by rw [List.dropWhile_map, h.start]
  stop := by rw [rdropWhile_map, h.stop]

end Core

namespace Unicode

/-- How a text splits into lines. A newline ends a line, with the carriage return right before it if
there is one; what follows the last newline is a line if it is not empty. -/
inductive SplitsInto : List Char → List (List Char) → Prop
  | nil : SplitsInto [] []
  | last {line} (inLine : '\n' ∉ line) (filled : line ≠ []) : SplitsInto line [line]
  | newline {line rest lines} (inLine : '\n' ∉ line) (plain : line.getLast? ≠ some '\r')
      (later : SplitsInto rest lines) : SplitsInto (line ++ '\n' :: rest) (line :: lines)
  | returned {line rest lines} (inLine : '\n' ∉ line) (later : SplitsInto rest lines) :
      SplitsInto (line ++ '\r' :: '\n' :: rest) (line :: lines)

theorem splitsInto_newline {line rest : List Char} {lines : List (List Char)} (inLine : '\n' ∉ line)
    (later : SplitsInto rest lines) :
    SplitsInto (line.reverse ++ '\n' :: rest) ((dropReturn line).reverse :: lines) := by
  unfold dropReturn
  split
  · next line =>
    have inside : '\n' ∉ line.reverse := fun newline =>
      inLine (List.mem_cons_of_mem _ (List.mem_reverse.1 newline))
    rw [List.reverse_cons, List.append_assoc]
    exact .returned inside later
  · next line notReturned =>
    refine .newline (by rwa [List.mem_reverse]) ?_ later
    rw [List.getLast?_reverse]
    intro starts
    obtain ⟨before, rfl⟩ := List.head?_eq_some_iff.1 starts
    exact notReturned before rfl

private theorem splitsInto_linesAfter {line text : List Char} (inLine : '\n' ∉ line) :
    SplitsInto (line.reverse ++ text) (linesAfter line text) := by
  induction text generalizing line with
  | nil =>
    rw [linesAfter, List.append_nil]
    split
    · next empty =>
      rw [List.isEmpty_iff.1 empty]
      exact .nil
    · next filled => exact .last (by rwa [List.mem_reverse]) (by simpa using filled)
  | cons c rest ih =>
    rw [linesAfter]
    split
    · next newline =>
      rw [newline]
      exact splitsInto_newline inLine (ih List.not_mem_nil)
    · next notNewline =>
      have inNext : '\n' ∉ c :: line := by simp [inLine, Ne.symm notNewline]
      have split := ih inNext
      rwa [List.reverse_cons, List.append_assoc] at split

theorem splitsInto_lines (text : String) :
    SplitsInto text.toList ((lines text).map String.toList) := by
  have split : SplitsInto text.toList (linesAfter [] text.toList) :=
    splitsInto_linesAfter List.not_mem_nil
  rw [lines, List.map_map]
  simpa [Function.comp_def] using split

theorem isCore_trim (line : String) : IsCore isBlank line.toList (trim line).toList := by
  rw [trim, String.toList_ofList]
  exact isCore_stripEnds isBlank line.toList

@[simp]
theorem isBlankText_trim (line : String) : isBlankText (trim line) = isBlankText line := by
  rw [Bool.eq_iff_iff, isBlankText_iff, isBlankText_iff, trim, String.toList_ofList,
    visible_trimChars]

@[simp]
theorem isEmpty_trim (line : String) : (trim line).isEmpty = isBlankText line := by
  rw [Bool.eq_iff_iff]
  constructor
  · intro empty
    rw [← isBlankText_trim, String.isEmpty_iff.1 empty]
    rfl
  · intro blank
    have none : stripEnds isBlank line.toList = [] :=
      stripEnds_of_all (by simpa [isBlankText] using blank)
    rw [String.isEmpty_iff, trim, trimChars_eq, none]

private theorem isBlankText_of_mem_lines {text line : String} (blank : isBlankText text)
    (member : line ∈ lines text) : isBlankText line := by
  obtain ⟨chars, among, rfl⟩ := List.mem_map.1 member
  have nothing : visible (linesAfter [] text.toList).flatten = [] := by
    rw [visible_linesAfter]
    exact isBlankText_iff.1 blank
  rw [visible_flatten, List.flatten_eq_nil_iff] at nothing
  rw [isBlankText_iff, String.toList_ofList]
  exact nothing _ (List.mem_map_of_mem among)

end Unicode

namespace Docs

open Unicode

private theorem textStart_le_textStop (lines : List String) : textStart lines ≤ textStop lines := by
  rw [textStop]
  split
  · next below found =>
    obtain ⟨inRange, rfl⟩ := List.findIdx?_eq_some_iff_findIdx_eq.1 found
    have kept := List.findIdx_getElem (w := inRange)
    rw [List.getElem_reverse] at kept
    -- The line right before the stop has text, and the lines before the start have none.
    by_contra before
    have stopsBefore : lines.length - 1 - lines.reverse.findIdx (!·.isEmpty) < textStart lines := by
      omega
    rw [List.not_of_lt_findIdx stopsBefore] at kept
    cases kept
  · exact le_refl _

private theorem textStop_le_length (lines : List String) : textStop lines ≤ lines.length := by
  rw [textStop]
  split
  · exact Nat.sub_le ..
  · exact List.findIdx_le_length

theorem normalLines_eq_map (text : String) :
    normalLines text = (stripEnds isBlankText (lines text)).map trim := by
  have blank : String.isEmpty ∘ trim = isBlankText := by
    funext line
    rw [Function.comp_apply, isEmpty_trim]
  rw [normalLines_eq, stripEnds_map, blank]

theorem stripped_normalLines (text : String) : Stripped isBlankText (normalLines text) := by
  have blank : isBlankText ∘ trim = isBlankText := by
    funext line
    rw [Function.comp_apply, isBlankText_trim]
  rw [normalLines_eq_map]
  apply Stripped.map
  rw [blank]
  exact stripped_stripEnds isBlankText (lines text)

@[simp]
theorem normalize_eq_empty (text : String) : normalize text = "" ↔ isBlankText text := by
  constructor
  · intro empty
    rw [isBlankText_iff, ← visible_normalize, empty]
    rfl
  · intro blank
    have none : normalLines text = [] := by
      rw [normalLines_eq_map, stripEnds_of_all fun line => isBlankText_of_mem_lines blank]
      rfl
    rw [normalize, none]
    rfl

/-- A text in normal form stays as it is; none of its lines begins or ends with a blank, and neither
its first line nor its last one is blank. It is empty exactly if the text is blank. Its lines are
the lines of the text between the blank lines at both ends, each without the blanks at its own ends;
the bounds that they are taken between are in order and within range. -/
theorem normal_form_exact (text : String) :
    normalize (normalize text) = normalize text ∧
    SplitsInto text.toList ((lines text).map String.toList) ∧
    SplitsInto (normalize text).toList ((lines (normalize text)).map String.toList) ∧
    (∀ line ∈ lines (normalize text), Stripped isBlank line.toList) ∧
    Stripped isBlankText (lines (normalize text)) ∧
    (normalize text = "" ↔ isBlankText text) ∧
    (∃ core, IsCore isBlankText (lines text) core ∧
      List.Forall₂ (fun line result => IsCore isBlank line.toList result.toList) core
        (lines (normalize text)) ∧
      normalize text = "\n".intercalate (lines (normalize text))) ∧
    textStart ((lines text).map trim) ≤ textStop ((lines text).map trim) ∧
    textStop ((lines text).map trim) ≤ ((lines text).map trim).length := by
  have split := splitsInto_lines (normalize text)
  have core := isCore_stripEnds isBlankText (lines text)
  have inOrder := textStart_le_textStop ((lines text).map trim)
  have inRange := textStop_le_length ((lines text).map trim)
  rw [lines_normalize] at split ⊢
  refine ⟨normalize_normalize text, splitsInto_lines text, split, ?_, stripped_normalLines text,
    normalize_eq_empty text, ⟨_, core, ?_, rfl⟩, inOrder, inRange⟩
  · exact fun line member => (isLine_of_mem_normalLines member).trimmed
  · rw [normalLines_eq_map, List.forall₂_map_right_iff, List.forall₂_same]
    exact fun line _ => isCore_trim line

example : normalize "\n   A user.\r\n\n\tHas an id. \u3000\n \r" = "A user.\n\nHas an id." := rfl

end Docs

end WireModel
