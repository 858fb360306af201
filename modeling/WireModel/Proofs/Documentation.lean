import WireModel.Proofs.Slots
import Mathlib.Data.List.DropRight

/-! Documentation in normal form. Normalizing takes away and adds blanks only, so that a text that
says something still does; and the lines of a normal text are the lines it was joined from, so
that normalizing again changes nothing, in a text or in a whole model. -/
namespace WireModel

section Ends

variable {α : Type} {p : α → Bool} {items : List α}

/-- The items from the first to the last one that is not dropped. -/
def stripEnds (p : α → Bool) (items : List α) : List α :=
  (items.dropWhile p).rdropWhile p

structure Stripped (p : α → Bool) (items : List α) : Prop where
  start : items.dropWhile p = items
  stop : items.rdropWhile p = items

private theorem stripEnds_eq_self (h : Stripped p items) : stripEnds p items = items := by
  rw [stripEnds, h.start, h.stop]

theorem stripEnds_of_all (all : ∀ item ∈ items, p item) : stripEnds p items = [] := by
  rw [stripEnds, List.dropWhile_eq_nil_iff.2 all]
  rfl

private theorem rdropWhile_eq_take (p : α → Bool) (items : List α) :
    items.rdropWhile p = items.take (items.length - items.reverse.findIdx (!p ·)) := by
  rw [List.rdropWhile, List.dropWhile_eq_drop_findIdx_not, List.drop_reverse, List.reverse_reverse]

/-- Where something is kept, it does not matter which end is dropped first. -/
theorem stripEnds_eq_drop (kept : ∃ item ∈ items, ¬p item) :
    stripEnds p items = (items.rdropWhile p).drop (items.findIdx (!p ·)) := by
  have remains : ¬((items.dropWhile p).reverse.dropWhile p).isEmpty := by
    obtain ⟨item, member, keep⟩ := kept
    have inBack : item ∈ items.dropWhile p := by
      rw [← List.takeWhile_append_dropWhile (p := p) (l := items), List.mem_append] at member
      exact member.resolve_left fun inFront => keep (List.mem_takeWhile_imp inFront)
    rw [List.isEmpty_iff, List.dropWhile_eq_nil_iff]
    exact fun all => keep (all item (List.mem_reverse.2 inBack))
  have split : items.rdropWhile p = items.takeWhile p ++ stripEnds p items := by
    conv_lhs => rw [← List.takeWhile_append_dropWhile (p := p) (l := items)]
    rw [List.rdropWhile, List.reverse_append, List.dropWhile_append, if_neg remains,
      List.reverse_append, List.reverse_reverse]
    rfl
  have length : (items.takeWhile p).length = items.findIdx (!p ·) := by
    rw [List.takeWhile_eq_take_findIdx_not, List.length_take,
      Nat.min_eq_left List.findIdx_le_length]
  rw [split, ← length, List.drop_left]

private theorem dropWhile_eq_self_of_isPrefix {front : List α} (h : items.dropWhile p = items)
    (within : front <+: items) : front.dropWhile p = front := by
  cases front with
  | nil => rfl
  | cons first rest =>
    obtain ⟨later, rfl⟩ := within
    rw [List.cons_append, List.dropWhile_cons] at h
    split at h
    · -- Dropping the first item would make the list shorter than it is.
      have shorter := List.IsSuffix.length_le (List.dropWhile_suffix p (l := rest ++ later))
      rw [h, List.length_cons] at shorter
      omega
    · next kept => rw [List.dropWhile_cons_of_neg kept]

theorem stripped_stripEnds (p : α → Bool) (items : List α) : Stripped p (stripEnds p items) where
  start := dropWhile_eq_self_of_isPrefix (List.dropWhile_idempotent p items)
    (List.rdropWhile_prefix p _)
  stop := List.rdropWhile_idempotent p _

private theorem Stripped.not_last {front : List α} {last : α} (h : Stripped p (front ++ [last])) :
    ¬p last := by
  have kept := List.rdropWhile_eq_self_iff.1 h.stop (by simp)
  rwa [List.getLast_append_singleton] at kept

private theorem mem_of_mem_stripEnds {item : α} (member : item ∈ stripEnds p items) :
    item ∈ items := by
  have inFront := List.IsPrefix.subset (List.rdropWhile_prefix p _) member
  exact List.IsSuffix.subset (List.dropWhile_suffix p) inFront

private theorem filter_not_eq_nil_of_all (h : ∀ item ∈ items, p item) :
    items.filter (!p ·) = [] := by
  rw [List.filter_eq_nil_iff]
  intro item member
  simp [h item member]

@[simp]
theorem filter_stripEnds (p : α → Bool) (items : List α) :
    (stripEnds p items).filter (!p ·) = items.filter (!p ·) := by
  have front : (items.takeWhile p).filter (!p ·) = [] :=
    filter_not_eq_nil_of_all fun _ => List.mem_takeWhile_imp
  have back : ((items.dropWhile p).rtakeWhile p).filter (!p ·) = [] :=
    filter_not_eq_nil_of_all fun _ => List.mem_rtakeWhile_imp
  calc (stripEnds p items).filter (!p ·)
      = (stripEnds p items ++ (items.dropWhile p).rtakeWhile p).filter (!p ·) := by
        rw [List.filter_append, back, List.append_nil]
    _ = (items.dropWhile p).filter (!p ·) := by rw [stripEnds, List.rdropWhile_append_rtakeWhile]
    _ = (items.takeWhile p ++ items.dropWhile p).filter (!p ·) := by
        rw [List.filter_append, front, List.nil_append]
    _ = items.filter (!p ·) := by rw [List.takeWhile_append_dropWhile]

private theorem flatMap_stripEnds {β : Type} {f : α → List β}
    (dropped : ∀ item, p item → f item = [])
    (items : List α) : (stripEnds p items).flatMap f = items.flatMap f := by
  have kept : ∀ items : List α, (items.filter (!p ·)).flatMap f = items.flatMap f := by
    intro items
    induction items with
    | nil => rfl
    | cons item rest ih =>
      by_cases drop : p item
      · rw [List.filter_cons_of_neg (by simpa using drop), ih, List.flatMap_cons,
          dropped item drop, List.nil_append]
      · rw [List.filter_cons_of_pos (by simpa using drop), List.flatMap_cons, ih,
          List.flatMap_cons]
  rw [← kept, filter_stripEnds, kept]

end Ends

@[simp]
theorem OrderedMap.insert_insert {α : Type} (map : OrderedMap α) (key : String)
    (first second : α) : (map.insert key first).insert key second = map.insert key second := by
  apply OrderedMap.ext_get?
  intro other
  rw [get?_insert, get?_insert, get?_insert]
  split <;> rfl

namespace Unicode

theorem trimChars_eq (text : List Char) : trimChars text = stripEnds isBlank text := rfl

private theorem linesAfter_append {first : List Char} (inLine : '\n' ∉ first)
    (line rest : List Char) :
    linesAfter line (first ++ rest) = linesAfter (first.reverse ++ line) rest := by
  induction first generalizing line with
  | nil => rfl
  | cons c first ih =>
    have notNewline : c ≠ '\n' := fun same => inLine (same ▸ List.mem_cons_self)
    have inRest : '\n' ∉ first := fun later => inLine (List.mem_cons_of_mem _ later)
    rw [List.cons_append, linesAfter, if_neg notNewline, ih inRest, List.reverse_cons,
      List.append_assoc]
    rfl

private theorem newline_not_mem_linesAfter {line text : List Char} (inLine : '\n' ∉ line) :
    ∀ result ∈ linesAfter line text, '\n' ∉ result := by
  induction text generalizing line with
  | nil =>
    unfold linesAfter
    split
    · simp
    · simpa using inLine
  | cons c rest ih =>
    unfold linesAfter
    split
    · refine List.forall_mem_cons.2 ⟨?_, ih List.not_mem_nil⟩
      intro newline
      rw [List.mem_reverse] at newline
      unfold dropReturn at newline
      split at newline
      · exact inLine (List.mem_cons_of_mem _ newline)
      · exact inLine newline
    · next notNewline => exact ih (by simp [inLine, Ne.symm notNewline])

/-- A line that joining and splitting keeps. -/
structure IsLine (line : List Char) : Prop where
  newline : '\n' ∉ line
  trimmed : Stripped isBlank line

private theorem isLine_trimChars {line : List Char} (inLine : '\n' ∉ line) :
    IsLine (trimChars line) where
  newline member := inLine (mem_of_mem_stripEnds member)
  trimmed := stripped_stripEnds isBlank line

private theorem dropReturn_reverse {line : List Char} (h : Stripped isBlank line) :
    dropReturn line.reverse = line.reverse := by
  unfold dropReturn
  split
  · next rest ends =>
    -- A carriage return is blank, and the last character of the line is not.
    have whole : line = rest.reverse ++ ['\r'] := by
      rw [← List.reverse_reverse line, ends, List.reverse_cons]
    rw [whole] at h
    exact absurd (by decide) h.not_last
  · rfl

theorem linesAfter_intercalate {lines : List (List Char)} (each : ∀ line ∈ lines, IsLine line)
    (last : ∀ line ∈ lines.getLast?, line ≠ []) :
    linesAfter [] (['\n'].intercalate lines) = lines := by
  induction lines with
  | nil => rfl
  | cons line rest ih =>
    obtain ⟨newline, trimmed⟩ := each line List.mem_cons_self
    have eachRest := fun other later => each other (List.mem_cons_of_mem line later)
    cases rest with
    | nil =>
      have notEmpty : line ≠ [] := last line rfl
      rw [List.intercalate_singleton, ← List.append_nil line, linesAfter_append newline]
      simp [linesAfter, notEmpty]
    | cons next rest =>
      have lastRest : ∀ line ∈ (next :: rest).getLast?, line ≠ [] := by
        rwa [List.getLast?_cons_cons] at last
      rw [List.intercalate_cons_cons, List.append_assoc, linesAfter_append newline,
        List.append_nil, List.singleton_append, linesAfter, if_pos rfl,
        dropReturn_reverse trimmed, List.reverse_reverse, ih eachRest lastRest]

def visible (text : List Char) : List Char :=
  text.filter (!isBlank ·)

@[simp]
theorem visible_append (first second : List Char) :
    visible (first ++ second) = visible first ++ visible second :=
  List.filter_append ..

@[simp]
theorem visible_flatten (texts : List (List Char)) :
    visible texts.flatten = (texts.map visible).flatten :=
  List.filter_flatten

@[simp]
theorem visible_trimChars (text : List Char) : visible (trimChars text) = visible text :=
  filter_stripEnds isBlank text

private theorem visible_reverse_dropReturn (line : List Char) :
    visible (dropReturn line).reverse = visible line.reverse := by
  unfold dropReturn
  split
  · rw [List.reverse_cons, visible_append]
    exact (List.append_nil _).symm
  · rfl

theorem visible_linesAfter (line text : List Char) :
    visible (linesAfter line text).flatten = visible (line.reverse ++ text) := by
  induction text generalizing line with
  | nil =>
    unfold linesAfter
    split
    · next empty => simp [List.isEmpty_iff.1 empty]
    · simp
  | cons c rest ih =>
    unfold linesAfter
    split
    · next newline =>
      rw [List.flatten_cons, visible_append, visible_reverse_dropReturn, ih, newline,
        visible_append line.reverse]
      rfl
    · rw [ih, List.reverse_cons, List.append_assoc, List.singleton_append]

private theorem visible_intercalate (lines : List (List Char)) :
    visible (['\n'].intercalate lines) = visible lines.flatten := by
  induction lines with
  | nil => rfl
  | cons line rest ih =>
    cases rest with
    | nil => simp
    | cons next rest =>
      have newline : visible ['\n'] = [] := rfl
      rw [List.intercalate_cons_cons, visible_append, visible_append, ih, newline,
        List.append_nil, List.flatten_cons (l := line), visible_append]

theorem isBlankText_iff {text : String} : isBlankText text ↔ visible text.toList = [] := by
  unfold isBlankText visible
  simp

end Unicode

variable {ρ : Type}

@[simp]
theorem TypeExpr.mapFields_mapFields (f g : FieldLabel → FieldLabel) (type : TypeExpr ρ) :
    (type.mapFields g).mapFields f = type.mapFields (f ∘ g) := by
  induction type using TypeExpr.induction with
  | unit | basic | named | emptyProduct => rfl
  | product info fields ih =>
    simp only [mapFields, mapFieldList_eq, List.map_map]
    congr 1
    apply List.map_congr_left
    intro field member
    simp only [Function.comp_apply, ih field member]
  | list info element ih | set info element ih | optional info element ih =>
    simp only [mapFields, ih]
  | dict info first second ihFirst ihSecond | function info first second ihFirst ihSecond =>
    simp only [mapFields, ihFirst, ihSecond]

@[simp]
theorem Body.mapFields_mapFields (f g : FieldLabel → FieldLabel) (body : Body ρ) :
    (body.mapFields g).mapFields f = body.mapFields (f ∘ g) := by
  cases body with
  | «alias» type => exact congrArg Body.alias (type.mapFields_mapFields f g)
  | sum constructors =>
    simp only [mapFields, TypeExpr.mapFieldList_eq, List.map_map, Function.comp_def,
      TypeExpr.mapFields_mapFields]
  | enum | restricted => rfl

namespace Docs

open Unicode

private theorem extract_eq_stripEnds (lines : List String) :
    lines.extract (textStart lines) (textStop lines) = stripEnds String.isEmpty lines := by
  rw [List.extract_eq_take_drop, textStop]
  split
  · next below found =>
    obtain ⟨inRange, rfl⟩ := List.findIdx?_eq_some_iff_findIdx_eq.1 found
    obtain ⟨line, member, keep⟩ := List.findIdx_lt_length.1 inRange
    have kept : ∃ line ∈ lines, ¬line.isEmpty :=
      ⟨line, List.mem_reverse.1 member, by simpa using keep⟩
    rw [stripEnds_eq_drop kept, rdropWhile_eq_take, List.drop_take, textStart]
  · next none =>
    have all : ∀ line ∈ lines, line.isEmpty := by simpa using none
    rw [stripEnds_of_all all, Nat.sub_self, List.take_zero]

theorem normalLines_eq (text : String) :
    normalLines text = stripEnds String.isEmpty ((lines text).map trim) :=
  extract_eq_stripEnds _

private theorem toList_normalize (text : String) :
    (normalize text).toList = ['\n'].intercalate ((normalLines text).map String.toList) :=
  String.toList_intercalate

theorem isLine_of_mem_normalLines {text line : String} (member : line ∈ normalLines text) :
    IsLine line.toList := by
  rw [normalLines_eq] at member
  have trimmed := mem_of_mem_stripEnds member
  obtain ⟨whole, split, rfl⟩ := List.mem_map.1 trimmed
  obtain ⟨chars, among, rfl⟩ := List.mem_map.1 split
  have inLine := newline_not_mem_linesAfter List.not_mem_nil chars among
  rw [trim, String.toList_ofList, String.toList_ofList]
  exact isLine_trimChars inLine

@[simp]
theorem lines_normalize (text : String) : lines (normalize text) = normalLines text := by
  have each : ∀ line ∈ (normalLines text).map String.toList, IsLine line := by
    intro line member
    obtain ⟨_, normal, rfl⟩ := List.mem_map.1 member
    exact isLine_of_mem_normalLines normal
  have last : ∀ line ∈ ((normalLines text).map String.toList).getLast?, line ≠ [] := by
    intro line final
    rw [List.getLast?_map] at final
    obtain ⟨own, there, rfl⟩ := Option.map_eq_some_iff.1 final
    obtain ⟨front, ends⟩ := List.getLast?_eq_some_iff.1 there
    have kept := stripped_stripEnds String.isEmpty ((lines text).map trim)
    rw [← normalLines_eq, ends] at kept
    simpa [String.isEmpty_iff] using kept.not_last
  unfold lines
  rw [toList_normalize, linesAfter_intercalate each last, List.map_map]
  simp [Function.comp_def]

private theorem trim_of_mem_normalLines {text line : String} (member : line ∈ normalLines text) :
    trim line = line := by
  have kept := stripEnds_eq_self (isLine_of_mem_normalLines member).trimmed
  rw [trim, trimChars_eq, kept, String.ofList_toList]

@[simp]
theorem normalize_normalize (text : String) : normalize (normalize text) = normalize text := by
  have trimmed : (normalLines text).map trim = normalLines text := by
    refine (List.map_congr_left fun line member => ?_).trans (List.map_id _)
    exact trim_of_mem_normalLines member
  have again : normalLines (normalize text) = normalLines text := by
    rw [normalLines_eq, lines_normalize, trimmed, normalLines_eq]
    exact stripEnds_eq_self (stripped_stripEnds String.isEmpty ((lines text).map trim))
  rw [normalize, again, ← normalize]

@[simp]
theorem visible_normalize (text : String) :
    visible (normalize text).toList = visible text.toList := by
  have empty : ∀ line : String, line.isEmpty → visible line.toList = [] := by
    intro line isEmpty
    rw [String.isEmpty_iff.1 isEmpty]
    rfl
  calc visible (normalize text).toList
      = (normalLines text).flatMap fun line => visible line.toList := by
        rw [toList_normalize, visible_intercalate, visible_flatten, List.map_map, List.flatMap]
        rfl
    _ = ((lines text).map trim).flatMap fun line => visible line.toList := by
        rw [normalLines_eq, flatMap_stripEnds empty]
    _ = (linesAfter [] text.toList).flatMap visible := by
        rw [lines, List.flatMap_map, List.flatMap_map]
        apply List.flatMap_congr
        intro line _
        simp [trim]
    _ = visible text.toList := by
        rw [List.flatMap, ← visible_flatten, visible_linesAfter]
        rfl

@[simp]
theorem isBlankText_normalize (text : String) :
    isBlankText (normalize text) = isBlankText text := by
  rw [Bool.eq_iff_iff, isBlankText_iff, isBlankText_iff, visible_normalize]

theorem normalizeInfo_of_doc {info : Info} {own : PropertySpec} {text : String}
    (there : info.properties.get? docSlot = some (.present own (.string text))) :
    normalizeInfo info = { info with
      properties := info.properties.insert docSlot (.wrap (.string (normalize text))) } := by
  simp only [normalizeInfo, there]

theorem normalizeInfo_of_not_doc {info : Info}
    (other : ∀ own text, info.properties.get? docSlot ≠ some (.present own (.string text))) :
    normalizeInfo info = info := by
  unfold normalizeInfo
  split
  · next own text there => exact absurd there (other own text)
  · rfl

@[simp]
theorem normalizeInfo_normalizeInfo (info : Info) :
    normalizeInfo (normalizeInfo info) = normalizeInfo info := by
  by_cases doc : ∃ own text, info.properties.get? docSlot = some (.present own (.string text))
  · obtain ⟨own, text, there⟩ := doc
    have again : (info.properties.insert docSlot (.wrap (.string (normalize text)))).get? docSlot =
        some (.present .string (.string (normalize text))) := by
      rw [OrderedMap.get?_insert, if_pos rfl]
      rfl
    rw [normalizeInfo_of_doc there, normalizeInfo_of_doc again, normalize_normalize,
      OrderedMap.insert_insert]
  · have other := normalizeInfo_of_not_doc (by simpa using doc)
    rw [other, other]

/-- The documentation of a node, if it has one that is right, is a text of its own. -/
theorem string?_doc_eq_some {kind : NodeKind} {info : Info} {text : String} :
    (defaults.view kind info.properties).string? docSlot = .ok (some text) ↔
      info.properties.get? docSlot = some (.present .string (.string text)) := by
  rw [PropertyView.string?_eq_ok, PropertyView.lookup_eq_some]
  refine or_iff_left fun ⟨_, default⟩ => ?_
  cases kind <;> cases default

theorem isDocumented_iff {declaration : Declaration ρ} :
    isDocumented declaration ↔
      ∃ text, declaration.info.properties.get? docSlot = some (.present .string (.string text)) ∧
        ¬isBlankText text := by
  unfold isDocumented
  split
  · next text read =>
    have own := string?_doc_eq_some.1 read
    simp [own]
  · next other =>
    simp only [Bool.false_eq_true, false_iff, not_exists, not_and]
    intro text own
    exact absurd (string?_doc_eq_some.2 own) (other text)

theorem isDocumented_normalize {declaration : Declaration ρ} (h : isDocumented declaration) :
    isDocumented (normalizeDeclaration declaration) := by
  obtain ⟨text, own, notBlank⟩ := isDocumented_iff.1 h
  refine isDocumented_iff.2 ⟨normalize text, ?_, ?_⟩
  · rw [normalizeDeclaration, normalizeInfo_of_doc own, OrderedMap.get?_insert, if_pos rfl]
    rfl
  · rwa [isBlankText_normalize]

def normalizeLabel (label : FieldLabel) : FieldLabel :=
  { label with info := normalizeInfo label.info }

@[simp]
theorem normalizeLabel_normalizeLabel (label : FieldLabel) :
    normalizeLabel (normalizeLabel label) = normalizeLabel label := by
  unfold normalizeLabel
  rw [normalizeInfo_normalizeInfo]

@[simp]
theorem normalizeDeclaration_normalizeDeclaration (declaration : Declaration ρ) :
    normalizeDeclaration (normalizeDeclaration declaration) = normalizeDeclaration declaration := by
  have labels : normalizeLabel ∘ normalizeLabel = normalizeLabel := by
    funext label
    exact normalizeLabel_normalizeLabel label
  have body : (declaration.body.mapFields normalizeLabel).mapFields normalizeLabel =
      declaration.body.mapFields normalizeLabel := by
    rw [Body.mapFields_mapFields, labels]
  have info := normalizeInfo_normalizeInfo declaration.info
  exact congrArg₂ (fun body info => { declaration with body, info }) body info

theorem normalize_model_twice (model : Model) :
    (model.mapDeclarations normalizeDeclaration).mapDeclarations normalizeDeclaration =
      model.mapDeclarations normalizeDeclaration := by
  unfold Model.mapDeclarations
  rw [List.map_map]
  congr 1
  apply List.map_congr_left
  intro declaration _
  exact normalizeDeclaration_normalizeDeclaration declaration

end Docs

end WireModel
