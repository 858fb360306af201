import WireModel.Proofs.NodePlaces
import WireModel.Proofs.Preservation

/-! The documentation check is exact. It fails where documentation is required and a declaration has
no text, or only blanks, and names these declarations. What it accepts comes back with the text of
every declaration and of every field, at any depth, in normal form, and is accepted again as it
is. -/
namespace WireModel

namespace Docs

def hasDoc (kind : NodeKind) : Bool :=
  (defaults.of kind).specs.contains docSlot

def lacksText {ρ : Type} (declaration : Declaration ρ) : Bool :=
  match declaration.info.properties.get? docSlot with
  | some (.present .string (.string text)) => Unicode.isBlankText text
  | _ => true

def normalizeText : Property → Property
  | .present spec (.string text) => .present spec (.string (normalize text))
  | other => other

/-- Equal but for the documentation, which is in normal form. -/
structure Normalizes (node result : Node) : Prop where
  kind : result.kind = node.kind
  path : result.path = node.path
  position : result.info.position = node.info.position
  slots : ∀ slot, (slot = docSlot → ¬hasDoc node.kind) →
    result.info.properties.get? slot = node.info.properties.get? slot
  doc : hasDoc node.kind →
    result.info.properties.get? docSlot = (node.info.properties.get? docSlot).map normalizeText

section Failure

theorem isRequired_iff {model : Model} :
    isRequired model ↔ model.properties.get? requiredSlot = some (.bool true) := by
  have own : (defaults.topView model).bool requiredSlot = .ok true ↔
      model.properties.get? requiredSlot = some (.bool true) := by
    rw [PropertyView.bool_eq_ok, PropertyView.lookup_eq_some]
    refine or_iff_left fun ⟨_, default⟩ => ?_
    cases default
  rw [← own, isRequired]
  split
  · next required read => simp [read]
  · next failed => simp [failed]

theorem isDocumented_eq {ρ : Type} (declaration : Declaration ρ) :
    isDocumented declaration = !lacksText declaration := by
  rw [Bool.eq_iff_iff, isDocumented_iff, lacksText]
  split
  · next text own => simp [own]
  · next other =>
    simp only [Bool.not_true, Bool.false_eq_true, iff_false, not_exists, not_and]
    exact fun text own => absurd own (other text)

theorem check_eq_error {model : Model} (valid : slotErrors defaults model = [])
    {errors : List Error} :
    check model = .error errors ↔
      isRequired model ∧ (∃ d ∈ model.declarations, lacksText d) ∧
        errors = (model.declarations.filter lacksText).map fun d =>
          .missingDoc d.name d.info.position := by
  have undocumented : (model.declarations.filter fun d => !isDocumented d) =
      model.declarations.filter lacksText := by
    simp only [isDocumented_eq, Bool.not_not]
  have some : (∃ d ∈ model.declarations, lacksText d) ↔
      model.declarations.filter lacksText ≠ [] := by
    simp
  simp only [check, valid, List.isEmpty_nil, Bool.not_true, Bool.false_eq_true, if_false,
    undocumented, some]
  cases isRequired model with
  | false => simp
  | true => cases model.declarations.filter lacksText <;> simp [eq_comm]

end Failure

section Success

variable {model : Model}

private theorem mapInfo_of_hasDoc (g : Info → Info) {node : Node} (has : hasDoc node.kind) :
    node.mapInfo g = { node with info := g node.info } := by
  obtain ⟨kind, path, info⟩ := node
  cases kind <;> first | rfl | cases has

private theorem mapInfo_of_not_hasDoc (g : Info → Info) {node : Node} (none : ¬hasDoc node.kind) :
    node.mapInfo g = node := by
  obtain ⟨kind, path, info⟩ := node
  cases kind <;> first | rfl | exact absurd rfl none

private theorem specs_of_hasDoc {kind : NodeKind} (has : hasDoc kind) :
    (defaults.of kind).specs.get? docSlot = some (.optional .string) := by
  cases kind <;> first | rfl | cases has

/-- Where the slot is right, a text is brought into normal form and all else is kept. -/
theorem get?_normalizeInfo {info : Info}
    (right : ∀ value, info.properties.get? docSlot = some value →
      value.Matches (.optional .string)) :
    (normalizeInfo info).properties.get? docSlot =
      (info.properties.get? docSlot).map normalizeText := by
  by_cases doc : ∃ own text, info.properties.get? docSlot = some (.present own (.string text))
  · obtain ⟨own, text, there⟩ := doc
    obtain ⟨rfl, _⟩ := Property.matches_present_string.1 (right _ there)
    rw [normalizeInfo_of_doc there, OrderedMap.get?_insert, if_pos rfl, there]
    rfl
  · rw [normalizeInfo_of_not_doc (by simpa using doc)]
    cases there : info.properties.get? docSlot with
    | none => rfl
    | some value =>
      have same : normalizeText value = value := by
        unfold normalizeText
        split
        · next own text => exact absurd ⟨own, text, there⟩ doc
        · rfl
      rw [Option.map_some, same]

private theorem normalizes_mapInfo (valid : slotErrors defaults model = []) {node : Node}
    (member : node ∈ model.nodes) : Normalizes node (node.mapInfo normalizeInfo) := by
  by_cases has : hasDoc node.kind
  · rw [mapInfo_of_hasDoc normalizeInfo has]
    refine ⟨rfl, rfl, confined_normalizeInfo.position node.info, fun slot other => ?_, fun _ => ?_⟩
    · exact confined_normalizeInfo.slots node.info slot fun isDoc => other isDoc has
    · refine get?_normalizeInfo fun value => ?_
      exact matches_doc valid (List.mem_map_of_mem member) (specs_of_hasDoc has)
  · rw [mapInfo_of_not_hasDoc normalizeInfo has]
    exact ⟨rfl, rfl, rfl, fun _ _ => rfl, fun here => absurd here has⟩

private theorem normalizes_at (valid : slotErrors defaults model = []) (place : Place) :
    Option.Rel Normalizes (model.nodeAt? place)
      ((model.mapDeclarations normalizeDeclaration).nodeAt? place) := by
  have mapped : (model.mapDeclarations normalizeDeclaration).nodeAt? place =
      (model.nodeAt? place).map (Node.mapInfo normalizeInfo) :=
    model.nodeAt?_mapInfo normalizeInfo place
  rw [mapped]
  cases there : model.nodeAt? place with
  | none => exact .none
  | some node =>
    exact .some (normalizes_mapInfo valid (model.enumerates_nodes.mem_of_lookup there))

private theorem text_ne_empty {ρ : Type} {declaration : Declaration ρ}
    (documented : isDocumented declaration) :
    ∃ text, declaration.info.properties.get? docSlot = some (.present .string (.string text)) ∧
      text ≠ "" := by
  obtain ⟨text, own, notBlank⟩ := isDocumented_iff.1 documented
  refine ⟨text, own, fun empty => notBlank ?_⟩
  rw [empty]
  rfl

theorem check_normalized (valid : slotErrors defaults model = [])
    (documented : isRequired model → ∀ d ∈ model.declarations, isDocumented d) :
    (isRequired model → ∀ d ∈ (model.mapDeclarations normalizeDeclaration).declarations,
      isDocumented d) ∧
    check (model.mapDeclarations normalizeDeclaration) =
      .ok (model.mapDeclarations normalizeDeclaration) := by
  have still : isRequired model →
      ∀ d ∈ (model.mapDeclarations normalizeDeclaration).declarations, isDocumented d := by
    intro required d member
    obtain ⟨d, there, rfl⟩ := List.mem_map.1 member
    exact isDocumented_normalize (documented required d there)
  have twice := (normalize_model_twice model).symm
  exact ⟨still, check_eq_ok.2 ⟨slotErrors_normalize valid, still, twice⟩⟩

end Success

/-- The check of a model with right slots fails exactly if documentation is required and a
declaration lacks a text, with one error for each of these declarations in the order of the model.
A model that it accepts comes back with the documentation of every declaration and every field in
normal form, no text is empty where one is required, and the check accepts the result again and
leaves it as it is. -/
theorem docs_check_exact {model : Model} (valid : slotErrors defaults model = []) :
    (∀ errors, check model = .error errors ↔
      model.properties.get? requiredSlot = some (.bool true) ∧
        (∃ d ∈ model.declarations, lacksText d) ∧
        errors = (model.declarations.filter lacksText).map fun d =>
          .missingDoc d.name d.info.position) ∧
    ∀ result, check model = .ok result →
      (∀ place, Option.Rel Normalizes (model.nodeAt? place) (result.nodeAt? place)) ∧
      (model.properties.get? requiredSlot = some (.bool true) → ∀ d ∈ result.declarations,
        ∃ text, d.info.properties.get? docSlot = some (.present .string (.string text)) ∧
          text ≠ "") ∧
      check result = .ok result := by
  rw [← isRequired_iff]
  refine ⟨fun errors => check_eq_error valid, fun result accepted => ?_⟩
  obtain ⟨_, documented, rfl⟩ := check_eq_ok.1 accepted
  obtain ⟨still, again⟩ := check_normalized valid documented
  exact ⟨normalizes_at valid, fun required d member => text_ne_empty (still required d member),
    again⟩

def noted (text : String) : Info :=
  { properties := .ofList [(docSlot, .wrap (.string text))] }

def notedModel : Model where
  properties := .ofList [(requiredSlot, .bool true)]
  declarations := [
    { name := "T"
      body := .alias (.dict {} (.product {} [⟨⟨"k", noted "\n the key\t"⟩, .unit {}⟩]) (.unit {}))
      info := noted " first \r\n\n second\n" }]

theorem docs_check_exact_noted :
    slotErrors defaults notedModel = [] ∧ ∃ result, check notedModel = .ok result ∧
      Option.Rel Normalizes (notedModel.nodeAt? [0, 0, 0, 0]) (result.nodeAt? [0, 0, 0, 0]) ∧
      (result.nodeAt? [0, 0, 0, 0]).map (·.info) = some (noted "the key") ∧
      result.declarations.map (·.info) = [noted "first\n\nsecond"] ∧
      check result = .ok result := by
  have valid : slotErrors defaults notedModel = [] := rfl
  obtain ⟨result, accepted⟩ : ∃ result, check notedModel = .ok result := ⟨_, rfl⟩
  obtain ⟨_, each⟩ := docs_check_exact valid
  obtain ⟨normal, _, again⟩ := each result accepted
  refine ⟨valid, result, accepted, normal _, ?_, ?_, again⟩
  · cases accepted
    decide +kernel
  · cases accepted
    decide +kernel

example :
    let blank : Info := { properties := .ofList [(docSlot, .wrap (.string " \n\t"))] }
    check
      { properties := .ofList [(requiredSlot, .bool true)]
        declarations := [
          { name := "T", body := .enum ["a"], info := blank },
          { name := "U", body := .enum ["a"] }] } =
      .error [.missingDoc "T" {}, .missingDoc "U" {}] := rfl

end Docs

end WireModel
