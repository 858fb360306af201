import WireModel.Proofs.DecoderParts
import WireModel.Proofs.Termination

/-! Imports of fragments. What a decoder needs is collected over all its parts. A part by itself
needs little, and its constructor and its fields show what; so a module is imported exactly if there
is a part that needs it. Generated decoders are tagged, enumerated or refined at their root only, so
there it is decided whether the modules of these are imported. -/
namespace WireModel

namespace Decoder

/-- The fields that a decoder reads by itself, and not through its parts. -/
def ownFields : Decoder → List (FieldDecoder Decoder)
  | .object fields => fields
  | .tagged _ cases => cases.flatMap (·.fields)
  | _ => []

private theorem holds_of_mem_ownFields {whole : Decoder} {field : FieldDecoder Decoder}
    (member : field ∈ whole.ownFields) : whole.Holds field.decoder := by
  cases whole with
  | object fields => exact .object member
  | tagged discriminant cases =>
    obtain ⟨case, among, member⟩ := List.mem_flatMap.1 member
    exact .tagged among member
  | _ => cases member

theorem Holds.height_lt {whole part : Decoder} (holds : whole.Holds part) :
    part.height < whole.height := by
  cases holds with
  | list | set | nullable | dict => exact Nat.lt_succ_self _
  | object member => exact Nat.lt_succ_of_le (height_le_fieldsHeight member)
  | tagged among member =>
    apply Nat.lt_succ_of_le
    exact Nat.le_trans (height_le_fieldsHeight member) (fieldsHeight_le_casesHeight among)

theorem holdsInduction {motive : Decoder → Prop}
    (step : ∀ whole, (∀ part, whole.Holds part → motive part) → motive whole)
    (decoder : Decoder) : motive decoder := by
  induction decoder using (measure height).wf.induction with
  | _ whole ih => exact step whole fun part holds => ih part holds.height_lt

/-- What a decoder needs for itself, and not for its parts. -/
inductive Demands (style : ReferenceStyle) : Decoder → Support → Prop
  | set {element} : Demands style (.set element) .set
  | dict {value} : Demands style (.dict .text value) .dict
  | keyedDict {key value} (keyed : key ≠ .text) : Demands style (.dict key value) .keyedDict
  | optionalField {part field} (member : field ∈ part.ownFields)
      (optional : field.presence = .optional) : Demands style part .optionalField
  | tagged {discriminant cases} : Demands style (.tagged discriminant cases) .tagged
  | enumeration {name labels} : Demands style (.enumeration name labels) .enumeration
  | refinement {name restriction} : Demands style (.refined name restriction) .refinement
  | call {target written} (codec : style = .codecAccessor) :
      Demands style (.call target written) .codec
  | key {key value} (codec : style = .codecAccessor) (keyed : key ≠ .text) :
      Demands style (.dict key value) .codec

section Needs

variable {style : ReferenceStyle} {support : Support} {decoder : Decoder}

@[simp]
theorem mem_referenceSupport :
    support ∈ referenceSupport style ↔ support = .codec ∧ style = .codecAccessor := by
  cases style <;> simp [referenceSupport]

@[simp]
theorem mem_presenceSupport {presence : Presence} :
    support ∈ presenceSupport presence ↔ support = .optionalField ∧ presence = .optional := by
  cases presence <;> simp [presenceSupport]

@[simp]
theorem mem_keySupport {key : KeyDecoder} :
    support ∈ keySupport style key ↔
      key = .text ∧ support = .dict ∨
      key ≠ .text ∧ (support = .codec ∧ style = .codecAccessor ∨ support = .keyedDict) := by
  cases key <;> simp [keySupport]

private theorem mem_fieldNeeds {fields : List (FieldDecoder Decoder)} :
    support ∈ fieldNeeds style fields ↔
      ∃ field ∈ fields, support = .optionalField ∧ field.presence = .optional ∨
        support ∈ field.decoder.needs style := by
  induction fields with
  | nil => simp [fieldNeeds]
  | cons field rest ih =>
    simp only [fieldNeeds, List.mem_append, mem_presenceSupport, ih, List.exists_mem_cons_iff]

private theorem mem_caseNeeds {cases : List (Case Decoder)} :
    support ∈ caseNeeds style cases ↔ support ∈ fieldNeeds style (cases.flatMap (·.fields)) := by
  induction cases with
  | nil => rfl
  | cons case rest ih =>
    simp only [caseNeeds, List.flatMap_cons, List.mem_append, ih, mem_fieldNeeds, or_and_right,
      exists_or]

private theorem needs_of_ownFields (needed : support ∈ fieldNeeds style decoder.ownFields) :
    support ∈ decoder.needs style := by
  cases decoder with
  | object fields => exact needed
  | tagged discriminant cases => exact List.mem_cons_of_mem _ (mem_caseNeeds.2 needed)
  | _ => cases needed

theorem Demands.mem_needs (own : decoder.Demands style support) :
    support ∈ decoder.needs style := by
  cases own with
  | set | dict | tagged | enumeration | refinement => exact List.mem_cons_self
  | keyedDict keyed =>
    exact List.mem_append_left _ (mem_keySupport.2 (.inr ⟨keyed, .inr rfl⟩))
  | optionalField member optional =>
    exact needs_of_ownFields (mem_fieldNeeds.2 ⟨_, member, .inl ⟨rfl, optional⟩⟩)
  | call codec => exact mem_referenceSupport.2 ⟨rfl, codec⟩
  | key codec keyed =>
    exact List.mem_append_left _ (mem_keySupport.2 (.inr ⟨keyed, .inl ⟨rfl, codec⟩⟩))

theorem Holds.needs_subset {whole part : Decoder} (holds : whole.Holds part) :
    part.needs style ⊆ whole.needs style := by
  intro support needed
  cases holds with
  | list | nullable => exact needed
  | set => exact List.mem_cons_of_mem _ needed
  | dict => exact List.mem_append_right _ needed
  | object member => exact mem_fieldNeeds.2 ⟨_, member, .inr needed⟩
  | tagged among member =>
    have inFields := List.mem_flatMap.2 ⟨_, among, member⟩
    exact needs_of_ownFields (mem_fieldNeeds.2 ⟨_, inFields, .inr needed⟩)

private theorem demands_of_ownFields (needed : support ∈ fieldNeeds style decoder.ownFields) :
    decoder.Demands style support ∨ ∃ part, decoder.Holds part ∧ support ∈ part.needs style := by
  obtain ⟨field, member, ⟨rfl, optional⟩ | inside⟩ := mem_fieldNeeds.1 needed
  · exact .inl (.optionalField member optional)
  · exact .inr ⟨field.decoder, holds_of_mem_ownFields member, inside⟩

theorem demands_of_mem_needs (needed : support ∈ decoder.needs style) :
    decoder.Demands style support ∨ ∃ part, decoder.Holds part ∧ support ∈ part.needs style := by
  cases decoder with
  | unit | primitive => cases needed
  | call target written =>
    obtain ⟨rfl, codec⟩ := mem_referenceSupport.1 needed
    exact .inl (.call codec)
  | list element => exact .inr ⟨element, .list, needed⟩
  | nullable element => exact .inr ⟨element, .nullable, needed⟩
  | set element =>
    obtain rfl | needed := List.mem_cons.1 needed
    · exact .inl .set
    · exact .inr ⟨element, .set, needed⟩
  | dict key value =>
    obtain needed | needed := List.mem_append.1 needed
    · obtain ⟨rfl, rfl⟩ | ⟨keyed, ⟨rfl, codec⟩ | rfl⟩ := mem_keySupport.1 needed
      · exact .inl .dict
      · exact .inl (.key codec keyed)
      · exact .inl (.keyedDict keyed)
    · exact .inr ⟨value, .dict, needed⟩
  | object fields => exact demands_of_ownFields needed
  | tagged discriminant cases =>
    obtain rfl | needed := List.mem_cons.1 needed
    · exact .inl .tagged
    · exact demands_of_ownFields (mem_caseNeeds.1 needed)
  | enumeration =>
    obtain rfl := List.mem_singleton.1 needed
    exact .inl .enumeration
  | refined =>
    obtain rfl := List.mem_singleton.1 needed
    exact .inl .refinement

/-- What a decoder needs is what its parts need for themselves, at any depth. -/
theorem mem_needs :
    support ∈ decoder.needs style ↔
      ∃ part, decoder.Contains part ∧ part.Demands style support := by
  constructor
  · intro needed
    induction decoder using holdsInduction with
    | step whole ih =>
      obtain own | ⟨part, holds, inPart⟩ := demands_of_mem_needs needed
      · exact ⟨whole, .refl, own⟩
      · obtain ⟨inner, contains, own⟩ := ih part holds inPart
        exact ⟨inner, .head holds contains, own⟩
  · rintro ⟨part, contains, own⟩
    induction contains using Relation.ReflTransGen.head_induction_on with
    | refl => exact own.mem_needs
    | head holds _ ih => exact holds.needs_subset ih

theorem mem_imports :
    support ∈ decoder.imports style ↔ support = .decode ∨ support ∈ decoder.needs style := by
  have listed : support ∈ Support.all := by
    cases support <;> decide
  simp [imports, listed]

end Needs

/-- What in the body of a fragment calls for a module, if references have the given style. -/
def CallsFor (style : ReferenceStyle) (body : Decoder) : Support → Prop
  | .decode => True
  | .set => ∃ element, body.Contains (.set element)
  | .dict => ∃ value, body.Contains (.dict .text value)
  | .keyedDict => ∃ key value, key ≠ .text ∧ body.Contains (.dict key value)
  | .optionalField =>
    ∃ part field, body.Contains part ∧ field ∈ part.ownFields ∧ field.presence = .optional
  | .tagged => ∃ discriminant cases, body = .tagged discriminant cases
  | .enumeration => ∃ name labels, body = .enumeration name labels
  | .refinement => ∃ name restriction, body = .refined name restriction
  | .codec =>
    style = .codecAccessor ∧
      ((∃ target written, body.Contains (.call target written)) ∨
        ∃ key value, key ≠ .text ∧ body.Contains (.dict key value))

theorem mem_imports_iff {site : Site} {body : Body Classification} {whole : Decoder}
    (built : site.forBody body = .ok whole) {style : ReferenceStyle} {support : Support} :
    support ∈ whole.imports style ↔ whole.CallsFor style support := by
  -- Tagged, enumerated and refined decoders are not inside others.
  have root {part : Decoder} (contains : whole.Contains part) (kind : part.kind ≠ .alias) :
      whole = part := (Site.eq_of_kind built contains kind).symm
  rw [mem_imports, mem_needs]
  constructor
  · rintro (rfl | ⟨part, contains, demanded⟩)
    · trivial
    · cases demanded with
      | set | dict => exact ⟨_, contains⟩
      | keyedDict keyed => exact ⟨_, _, keyed, contains⟩
      | optionalField member optional => exact ⟨part, _, contains, member, optional⟩
      | tagged | enumeration | refinement => exact ⟨_, _, root contains (by simp [kind])⟩
      | call codec => exact ⟨codec, .inl ⟨_, _, contains⟩⟩
      | key codec keyed => exact ⟨codec, .inr ⟨_, _, keyed, contains⟩⟩
  · intro called
    cases support with
    | decode => exact .inl rfl
    | set =>
      obtain ⟨_, contains⟩ := called
      exact .inr ⟨_, contains, .set⟩
    | dict =>
      obtain ⟨_, contains⟩ := called
      exact .inr ⟨_, contains, .dict⟩
    | keyedDict =>
      obtain ⟨_, _, keyed, contains⟩ := called
      exact .inr ⟨_, contains, .keyedDict keyed⟩
    | optionalField =>
      obtain ⟨part, _, contains, member, optional⟩ := called
      exact .inr ⟨part, contains, .optionalField member optional⟩
    | tagged =>
      obtain ⟨_, _, rfl⟩ := called
      exact .inr ⟨_, .refl, .tagged⟩
    | enumeration =>
      obtain ⟨_, _, rfl⟩ := called
      exact .inr ⟨_, .refl, .enumeration⟩
    | refinement =>
      obtain ⟨_, _, rfl⟩ := called
      exact .inr ⟨_, .refl, .refinement⟩
    | codec =>
      obtain ⟨codec, ⟨_, _, contains⟩ | ⟨_, _, keyed, contains⟩⟩ := called
      · exact .inr ⟨_, contains, .call codec⟩
      · exact .inr ⟨_, contains, .key codec keyed⟩

end Decoder

/-- A fragment imports each module that its body calls for, once and in the order of all modules,
and no other: the module of decoders always, those of sets, of maps by their keys and of optional
fields if such a part is anywhere in the body, those of tagged, enumerated and refined decoders if
the body is one, and that of codecs if references go through codecs and a call or a key makes one. -/
theorem imports_exact {defaults : Defaults} {options : Options}
    {declaration : Declaration Classification} {fragment : Fragment}
    (generated : decoderFragment defaults options declaration = .ok fragment) :
    fragment.linkage.imports.Sublist Support.all ∧
      ∀ support, support ∈ fragment.linkage.imports ↔
        fragment.function.body.CallsFor options.references support := by
  rw [decoderFragment_eq] at generated
  obtain ⟨body, built, rest⟩ := bind_eq_ok.1 generated
  obtain ⟨doc, _, rfl⟩ := return_eq_ok.1 rest
  exact ⟨List.filter_sublist, fun support => Decoder.mem_imports_iff built⟩

def routesAlias : Declaration Classification where
  name := "Routes"
  body := .alias (.product {} [
    { name := "byPort"
      type := .optional {} (.dict {} (.named {} "Port" (.refinement .int))
        (.set {} (.basic {} .string))) }])

theorem imports_exact_routes :
    let options : Options := { references := .codecAccessor, tagField := "tag", module := [] }
    ∃ fragment, decoderFragment Coding.defaults options routesAlias = .ok fragment ∧
      fragment.linkage.imports = [.decode, .set, .keyedDict, .optionalField, .codec] ∧
      ∀ support, support ∈ fragment.linkage.imports ↔
        fragment.function.body.CallsFor .codecAccessor support := by
  intro options
  obtain ⟨fragment, generated, imports⟩ : ∃ fragment,
      decoderFragment Coding.defaults options routesAlias = .ok fragment ∧
        fragment.linkage.imports = [.decode, .set, .keyedDict, .optionalField, .codec] :=
    ⟨_, rfl, rfl⟩
  exact ⟨fragment, generated, imports, (imports_exact generated).2⟩

end WireModel
