import WireModel.Pattern.Compiled
import WireModel.Proofs.Linking
import WireModel.Proofs.Locations

/-! Errors point at their cause. The path of an error leads to a part of the input that decoding
came to in this way, and that part is what the error says it is. -/
namespace WireModel

def DecodeError.path? : DecodeError → Option Path
  | .unknownDecoder _ => none
  | .expected path _ _ | .missingField path _ | .unknownTag path _ | .unknownLabel path _ _
  | .refinement path _ _ _ | .invalidKey path _ _ | .nonProductiveCycle path _ => some path

/-- Inputs that a decoder would have gone on with. -/
def Expectation.MetBy (input : Json) : Expectation → Prop
  | .bool => ∃ value, input = .bool value
  | .integer => ∃ value, input = .number (.integer value)
  | .number => ∃ value, input = .number value
  | .string | .tag => ∃ value, input = .string value
  | .array => ∃ items, input = .array items
  | .object => ∃ members, input = .object members

/-- What a part of an input must be for an error at its place to be right. -/
def DecodeError.JustifiedBy [Pattern.Engine] (table : DecoderTable) (part : Json) :
    DecodeError → Prop
  | .unknownDecoder _ => False
  | .expected _ wanted found => part.kind = found ∧ ¬wanted.MetBy part
  | .missingField _ key => ∃ members, part = .object members ∧ key ∉ members.map Prod.fst
  | .unknownTag _ tag => ∃ members key, part = .object members ∧ (key, .string tag) ∈ members
  | .unknownLabel _ name label =>
    part = .string label ∧ ∃ labels, table.Holds (.enumeration name labels) ∧ label ∉ labels
  | .refinement _ name text _ =>
    (∃ r value, table.Holds (.refined name (.int r)) ∧ part = .number (.integer value) ∧
      text = Text.integerText value ∧ ¬r.Admits value) ∨
    ∃ r value, table.Holds (.refined name (.string r)) ∧ part = .string value ∧
      text = Text.quoted value ∧ ¬r.Admits value
  | .invalidKey _ key _ => ∃ members, part = .object members ∧ key ∈ members.map Prod.fst
  | .nonProductiveCycle _ _ => True

namespace Decoding

/-- What decoding looks at where an activation stands: its input, and the tag of a tagged one. -/
inductive Activation.Sees : Activation → Path → Json → Prop
  | input {activation} : Sees activation activation.path activation.input
  | tag {entered path discriminant cases members part}
      (found : findEntry discriminant members = some part) :
      Sees ⟨entered, path, .tagged discriminant cases, .object members⟩
        (path.push (.field discriminant)) part

variable {table : DecoderTable} {activation : Activation} {path : Path} {error : DecodeError}

theorem Activation.Sees.leads {whole part : Json} (sees : activation.Sees path part)
    (leads : activation.path.Leads whole activation.input) : path.Leads whole part := by
  cases sees with
  | input => exact leads
  | tag found => exact leads.member (mem_of_findEntry found) rfl

theorem Calls.leads {guarded : Bool} {whole : Json} {caller callee : Activation}
    (called : Calls guarded table caller callee) (leads : caller.path.Leads whole caller.input) :
    callee.path.Leads whole callee.input := by
  cases called with
  | enter | present => exact leads
  | listItem there | setItem there => exact leads.item there
  | entry member => exact leads.member member rfl
  | objectField _ found | caseField _ _ _ found => exact leads.member (mem_of_findEntry found) rfl

section Justified

variable [Pattern.Engine]

private theorem expected_justified {wanted : Expectation} {part : Json}
    (unmet : ¬wanted.MetBy part) : (expected path wanted part).JustifiedBy table part :=
  ⟨rfl, unmet⟩

private theorem scalar_justified {basic : Basic} {input : Json}
    (h : scalar path basic input = .error error) : error.JustifiedBy table input := by
  unfold scalar at h
  split at h
  case h_5 other | h_6 other | h_7 other | h_8 other =>
    cases h
    exact expected_justified fun ⟨value, same⟩ => other value same
  all_goals cases h

private theorem enumeration_justified {name : String} {labels : List String} {input : Json}
    (inTable : table.Holds (.enumeration name labels))
    (h : enumeration path name labels input = .error error) : error.JustifiedBy table input := by
  unfold enumeration at h
  split at h
  · next label =>
    split at h
    · cases h
    · next unknown =>
      cases h
      exact ⟨rfl, labels, inTable, by simpa using unknown⟩
  · next other =>
    cases h
    exact expected_justified fun ⟨value, same⟩ => other value same

private theorem refined_justified {name : String} {restriction : Restriction} {input : Json}
    (inTable : table.Holds (.refined name restriction))
    (h : refined path name restriction input = .error error) : error.JustifiedBy table input := by
  unfold refined at h
  split at h
  · next r value =>
    split at h
    · cases h
    · next broken =>
      cases h
      refine .inl ⟨r, value, inTable, rfl, rfl, fun admitted => ?_⟩
      cases (IntRestriction.violation?_eq_none.2 admitted).symm.trans broken
  · next r value =>
    split at h
    · cases h
    · next broken =>
      cases h
      refine .inr ⟨r, value, inTable, rfl, rfl, fun admitted => ?_⟩
      cases (StringRestriction.violation?_eq_none.2 admitted).symm.trans broken
  · next other =>
    cases h
    exact expected_justified fun ⟨value, same⟩ => other value same
  · next other =>
    cases h
    exact expected_justified fun ⟨value, same⟩ => other value same

/-- What a level rejects is at a place that it looks at, and is as the error says. -/
theorem Rejects.justified {guarded : Bool} (h : Rejects guarded table activation error)
    (inTable : (∃ target style, activation.decoder = .call target style) ∨
      table.Holds activation.decoder)
    (carries : error.path? = some path) :
    ∃ part, activation.Sees path part ∧ error.JustifiedBy table part := by
  cases h with
  | undeclared => cases carries
  | cycle =>
    cases carries
    exact ⟨_, .input, trivial⟩
  | scalar wrong =>
    have justified : error.JustifiedBy table _ := scalar_justified wrong
    obtain ⟨_, rfl⟩ := scalar_error wrong
    cases carries
    exact ⟨_, .input, justified⟩
  | label wrong =>
    obtain ⟨_, _, other⟩ | inTable := inTable
    · cases other
    have justified := enumeration_justified inTable wrong
    obtain rfl | ⟨_, _, _, rfl⟩ := enumeration_error wrong
    · cases carries
      exact ⟨_, .input, justified⟩
    · cases carries
      exact ⟨_, .input, justified⟩
  | refinement wrong =>
    obtain ⟨_, _, other⟩ | inTable := inTable
    · cases other
    have justified := refined_justified inTable wrong
    obtain ⟨_, rfl⟩ | ⟨_, _, rfl⟩ := refined_error wrong
    · cases carries
      exact ⟨_, .input, justified⟩
    · cases carries
      exact ⟨_, .input, justified⟩
  | listInput wrong | setInput wrong | dictInput wrong | objectInput wrong | taggedInput wrong =>
    cases carries
    exact ⟨_, .input, expected_justified fun ⟨inside, same⟩ => wrong inside same⟩
  | dictKey member wrong =>
    obtain ⟨_, _, rfl⟩ | ⟨_, rfl⟩ := key_error wrong
    · cases carries
    · cases carries
      exact ⟨_, .input, _, rfl, List.mem_map_of_mem member⟩
  | objectField _ _ absent | noTag absent | caseField _ _ _ _ absent =>
    cases carries
    exact ⟨_, .input, _, rfl, not_mem_of_findEntry absent⟩
  | wrongTag there wrong =>
    cases carries
    exact ⟨_, .tag there, expected_justified fun ⟨tag, same⟩ => wrong tag same⟩
  | otherTag there =>
    cases carries
    exact ⟨_, .input, _, _, rfl, mem_of_findEntry there⟩

/-- Errors point at their cause. If decoding fails with an error that has a path, the path leads
from the root of the input to a part of it, by the steps that decoding took to that part: a field or
the tag of an object, a value of a map, an item of an array. And that part is what the error says. -/
theorem errors_point_at_cause {name : String} {input : Json}
    (failed : decode table name input = .error error) (carries : error.path? = some path) :
    path.text = String.join ("$" :: path.steps.map Step.text) ∧
    ∃ part, path.Leads input part ∧
      (∃ reached, Relation.ReflTransGen (Calls true table) (.ofName name input) reached ∧
        reached.Sees path part) ∧
      error.JustifiedBy table part := by
  -- Paths lead to what decoding stands at, and all but the first decoder is held by the table.
  let Inv : Activation → Prop := fun activation =>
    activation.path.Leads input activation.input ∧
      Relation.ReflTransGen (Calls true table) (.ofName name input) activation ∧
      ((∃ target style, activation.decoder = .call target style) ∨ table.Holds activation.decoder)
  have start : Inv (.ofName name input) := ⟨Path.leads_root input, .refl, .inl ⟨_, _, rfl⟩⟩
  have keeps : ∀ caller callee, Calls true table caller callee → Inv caller → Inv callee := by
    rintro caller callee called ⟨leads, reached, inTable⟩
    refine ⟨called.leads leads, reached.tail called, .inr ?_⟩
    rcases called.holds_or_enters with holds | ⟨name, found⟩
    · obtain ⟨_, _, same⟩ | ⟨name, body, found, contains⟩ := inTable
      · rw [same] at holds
        cases holds
      · exact ⟨name, body, found, contains.tail holds⟩
    · exact ⟨name, _, found, .refl⟩
  obtain ⟨reached, ⟨leads, chain, inTable⟩, rejects⟩ := exists_rejects_of_decode start keeps failed
  obtain ⟨part, sees, justified⟩ := rejects.justified inTable carries
  exact ⟨path.text_eq_join, part, sees.leads leads, ⟨reached, chain, sees⟩, justified⟩

end Justified

section Program

attribute [local instance] Pattern.regexEngine

theorem errors_point_at_cause_shapes :
    ∃ (table : DecoderTable) (input : Json) (path : Path),
      decode table "Shapes" input = .error (.expected path .tag .number) ∧
      path.text = "$[\"a b\"][1].kind" ∧
      ∃ part, path.Leads input part ∧
        (∃ reached, Relation.ReflTransGen (Calls true table) (.ofName "Shapes" input) reached ∧
          reached.Sees path part) ∧
        part.kind = .number ∧ ¬Expectation.tag.MetBy part := by
  let table : DecoderTable := (∅ : DecoderTable).insert "Shapes"
    (.dict .text (.list (.nullable (.tagged "kind" []))))
  let input : Json := .object [("a b", .array [.null, .object [("kind", .number (.integer 1))]])]
  let path : Path := ⟨[.entry "a b", .index 1, .field "kind"]⟩
  have failed : decode table "Shapes" input = .error (.expected path .tag .number) := by
    have deep := decodeWithin_eq_decode table "Shapes" input (Nat.le_refl _)
    exact settled_injective (deep.symm.trans rfl)
  obtain ⟨_, part, leads, read, justified⟩ := errors_point_at_cause failed rfl
  refine ⟨table, input, path, failed, ?_, part, leads, read, justified⟩
  decide

end Program

end Decoding

end WireModel
