import WireModel.Pattern.Compiled
import WireModel.Proofs.Answers
import WireModel.Proofs.DecoderParts

/-! Linking of generated decoders. Every reference in a fragment names a declaration, and a key that
is read by the rules of its target finds a target with such rules. So no run ends at a reference
that leads to the wrong kind of decoder, and only what has no fragment is ever unknown. -/
namespace WireModel

def KeyDecoder.target? : KeyDecoder → Option String
  | .text => none
  | .enumeration target | .refined target _ => some target

/-- What a key relies on in the decoder of its target. -/
def KeyDecoder.Expects : KeyDecoder → Decoder → Prop
  | .text, _ => True
  | .enumeration _, body => ∃ name labels, body = .enumeration name labels
  | .refined _ basic, body =>
    ∃ name restriction, body = .refined name restriction ∧ restriction.basic = basic

def KeyDecoder.FitsIn (table : DecoderTable) (key : KeyDecoder) : Prop :=
  ∀ target decoder, key.target? = some target → table.get? target = some decoder →
    key.Expects decoder

def Decoder.target? : Decoder → Option String
  | .call target _ => some target
  | .dict key _ => key.target?
  | _ => none

/-- Says that a reference leads to the wrong kind of decoder. -/
def DecodeError.Mislinked : DecodeError → Prop
  | .invalidKey _ _ (.notEnumeration _) | .invalidKey _ _ (.notRefinement _)
  | .invalidKey _ _ (.violates .wrongScalar) | .refinement _ _ _ .wrongScalar => True
  | _ => False

private theorem mislinked_refinement {path : Path} {name value : String} {violation : Violation} :
    (DecodeError.refinement path name value violation).Mislinked ↔ violation = .wrongScalar := by
  cases violation <;> simp [DecodeError.Mislinked]

private theorem mislinked_violates {path : Path} {key : String} {violation : Violation} :
    (DecodeError.invalidKey path key (.violates violation)).Mislinked ↔
      violation = .wrongScalar := by
  cases violation <;> simp [DecodeError.Mislinked]

/-- How a fragment fits into its model and among the fragments that it is generated with. -/
structure Fragment.Linked (model : Model) (fragments : List Fragment) (fragment : Fragment) :
    Prop where
  root : ∃ declaration, model.find? fragment.declaration = some declaration ∧
    fragment.function.body.kind = declaration.body.kind
  inside : ∀ part, fragment.function.body.HoldsInside part → part.kind = .alias
  declared : ∀ part target, fragment.function.body.Contains part → part.target? = some target →
    ∃ declaration, model.find? target = some declaration
  keys : ∀ key value, fragment.function.body.Contains (.dict key value) →
    ∀ other ∈ fragments, key.target? = some other.declaration → key.Expects other.function.body

theorem IntRestriction.violation?_ne_wrongScalar (r : IntRestriction) (value : Int64) :
    r.violation? value ≠ some .wrongScalar := by
  unfold violation?
  split
  · simp
  · simp
  · split <;> simp
  · simp

theorem StringRestriction.violation?_ne_wrongScalar [Pattern.Engine] (r : StringRestriction)
    (value : String) : r.violation? value ≠ some .wrongScalar := by
  simp only [violation?]
  split
  · simp
  · simp
  · split
    · split <;> simp
    · simp
  · simp

namespace Decoding

variable {table : DecoderTable}

private theorem refined_not_mislinked [Pattern.Engine] {path : Path} {name : String}
    {restriction : Restriction} {input : Json} {error : DecodeError}
    (h : refined path name restriction input = .error error) : ¬error.Mislinked := by
  unfold refined at h
  split at h
  · next r value =>
    split at h <;> cases h
    next violation broken =>
    rw [mislinked_refinement]
    rintro rfl
    exact r.violation?_ne_wrongScalar value broken
  · next r value =>
    split at h <;> cases h
    next violation broken =>
    rw [mislinked_refinement]
    rintro rfl
    exact r.violation?_ne_wrongScalar value broken
  · cases h
    exact id
  · cases h
    exact id

theorem keyScalar_error {basic : Basic} {raw : String} {fault : KeyFault}
    (h : keyScalar basic raw = .error fault) :
    fault = .notCanonical ∨ ∃ cause, fault = .notInteger cause := by
  unfold keyScalar at h
  split at h
  · split at h
    · next cause _ =>
      cases h
      exact .inr ⟨cause, rfl⟩
    · split at h <;> cases h
      exact .inl rfl
  · cases h

theorem keyViolation?_ne_wrongScalar [Pattern.Engine] {restriction : Restriction} {raw : String}
    {value : Value} (read : keyScalar restriction.basic raw = .ok value) :
    keyViolation? restriction value ≠ some .wrongScalar := by
  cases restriction with
  | int r =>
    obtain ⟨_, n, _, rfl⟩ | ⟨other, _⟩ := keyScalar_eq_ok.1 read
    · exact r.violation?_ne_wrongScalar n
    · exact absurd rfl other
  | string r =>
    obtain ⟨other, _⟩ | ⟨_, rfl⟩ := keyScalar_eq_ok.1 read
    · cases other
    · exact r.violation?_ne_wrongScalar raw

theorem key_error_of_fits [Pattern.Engine] {path : Path} {raw : String} {keyDecoder : KeyDecoder}
    {error : DecodeError} (fits : keyDecoder.FitsIn table)
    (h : key table path raw keyDecoder = .error error) :
    (∃ missing, error = .unknownDecoder missing ∧ keyDecoder.target? = some missing ∧
      table.get? missing = none) ∨
    ∃ fault, error = .invalidKey path raw fault ∧ ¬error.Mislinked := by
  cases keyDecoder with
  | text => cases h
  | enumeration target =>
    simp only [key] at h
    split at h
    · next absent =>
      cases h
      exact .inl ⟨target, rfl, rfl, absent⟩
    · split at h <;> cases h
      exact .inr ⟨_, rfl, id⟩
    · next decoder other found =>
      obtain ⟨name, labels, rfl⟩ := fits target decoder rfl found
      exact (other name labels rfl).elim
  | refined target basic =>
    simp only [key] at h
    split at h
    · next fault unread =>
      cases h
      refine .inr ⟨fault, rfl, ?_⟩
      obtain rfl | ⟨cause, rfl⟩ := keyScalar_error unread <;> exact id
    next value read =>
    split at h
    · next absent =>
      cases h
      exact .inl ⟨target, rfl, rfl, absent⟩
    · next name restriction found =>
      obtain ⟨_, _, same, rfl⟩ := fits target _ rfl found
      cases same
      split at h <;> cases h
      next violation broken =>
      refine .inr ⟨_, rfl, ?_⟩
      rw [mislinked_violates]
      rintro rfl
      exact keyViolation?_ne_wrongScalar read broken
    · next decoder other found =>
      obtain ⟨name, restriction, rfl, _⟩ := fits target decoder rfl found
      exact (other name restriction rfl).elim

theorem Calls.holds_or_enters {guarded : Bool} {caller callee : Activation}
    (called : Calls guarded table caller callee) :
    caller.decoder.Holds callee.decoder ∨ ∃ name, table.get? name = some callee.decoder := by
  cases called with
  | enter _ found => exact .inr ⟨_, found⟩
  | present => exact .inl .nullable
  | listItem => exact .inl .list
  | setItem => exact .inl .set
  | entry => exact .inl .dict
  | objectField member => exact .inl (.object member)
  | caseField among _ member => exact .inl (.tagged among member)

variable [Pattern.Engine]

/-- What holds of all parts of the decoders of a table holds of the decoder that rejects. -/
theorem exists_part_rejects {Q : Decoder → Prop} {name : String} {input : Json}
    {error : DecodeError} (start : Q (.call name .standalone))
    (parts : ∀ name decoder, table.get? name = some decoder →
      ∀ part, decoder.Contains part → Q part)
    (h : decode table name input = .error error) :
    ∃ activation, Q activation.decoder ∧ Rejects true table activation error := by
  let Inv : Activation → Prop := fun activation => ∀ part, activation.decoder.Contains part → Q part
  have begins : Inv (.ofName name input) := by
    intro part contains
    rcases Relation.ReflTransGen.cases_head contains with rfl | ⟨_, holds, _⟩
    · exact start
    · cases holds
  -- The parts of what is called are parts of the caller, or of a decoder of the table.
  have keeps : ∀ caller callee, Calls true table caller callee → Inv caller → Inv callee := by
    intro caller callee called inv part contains
    rcases called.holds_or_enters with holds | ⟨name, found⟩
    · exact inv part (.head holds contains)
    · exact parts name _ found part contains
  obtain ⟨reached, inv, rejects⟩ := exists_rejects_of_decode begins keeps h
  exact ⟨reached, inv _ .refl, rejects⟩

/-- Where keys fit, a level does not reject for the wrong kind of a target, and what it does not
know it refers to itself. -/
theorem Rejects.of_fits {guarded : Bool} {activation : Activation} {error : DecodeError}
    (fits : ∀ key value, activation.decoder = .dict key value → key.FitsIn table)
    (h : Rejects guarded table activation error) :
    ¬error.Mislinked ∧ ∀ missing, error = .unknownDecoder missing →
      activation.decoder.target? = some missing ∧ table.get? missing = none := by
  cases h with
  | undeclared absent =>
    refine ⟨id, fun missing same => ?_⟩
    cases same
    exact ⟨rfl, absent⟩
  | scalar wrong =>
    obtain ⟨_, rfl⟩ := scalar_error wrong
    exact ⟨id, nofun⟩
  | label wrong => obtain rfl | ⟨_, _, _, rfl⟩ := enumeration_error wrong <;> exact ⟨id, nofun⟩
  | refinement wrong =>
    refine ⟨refined_not_mislinked wrong, ?_⟩
    obtain ⟨_, rfl⟩ | ⟨_, _, rfl⟩ := refined_error wrong <;> nofun
  | dictKey _ wrong =>
    obtain ⟨missing, rfl, refers, absent⟩ | ⟨fault, rfl, right⟩ :=
      key_error_of_fits (fits _ _ rfl) wrong
    · refine ⟨id, fun other same => ?_⟩
      cases same
      exact ⟨refers, absent⟩
    · exact ⟨right, nofun⟩
  | _ => exact ⟨id, nofun⟩

end Decoding

/-- What a key follows is declared, and its decoder is of the kind that the key relies on. -/
theorem KeyBuilds.target {model : Model} {type : TypeExpr Classification} {key : KeyDecoder}
    (builds : KeyBuilds model type key) {target : String} (refers : key.target? = some target) :
    ∃ declaration, model.find? target = some declaration ∧
      ∀ (site : Site) decoder, site.forBody declaration.body = .ok decoder →
        key.Expects decoder := by
  cases builds with
  | @label _ _ _ declaration labels found body =>
    cases refers
    refine ⟨declaration, found, fun site decoder built => ?_⟩
    rw [body] at built
    cases built
    exact ⟨_, _, rfl⟩
  | @refined _ _ _ declaration restriction found body =>
    cases refers
    refine ⟨declaration, found, fun site decoder built => ?_⟩
    rw [body] at built
    cases built
    exact ⟨_, _, rfl, rfl⟩
  | free => cases refers

namespace Site

variable {site : Site} {model : Model} {path : String} {type : TypeExpr Classification}

private theorem keyBuilds_of_forType {key : KeyDecoder} {value : Decoder}
    (classified : ∀ r ∈ type.references, model.Classifies r)
    (built : site.forType path type = .ok (.dict key value)) :
    ∃ keyType, KeyBuilds model keyType key := by
  cases type with
  | dict info keyType valueType =>
    obtain ⟨_, _, same⟩ := return_eq_ok.1 built
    cases same
    exact ⟨keyType, keyBuilds_ofType fun r inKey => classified r (List.mem_append_left _ inKey)⟩
  | unit | basic | named | emptyProduct | function => cases built
  | _ =>
    obtain ⟨_, _, same⟩ := return_eq_ok.1 built
    cases same

private theorem declared_of_forType {decoder : Decoder} {target : String}
    (classified : ∀ r ∈ type.references, model.Classifies r)
    (built : site.forType path type = .ok decoder) (refers : decoder.target? = some target) :
    ∃ declaration, model.find? target = some declaration := by
  cases decoder with
  | dict key value =>
    obtain ⟨_, builds⟩ := keyBuilds_of_forType classified built
    obtain ⟨declaration, found, _⟩ := builds.target refers
    exact ⟨declaration, found⟩
  | call name style =>
    cases refers
    cases type with
    | named info name reference =>
      cases built
      obtain ⟨declaration, found, _⟩ := classified ⟨target, reference, info.position⟩
        List.mem_cons_self
      exact ⟨declaration, found⟩
    | unit | basic | emptyProduct | function => cases built
    | _ =>
      obtain ⟨_, _, same⟩ := return_eq_ok.1 built
      cases same
  | _ => cases refers

end Site

section Report

variable {model : Model} {defaults : Defaults} {options : Options}

theorem linked_of_wellScoped (wellScoped : model.WellScoped) {fragment : Fragment}
    (member : fragment ∈ (generate defaults options model).fragments) :
    fragment.Linked model (generate defaults options model).fragments := by
  obtain ⟨declaration, found, built⟩ := find?_of_mem_fragments wellScoped.names member
  have among := List.mem_of_find?_eq_some found
  have classified : ∀ type ∈ declaration.body.walk, ∀ r ∈ type.references, model.Classifies r := by
    intro type inside r inType
    exact wellScoped.references declaration among r (Body.references_of_mem_walk inside inType)
  constructor
  case root => exact ⟨declaration, found, Site.kind_of_forBody built⟩
  case inside => exact fun part inside => (Site.arises_of_inside built inside).kind_eq
  case declared =>
    intro part target contains refers
    have kind : part.kind = .alias := by
      cases part with
      | call | dict => rfl
      | _ => cases refers
    obtain ⟨path, type, inside, builtPart⟩ := Site.arises_of_kind built contains kind
    exact Site.declared_of_forType (classified type inside) builtPart refers
  case keys =>
    intro key value contains other there refers
    obtain ⟨path, type, inside, builtPart⟩ := Site.arises_of_kind built contains rfl
    obtain ⟨keyType, builds⟩ := Site.keyBuilds_of_forType (classified type inside) builtPart
    obtain ⟨target, foundTarget, builtTarget⟩ := find?_of_mem_fragments wellScoped.names there
    obtain ⟨_, foundAgain, expects⟩ := builds.target refers
    cases foundTarget.symm.trans foundAgain
    exact expects _ _ builtTarget

variable [Pattern.Engine]

/-- With the decoders of a report no reference leads to the wrong kind of decoder, and what is
unknown is the requested name or declared, but has no decoder. -/
theorem decode_error_of_wellScoped (wellScoped : model.WellScoped) {name : String} {input : Json}
    {error : DecodeError}
    (h : Decoding.decode (.ofFragments (generate defaults options model).fragments) name input =
      .error error) :
    ¬error.Mislinked ∧ ∀ missing, error = .unknownDecoder missing →
      (missing = name ∨ ∃ declaration, model.find? missing = some declaration) ∧
      (DecoderTable.ofFragments (generate defaults options model).fragments).get? missing =
        none := by
  let table := DecoderTable.ofFragments (generate defaults options model).fragments
  let Sound : Decoder → Prop := fun part =>
    (∀ key value, part = .dict key value → key.FitsIn table) ∧
      ∀ target, part.target? = some target →
        target = name ∨ ∃ declaration, model.find? target = some declaration
  have start : Sound (.call name .standalone) :=
    ⟨nofun, fun target same => .inl (Option.some.inj same).symm⟩
  have entry := @get?_ofFragments_eq_some defaults options model wellScoped.names
  have parts : ∀ caller body, table.get? caller = some body →
      ∀ part, body.Contains part → Sound part := by
    intro caller body found part contains
    obtain ⟨fragment, member, _, rfl⟩ := entry.1 found
    have linked := linked_of_wellScoped wellScoped member
    refine ⟨?_, fun target refers => .inr (linked.declared part target contains refers)⟩
    rintro key value rfl target decoder refers found
    obtain ⟨other, among, rfl, rfl⟩ := entry.1 found
    exact linked.keys key value contains other among refers
  obtain ⟨activation, ⟨fits, refers⟩, rejects⟩ := Decoding.exists_part_rejects start parts h
  obtain ⟨right, unknown⟩ := rejects.of_fits fits
  refine ⟨right, fun missing same => ?_⟩
  obtain ⟨target, absent⟩ := unknown missing same
  exact ⟨refers missing target, absent⟩

end Report

section Compiled

variable [Pattern.Engine] {draft : Draft} {properties : Properties} {processors : List Processor}
  {compiled : Compiled}

/-- Linking is closed: fragments fit together, whatever the options. So decoding fails at no
reference of the wrong kind, and at an unknown name only where that name has no fragment, which
cannot be if all have. -/
theorem linking_closed (compiles : compile draft properties processors = .ok compiled)
    (options : Options) :
    (∀ fragment ∈ (generate compiled.defaults options compiled.model).fragments,
      fragment.Linked compiled.model
        (generate compiled.defaults options compiled.model).fragments) ∧
    ∀ name input error,
      Decoding.decode (.ofFragments (generate compiled.defaults options compiled.model).fragments)
        name input = .error error →
      ¬error.Mislinked ∧
      (∀ missing, error = .unknownDecoder missing →
        ∀ fragment ∈ (generate compiled.defaults options compiled.model).fragments,
          fragment.declaration ≠ missing) ∧
      ((generate compiled.defaults options compiled.model).isComplete →
        (∃ declaration, compiled.model.find? name = some declaration) →
        ∀ missing, error ≠ .unknownDecoder missing) := by
  have wellScoped := compiled_wellScoped compiles
  refine ⟨fun fragment => linked_of_wellScoped wellScoped, fun name input error failed => ?_⟩
  obtain ⟨right, unknown⟩ := decode_error_of_wellScoped wellScoped failed
  refine ⟨right, ?_, ?_⟩
  · rintro missing same fragment member rfl
    have found := (get?_ofFragments_eq_some wellScoped.names).2 ⟨fragment, member, rfl, rfl⟩
    rw [(unknown _ same).2] at found
    cases found
  · rintro complete ⟨requested, foundRequested⟩ missing same
    obtain ⟨refers, absent⟩ := unknown missing same
    have declared : ∃ declaration, compiled.model.find? missing = some declaration := by
      obtain rfl | declared := refers
      · exact ⟨requested, foundRequested⟩
      · exact declared
    obtain ⟨declaration, found⟩ := declared
    obtain ⟨decoder, there⟩ := exists_get?_of_complete wellScoped.names complete found
    cases absent.symm.trans there

end Compiled

def routesDraft : Draft where
  declarations := [
    { name := "Level", body := .enum ["low", "high"], info := decodedInfo },
    { name := "Port", body := .restricted (.int { min := some 1 }), info := decodedInfo },
    { name := "Routes"
      body := .alias (.dict {} (.named {} "Port" ())
        (.dict {} (.named {} "Level" ()) (.optional {} (.named {} "Routes" ()))))
      info := decodedInfo }]
  wellScoped := by decide

section Program

attribute [local instance] Pattern.regexEngine

theorem linking_closed_routes :
    ∃ compiled, compile routesDraft ∅ [.coding] = .ok compiled ∧
      ∀ options,
        (generate compiled.defaults options compiled.model).fragments.length = 3 ∧
        ∀ input error,
          Decoding.decode
            (.ofFragments (generate compiled.defaults options compiled.model).fragments)
            "Routes" input = .error error →
          ¬error.Mislinked ∧ ∀ missing, error ≠ .unknownDecoder missing := by
  obtain ⟨compiled, compiles⟩ : ∃ compiled, compile routesDraft ∅ [.coding] = .ok compiled :=
    ⟨_, rfl⟩
  refine ⟨compiled, compiles, fun options => ?_⟩
  have linked := linking_closed compiles options
  cases compiles
  refine ⟨rfl, fun input error failed => ?_⟩
  obtain ⟨right, _, known⟩ := linked.2 "Routes" input error failed
  exact ⟨right, known rfl ⟨_, rfl⟩⟩

end Program

end WireModel
