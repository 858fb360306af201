import WireModel.Proofs.GeneratedDecoders
import Mathlib.Logic.Relation

/-! What generated decoders hold. Every decoder inside the body of a fragment is built from a type
inside the declaration, and the fragments of a report are the entries of its table. -/
namespace WireModel

namespace Decoder

inductive Holds : Decoder → Decoder → Prop
  | list {element} : Holds (.list element) element
  | set {element} : Holds (.set element) element
  | nullable {element} : Holds (.nullable element) element
  | dict {key value} : Holds (.dict key value) value
  | object {fields field} (member : field ∈ fields) : Holds (.object fields) field.decoder
  | tagged {discriminant cases case field} (among : case ∈ cases) (member : field ∈ case.fields) :
      Holds (.tagged discriminant cases) field.decoder

abbrev HoldsInside : Decoder → Decoder → Prop := Relation.TransGen Holds

abbrev Contains : Decoder → Decoder → Prop := Relation.ReflTransGen Holds

def kind : Decoder → DeclarationKind
  | .tagged .. => .sum
  | .enumeration .. => .enum
  | .refined .. => .restricted
  | _ => .alias

end Decoder

def DecoderTable.Holds (table : DecoderTable) (decoder : Decoder) : Prop :=
  ∃ name body, table.get? name = some body ∧ body.Contains decoder

section Walk

variable {ρ : Type}

namespace TypeExpr

theorem mem_walk_self (type : TypeExpr ρ) : type ∈ type.walk := by
  cases type <;> simp [walk]

private theorem held_mem_walk (type : TypeExpr ρ) : type.held ∈ type.walk := by
  cases type with
  | optional info element => exact List.mem_cons_of_mem _ element.mem_walk_self
  | _ => exact mem_walk_self _

theorem mem_walk_trans {inner part type : TypeExpr ρ} (below : inner ∈ part.walk)
    (member : part ∈ type.walk) : inner ∈ type.walk := by
  induction type using TypeExpr.induction with
  | unit | basic | named | emptyProduct =>
    obtain rfl := List.mem_singleton.1 member
    exact below
  | product info fields ih =>
    rcases List.mem_cons.1 member with rfl | member
    · exact below
    · simp only [walkFields_eq, List.mem_flatMap] at member
      obtain ⟨field, inside, member⟩ := member
      simp only [walk, walkFields_eq, List.mem_cons, List.mem_flatMap]
      exact .inr ⟨field, inside, ih field inside member⟩
  | list info element ih | set info element ih | optional info element ih =>
    rcases List.mem_cons.1 member with rfl | member
    · exact below
    · exact List.mem_cons_of_mem _ (ih member)
  | dict info first second ihFirst ihSecond | function info first second ihFirst ihSecond =>
    rcases List.mem_cons.1 member with rfl | member
    · exact below
    · refine List.mem_cons_of_mem _ (List.mem_append.2 ?_)
      exact (List.mem_append.1 member).imp ihFirst ihSecond

theorem references_of_mem_walk {part type : TypeExpr ρ} (member : part ∈ type.walk) :
    part.references ⊆ type.references := by
  induction type using TypeExpr.induction with
  | unit | basic | named | emptyProduct =>
    obtain rfl := List.mem_singleton.1 member
    exact List.Subset.refl _
  | product info fields ih =>
    rcases List.mem_cons.1 member with rfl | member
    · exact List.Subset.refl _
    · simp only [walkFields_eq, List.mem_flatMap] at member
      obtain ⟨field, inside, member⟩ := member
      intro reference inPart
      rw [references, fieldReferences_eq]
      exact List.mem_flatMap.2 ⟨field, inside, ih field inside member inPart⟩
  | list info element ih | set info element ih | optional info element ih =>
    rcases List.mem_cons.1 member with rfl | member
    · exact List.Subset.refl _
    · exact ih member
  | dict info first second ihFirst ihSecond | function info first second ihFirst ihSecond =>
    rcases List.mem_cons.1 member with rfl | member
    · exact List.Subset.refl _
    · rcases List.mem_append.1 member with member | member
      · exact List.subset_append_of_subset_left _ (ihFirst member)
      · exact List.subset_append_of_subset_right _ (ihSecond member)

end TypeExpr

namespace Body

variable {body : Body ρ}

theorem mem_walk_trans {inner part : TypeExpr ρ} (below : inner ∈ part.walk)
    (member : part ∈ body.walk) : inner ∈ body.walk := by
  rcases body with type | constructors | labels | restriction
  · exact TypeExpr.mem_walk_trans below member
  · simp only [walk, TypeExpr.walkFields_eq, List.mem_flatMap] at member ⊢
    obtain ⟨constructor, among, field, inside, member⟩ := member
    exact ⟨constructor, among, field, inside, TypeExpr.mem_walk_trans below member⟩
  · cases member
  · cases member

theorem references_of_mem_walk {part : TypeExpr ρ} (member : part ∈ body.walk) :
    part.references ⊆ body.references := by
  rcases body with type | constructors | labels | restriction
  · exact TypeExpr.references_of_mem_walk member
  · intro reference inPart
    simp only [walk, TypeExpr.walkFields_eq, List.mem_flatMap] at member
    simp only [references, TypeExpr.fieldReferences_eq, List.mem_flatMap]
    obtain ⟨constructor, among, field, inside, member⟩ := member
    exact ⟨constructor, among, field, inside, TypeExpr.references_of_mem_walk member inPart⟩
  · cases member
  · cases member

end Body

end Walk

namespace Site

variable {site : Site} {body : Body Classification} {whole part : Decoder}

def Arises (site : Site) (body : Body Classification) (decoder : Decoder) : Prop :=
  ∃ path, ∃ type ∈ body.walk, site.forType path type = .ok decoder

private theorem exists_of_forFields {scope : String}
    {fields : List (Field (TypeExpr Classification))}
    {decoders : List (FieldDecoder Decoder)} (built : site.forFields scope fields = .ok decoders)
    {decoder : FieldDecoder Decoder} (member : decoder ∈ decoders) :
    ∃ path, ∃ type ∈ TypeExpr.walkFields fields, site.forType path type = .ok decoder.decoder := by
  rw [forFields_eq_mapM] at built
  obtain ⟨decode, rfl, each⟩ := exists_map_of_mapM built
  obtain ⟨field, inside, rfl⟩ := List.mem_map.1 member
  obtain ⟨key, _, h⟩ := bind_eq_ok.1 (each field inside)
  obtain ⟨inner, built, same⟩ := return_eq_ok.1 h
  have below : field.type.held ∈ TypeExpr.walkFields fields := by
    rw [TypeExpr.walkFields_eq]
    exact List.mem_flatMap.2 ⟨field, inside, field.type.held_mem_walk⟩
  rw [← same]
  exact ⟨_, _, below, built⟩

theorem exists_of_forType {path : String} {type : TypeExpr Classification}
    (built : site.forType path type = .ok whole) (holds : whole.Holds part) :
    ∃ path, ∃ inner ∈ type.walk, site.forType path inner = .ok part := by
  cases type with
  | unit | basic | named =>
    cases built
    cases holds
  | emptyProduct =>
    cases built
    cases holds with
    | object member => cases member
  | product info fields =>
    obtain ⟨decoders, builtFields, rfl⟩ := return_eq_ok.1 built
    cases holds with
    | object member =>
      obtain ⟨path, inner, inside, builtInner⟩ := exists_of_forFields builtFields member
      exact ⟨path, inner, List.mem_cons_of_mem _ inside, builtInner⟩
  | list info element | set info element | optional info element =>
    obtain ⟨decoder, builtElement, rfl⟩ := return_eq_ok.1 built
    cases holds
    exact ⟨_, element, List.mem_cons_of_mem _ element.mem_walk_self, builtElement⟩
  | dict info key value =>
    obtain ⟨decoder, builtValue, rfl⟩ := return_eq_ok.1 built
    cases holds
    refine ⟨_, value, List.mem_cons_of_mem _ (List.mem_append_right _ ?_), builtValue⟩
    exact value.mem_walk_self
  | function => cases built

private theorem Arises.of_holds (arises : site.Arises body whole) (holds : whole.Holds part) :
    site.Arises body part := by
  obtain ⟨path, type, member, built⟩ := arises
  obtain ⟨path, inner, below, built⟩ := exists_of_forType built holds
  exact ⟨path, inner, Body.mem_walk_trans below member, built⟩

theorem arises_of_forBody (built : site.forBody body = .ok whole) (holds : whole.Holds part) :
    site.Arises body part := by
  rcases body with type | constructors | labels | restriction
  · exact Arises.of_holds ⟨_, type, type.mem_walk_self, built⟩ holds
  · obtain ⟨cases, builtCases, rfl⟩ := return_eq_ok.1 built
    rw [forCases_eq_mapM] at builtCases
    obtain ⟨decode, rfl, each⟩ := exists_map_of_mapM builtCases
    cases holds with
    | tagged among member =>
      obtain ⟨constructor, inside, rfl⟩ := List.mem_map.1 among
      obtain ⟨fields, builtFields, same⟩ := return_eq_ok.1 (each constructor inside)
      rw [← same] at member
      obtain ⟨path, type, below, builtType⟩ := exists_of_forFields builtFields member
      exact ⟨path, type, List.mem_flatMap.2 ⟨constructor, inside, below⟩, builtType⟩
  · cases built
    cases holds
  · cases built
    cases holds

/-- All that is inside the decoder of a body is built from the types of the body. -/
theorem arises_of_inside (built : site.forBody body = .ok whole)
    (inside : whole.HoldsInside part) : site.Arises body part := by
  induction inside with
  | single holds => exact arises_of_forBody built holds
  | tail _ holds ih => exact ih.of_holds holds

theorem Arises.kind_eq (arises : site.Arises body part) : part.kind = .alias := by
  obtain ⟨path, type, _, built⟩ := arises
  cases type with
  | unit | basic | named | emptyProduct =>
    cases built
    rfl
  | function => cases built
  | _ =>
    obtain ⟨_, _, rfl⟩ := return_eq_ok.1 built
    rfl

theorem kind_of_forBody (built : site.forBody body = .ok whole) : whole.kind = body.kind := by
  rcases body with type | constructors | labels | restriction
  · have root : site.Arises (.alias type) whole := ⟨_, type, type.mem_walk_self, built⟩
    exact root.kind_eq
  · obtain ⟨_, _, rfl⟩ := return_eq_ok.1 built
    rfl
  · cases built
    rfl
  · cases built
    rfl

/-- A part that can stand anywhere is built from a type, at the root too. -/
theorem arises_of_kind (built : site.forBody body = .ok whole) (contains : whole.Contains part)
    (kind : part.kind = .alias) : site.Arises body part := by
  rcases Relation.reflTransGen_iff_eq_or_transGen.1 contains with rfl | inside
  · have root := (kind_of_forBody built).symm.trans kind
    rcases body with type | _ | _ | _
    · exact ⟨_, type, type.mem_walk_self, built⟩
    all_goals cases root
  · exact arises_of_inside built inside

/-- A part that can stand at the root only is the root. -/
theorem eq_of_kind (built : site.forBody body = .ok whole) (contains : whole.Contains part)
    (kind : part.kind ≠ .alias) : part = whole := by
  rcases Relation.reflTransGen_iff_eq_or_transGen.1 contains with same | inside
  · exact same
  · exact absurd (arises_of_inside built inside).kind_eq kind

end Site

section Report

variable {defaults : Defaults} {options : Options} {model : Model}

theorem mem_fragments {fragment : Fragment} :
    fragment ∈ (generate defaults options model).fragments ↔
      ∃ d ∈ model.declarations, requestedFragment defaults options d = .ok fragment := by
  simp only [generate, List.filterMap_map, List.mem_filterMap, Function.comp_apply,
    toOption_eq_some]

theorem find?_of_mem_fragments (names : (model.declarations.map (·.name)).Nodup)
    {fragment : Fragment} (member : fragment ∈ (generate defaults options model).fragments) :
    ∃ declaration, model.find? fragment.declaration = some declaration ∧
      (Site.mk defaults options declaration.name).forBody declaration.body =
        .ok fragment.function.body := by
  obtain ⟨declaration, among, requested⟩ := mem_fragments.1 member
  obtain ⟨sameName, built⟩ := requestedFragment_eq_ok requested
  rw [sameName]
  exact ⟨declaration, find?_of_nodup names among, built⟩

theorem get?_ofFragments_eq_some (names : (model.declarations.map (·.name)).Nodup) {name : String}
    {decoder : Decoder} :
    (DecoderTable.ofFragments (generate defaults options model).fragments).get? name =
        some decoder ↔
      ∃ fragment ∈ (generate defaults options model).fragments,
        fragment.declaration = name ∧ fragment.function.body = decoder := by
  have distinct := nodup_fragmentKeys defaults options names
  rw [DecoderTable.ofFragments, OrderedMap.ofList, OrderedMap.get?_insertAll_of_nodup _ distinct,
    OrderedMap.get?_empty, Option.or_none, findEntry_eq_some distinct, List.mem_map]
  simp only [Prod.mk.injEq]

end Report

end WireModel
