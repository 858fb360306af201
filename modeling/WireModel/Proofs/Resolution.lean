import WireModel.Model.Resolution
import WireModel.Proofs.Places

/-! Exactness of resolution. It fails exactly if some reference, at whatever place, names nothing,
and then reports each of them once and in order. Where it succeeds it changes the payloads of
references and nothing else, and a payload says what the declaration of that name is. -/
namespace WireModel

variable {ρ σ τ : Type}

namespace TypeExpr

theorem mapReferences_congr {f g : String → ρ → Position → σ} {type : TypeExpr ρ}
    (same : ∀ r ∈ type.references, f r.name r.payload r.position = g r.name r.payload r.position) :
    type.mapReferences f = type.mapReferences g := by
  induction type using TypeExpr.induction with
  | unit | basic | emptyProduct => rfl
  | named info name reference => exact congrArg _ (same _ List.mem_cons_self)
  | product info fields ih =>
    rw [references, fieldReferences_eq] at same
    rw [mapReferences, mapReferences, mapFieldReferences_eq, mapFieldReferences_eq]
    congr 1
    apply List.map_congr_left
    intro field inside
    rw [ih field inside fun r inField => same r (List.mem_flatMap.2 ⟨field, inside, inField⟩)]
  | list info element ih | set info element ih | optional info element ih =>
    exact congrArg _ (ih same)
  | dict info first second ihFirst ihSecond | function info first second ihFirst ihSecond =>
    rw [references] at same
    have inFirst := ihFirst fun r member => same r (List.mem_append_left _ member)
    have inSecond := ihSecond fun r member => same r (List.mem_append_right _ member)
    rw [mapReferences, mapReferences, inFirst, inSecond]

@[simp]
theorem mapReferences_mapReferences (f : String → ρ → Position → σ) (g : String → σ → Position → τ)
    (type : TypeExpr ρ) :
    (type.mapReferences f).mapReferences g =
      type.mapReferences fun name payload position => g name (f name payload position) position := by
  induction type using TypeExpr.induction with
  | unit | basic | named | emptyProduct => rfl
  | product info fields ih =>
    simp only [mapReferences, mapFieldReferences_eq, List.map_map]
    congr 1
    apply List.map_congr_left
    intro field inside
    simp only [Function.comp_apply, ih field inside]
  | list info element ih | set info element ih | optional info element ih => exact congrArg _ ih
  | dict info first second ihFirst ihSecond | function info first second ihFirst ihSecond =>
    simp only [mapReferences, ihFirst, ihSecond]

@[simp]
theorem mapReferences_self (type : TypeExpr ρ) :
    type.mapReferences (fun _ payload _ => payload) = type := by
  induction type using TypeExpr.induction with
  | unit | basic | named | emptyProduct => rfl
  | product info fields ih =>
    rw [mapReferences, mapFieldReferences_eq]
    congr 1
    refine (List.map_congr_left fun field inside => ?_).trans (List.map_id _)
    rw [ih field inside]
    rfl
  | list info element ih | set info element ih | optional info element ih => exact congrArg _ ih
  | dict info first second ihFirst ihSecond | function info first second ihFirst ihSecond =>
    rw [mapReferences, ihFirst, ihSecond]

/-- Before resolution there is nothing to forget. -/
@[simp]
theorem erase_mapReferences (f : String → Unit → Position → σ) (type : TypeExpr Unit) :
    (type.mapReferences f).erase = type :=
  (mapReferences_mapReferences f _ type).trans type.mapReferences_self

@[simp]
private theorem erase_mapFieldReferences (f : String → Unit → Position → σ)
    (fields : List (Field (TypeExpr Unit))) :
    mapFieldReferences (fun _ _ _ => ()) (mapFieldReferences f fields) = fields := by
  rw [mapFieldReferences_eq, mapFieldReferences_eq, List.map_map]
  refine (List.map_congr_left fun field _ => ?_).trans (List.map_id _)
  exact congrArg (Field.mk field.toFieldLabel) (field.type.erase_mapReferences f)

end TypeExpr

namespace Body

theorem mapReferences_congr {f g : String → ρ → Position → σ} {body : Body ρ}
    (same : ∀ r ∈ body.references, f r.name r.payload r.position = g r.name r.payload r.position) :
    body.mapReferences f = body.mapReferences g := by
  cases body with
  | «alias» type => exact congrArg _ (TypeExpr.mapReferences_congr same)
  | sum constructors =>
    simp only [references, TypeExpr.fieldReferences_eq, List.mem_flatMap] at same
    simp only [mapReferences, TypeExpr.mapFieldReferences_eq]
    congr 1
    apply List.map_congr_left
    intro c among
    congr 1
    apply List.map_congr_left
    intro field inside
    rw [TypeExpr.mapReferences_congr fun r inField => same r ⟨c, among, field, inside, inField⟩]
  | enum | restricted => rfl

@[simp]
theorem erase_mapReferences (f : String → Unit → Position → σ) (body : Body Unit) :
    (body.mapReferences f).erase = body := by
  cases body with
  | «alias» type => exact congrArg _ (type.erase_mapReferences f)
  | sum constructors =>
    simp only [erase, mapReferences, List.map_map]
    congr 1
    refine (List.map_congr_left fun c _ => ?_).trans (List.map_id _)
    exact congrArg (fun fields => ({ c with fields } : Constructor Unit))
      (TypeExpr.erase_mapFieldReferences f c.fields)
  | enum | restricted => rfl

end Body

def Declaration.erase (declaration : Declaration ρ) : Declaration Unit :=
  { name := declaration.name, body := declaration.body.erase, info := declaration.info }

@[simp]
theorem erase_classifyReferences (declarations : List (Declaration Unit))
    (declaration : Declaration Unit) :
    (classifyReferences declarations declaration).erase = declaration :=
  congrArg (fun body => { declaration with body }) (declaration.body.erase_mapReferences _)

theorem classification?_eq_some {declarations : List (Declaration Unit)} {name : String}
    {classification : Classification}
    (h : classification? declarations name = some classification) :
    ∃ target ∈ declarations, target.name = name ∧ classification = target.body.classify := by
  obtain ⟨target, found, rfl⟩ := Option.map_eq_some_iff.1 h
  exact ⟨target, List.mem_of_find?_eq_some found, by simpa using List.find?_some found, rfl⟩

theorem classification?_eq_none {declarations : List (Declaration Unit)} {name : String} :
    classification? declarations name = none ↔ name ∉ declarations.map (·.name) := by
  simp [classification?, findDeclaration?]

def danglingAt? (declarations : List (Declaration Unit)) (place : Place) : Option ResolveError :=
  match nodeAt? declarations place with
  | some (.named info name _) =>
    if name ∈ declarations.map (·.name) then none else some ⟨name, info.position⟩
  | _ => none

theorem danglingAt?_eq_some {declarations : List (Declaration Unit)} {place : Place}
    {error : ResolveError} :
    danglingAt? declarations place = some error ↔
      ∃ info, nodeAt? declarations place = some (.named info error.name ()) ∧
        info.position = error.position ∧ error.name ∉ declarations.map (·.name) := by
  unfold danglingAt?
  split
  · next info name _ node =>
    rw [node]
    split
    · next declared =>
      refine iff_of_false (by simp) ?_
      rintro ⟨_, same, _, undeclared⟩
      cases same
      exact undeclared declared
    · next undeclared =>
      constructor
      · intro same
        cases same
        exact ⟨info, rfl, rfl, undeclared⟩
      · rintro ⟨_, same, position, _⟩
        cases same
        rw [position]
  · next other =>
    refine iff_of_false (by simp) ?_
    rintro ⟨info, node, _⟩
    exact other info error.name () node

def danglingReference? (declarations : List (Declaration Unit))
    (reference : TypeExpr.Reference Unit) : Option ResolveError :=
  if reference.name ∈ declarations.map (·.name) then none
  else some ⟨reference.name, reference.position⟩

private theorem danglingReferences_eq (declarations : List (Declaration Unit))
    (declaration : Declaration Unit) :
    danglingReferences declarations declaration =
      declaration.body.references.filterMap (danglingReference? declarations) := by
  unfold danglingReferences
  refine List.filterMap_congr fun reference _ => ?_
  unfold danglingReference?
  cases known : classification? declarations reference.name with
  | none => rw [if_neg (classification?_eq_none.1 known)]
  | some classification =>
    obtain ⟨target, member, same, _⟩ := classification?_eq_some known
    rw [if_pos (List.mem_map.2 ⟨target, member, same⟩)]

private theorem danglingAt?_eq (declarations : List (Declaration Unit)) (place : Place) :
    danglingAt? declarations place =
      ((nodeAt? declarations place).bind TypeExpr.ownReference?).bind
        (danglingReference? declarations) := by
  unfold danglingAt?
  cases nodeAt? declarations place with
  | none => rfl
  | some node => cases node <;> rfl

theorem enumerates_dangling (declarations : List (Declaration Unit)) :
    Enumerates (danglingAt? declarations)
      (declarations.flatMap (danglingReferences declarations)) := by
  have listed : declarations.flatMap (danglingReferences declarations) =
      (declarations.flatMap (·.body.references)).filterMap (danglingReference? declarations) := by
    rw [List.filterMap_flatMap, funext (danglingReferences_eq declarations)]
  rw [listed, funext (danglingAt?_eq declarations)]
  exact (enumerates_references declarations).filterMap _

section Resolve

variable {draft : Draft} {declarations : List (Declaration Classification)}

theorem resolve_eq_ok :
    resolve draft = .ok declarations ↔
      draft.declarations.flatMap (danglingReferences draft.declarations) = [] ∧
        declarations = draft.declarations.map (classifyReferences draft.declarations) := by
  unfold resolve
  cases draft.declarations.flatMap (danglingReferences draft.declarations) <;> simp [eq_comm]

theorem resolve_eq_error {errors : List ResolveError} :
    resolve draft = .error errors ↔
      draft.declarations.flatMap (danglingReferences draft.declarations) = errors ∧
        errors ≠ [] := by
  unfold resolve
  cases draft.declarations.flatMap (danglingReferences draft.declarations) <;> grind

theorem dangling_eq_nil {declarations : List (Declaration Unit)} :
    declarations.flatMap (danglingReferences declarations) = [] ↔
      ∀ place info name payload, nodeAt? declarations place = some (.named info name payload) →
        name ∈ declarations.map (·.name) := by
  have listed := enumerates_dangling declarations
  rw [List.eq_nil_iff_forall_not_mem]
  constructor
  · intro none place info name payload node
    by_contra undeclared
    have there : danglingAt? declarations place = some ⟨name, info.position⟩ :=
      danglingAt?_eq_some.2 ⟨info, node, rfl, undeclared⟩
    exact none _ (listed.mem_of_lookup there)
  · intro declared error member
    obtain ⟨place, there⟩ := listed.exists_place member
    obtain ⟨info, node, _, undeclared⟩ := danglingAt?_eq_some.1 there
    exact undeclared (declared place info error.name () node)

/-- Where nothing dangles, a classified reference has the classification of the declaration that
it names. -/
theorem classified_at {declarations : List (Declaration Unit)}
    (resolved : declarations.flatMap (danglingReferences declarations) = []) {place : Place}
    {info : Info} {name : String} {classification : Classification}
    (node : nodeAt? (declarations.map (classifyReferences declarations)) place =
      some (.named info name classification)) :
    ∃ target ∈ declarations, target.name = name ∧ classification = target.body.classify := by
  rw [nodeAt?_mapReferences (fun name _ _ => (classification? declarations name).getD .plain)
    fun _ => rfl] at node
  obtain ⟨before, there, same⟩ := Option.map_eq_some_iff.1 node
  cases before with
  | named info name payload =>
    cases same
    have declared := dangling_eq_nil.1 resolved place info name payload there
    cases known : classification? declarations name with
    | none => exact absurd declared (classification?_eq_none.1 known)
    | some classification =>
      simp only [known, Option.getD_some]
      exact classification?_eq_some known
  | _ => cases same

end Resolve

/-- Resolution succeeds exactly if every reference, at whatever place, names a declaration. Then
forgetting the classifications gives the draft back, and each is that of the declaration named.
Otherwise the errors are those of the dangling places, one for each, from left to right. -/
theorem resolution_exact (draft : Draft) :
    ((∃ declarations, resolve draft = .ok declarations) ↔
      ∀ place info name payload,
        nodeAt? draft.declarations place = some (.named info name payload) →
        name ∈ draft.declarations.map (·.name)) ∧
    (∀ declarations, resolve draft = .ok declarations →
      declarations.map Declaration.erase = draft.declarations ∧
      ∀ place info name classification,
        nodeAt? declarations place = some (.named info name classification) →
        ∃ target ∈ draft.declarations,
          target.name = name ∧ classification = target.body.classify) ∧
    ∀ errors, resolve draft = .error errors →
      Enumerates (danglingAt? draft.declarations) errors := by
  refine ⟨?_, fun declarations resolved => ?_, fun errors failed => ?_⟩
  · rw [← dangling_eq_nil]
    constructor
    · rintro ⟨declarations, resolved⟩
      exact (resolve_eq_ok.1 resolved).1
    · intro none
      exact ⟨_, resolve_eq_ok.2 ⟨none, rfl⟩⟩
  · obtain ⟨none, rfl⟩ := resolve_eq_ok.1 resolved
    refine ⟨?_, fun place info name classification => classified_at none⟩
    rw [List.map_map]
    refine (List.map_congr_left fun declaration _ => ?_).trans (List.map_id _)
    exact erase_classifyReferences draft.declarations declaration
  · rw [← (resolve_eq_error.1 failed).1]
    exact enumerates_dangling draft.declarations

example :
    resolve ⟨[{ name := "F"
                body := .alias (.function {} (.named {} "B" ())
                  (.dict {} (.named {} "F" ()) (.list {} (.named {} "A" ())))) }], by decide⟩ =
      .error [⟨"B", {}⟩, ⟨"A", {}⟩] := rfl

end WireModel
