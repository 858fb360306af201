import WireModel.Proofs.Listings
import WireModel.Proofs.Scoping

/-! Validation is exact. The spots where declarations break a scoping rule are given by look-ups
that know nothing of the order of the checks; the errors are those of the broken spots, one for
each. -/
namespace WireModel

variable {ρ : Type}

namespace TypeExpr

theorem walk_eq_children (type : TypeExpr ρ) :
    type.walk = type :: type.children.flatMap (·.walk) := by
  cases type <;> simp [walk, children, List.flatMap_map]

theorem enumerates_walk (type : TypeExpr ρ) : Enumerates type.at? type.walk := by
  induction type using childInduction with
  | step type ih =>
    rw [type.walk_eq_children]
    exact .root rfl (fun _ _ => rfl) ih

def productFields : TypeExpr ρ → List (Field (TypeExpr ρ))
  | .product _ fields => fields
  | _ => []

def emptyProduct? (scope : String) : TypeExpr ρ → Option ModelError
  | .product info [] => some (.empty scope "product" info.position)
  | _ => none

end TypeExpr

namespace Body

def constructors : Body ρ → List (Constructor ρ)
  | .sum constructors => constructors
  | _ => []

def labels : Body ρ → List String
  | .enum labels => labels
  | _ => []

def emptiness? : Body ρ → Option String
  | .sum [] => some "sum"
  | .enum [] => some "enum"
  | _ => none

end Body

/-- The types that a declaration is made of, with the scope that errors inside them name. -/
def Declaration.scopedParts (declaration : Declaration ρ) : List (String × TypeExpr ρ) :=
  match declaration.body with
  | .alias type => [(declaration.name, type)]
  | .sum constructors => constructors.flatMap fun constructor =>
    constructor.fields.map fun field => (declaration.scopeOf constructor, field.type)
  | .enum _ | .restricted _ => []

def scopedAt? : List (Declaration ρ) → Place → Option (String × TypeExpr ρ) :=
  enter fun declaration =>
    enter (fun part place => (part.2.at? place).map fun node => (part.1, node))
      declaration.scopedParts

/-- Where a scoping rule can be broken: at a name, or at what must not be empty. -/
inductive Spot where
  | declaration (index : Nat)
  | body (index : Nat)
  | constructor (declaration index : Nat)
  | label (declaration index : Nat)
  | field (declaration constructor index : Nat)
  | product (place : Place)
  | productField (place : Place) (index : Nat)
deriving DecidableEq

/-- The error of a spot where a rule is broken: a name that occurs before it in its scope, or a sum,
enumeration or product that is empty. -/
def breachAt? (declarations : List (Declaration ρ)) : Spot → Option ModelError
  | .declaration index =>
    (repeatAt? (·.name) declarations index).map fun declaration =>
      .duplicateDeclaration declaration.name declaration.info.position
  | .body index =>
    declarations[index]?.bind fun declaration => declaration.body.emptiness?.map fun what =>
      .empty declaration.name what declaration.info.position
  | .constructor declaration index =>
    declarations[declaration]?.bind fun declaration =>
      (repeatAt? (·.name) declaration.body.constructors index).map fun constructor =>
        .duplicateConstructor declaration.name constructor.name constructor.position
  | .label declaration index =>
    declarations[declaration]?.bind fun declaration =>
      (repeatAt? id declaration.body.labels index).map fun label =>
        .duplicateLabel declaration.name label declaration.info.position
  | .field declaration constructor index =>
    declarations[declaration]?.bind fun declaration =>
      declaration.body.constructors[constructor]?.bind fun constructor =>
        (repeatAt? (·.name) constructor.fields index).map fun field =>
          .duplicateField (declaration.scopeOf constructor) field.name field.info.position
  | .product place =>
    (scopedAt? declarations place).bind fun node => node.2.emptyProduct? node.1
  | .productField place index =>
    (scopedAt? declarations place).bind fun node =>
      (repeatAt? (·.name) node.2.productFields index).map fun field =>
        .duplicateField node.1 field.name field.info.position

/-- Names are distinct in their scopes, and nothing is empty. -/
structure WellFormed (declarations : List (Declaration ρ)) : Prop where
  names : (declarations.map (·.name)).Nodup
  sums : ∀ d ∈ declarations, ∀ constructors, d.body = .sum constructors →
    constructors ≠ [] ∧ (constructors.map (·.name)).Nodup
  fields : ∀ d ∈ declarations, ∀ constructors, d.body = .sum constructors →
    ∀ c ∈ constructors, (c.fields.map (·.name)).Nodup
  enums : ∀ d ∈ declarations, ∀ labels, d.body = .enum labels → labels ≠ [] ∧ labels.Nodup
  products : ∀ place info fields, nodeAt? declarations place = some (.product info fields) →
    fields ≠ [] ∧ (fields.map (·.name)).Nodup

section Scopes

variable (declarations : List (Declaration ρ))

private theorem Declaration.scopedParts_map (declaration : Declaration ρ) :
    declaration.scopedParts.map Prod.snd = declaration.body.parts := by
  unfold scopedParts Body.parts
  cases declaration.body <;> simp [List.map_flatMap, Function.comp_def]

theorem nodeAt?_eq_scopedAt? (place : Place) :
    nodeAt? declarations place = (scopedAt? declarations place).map Prod.snd := by
  rcases place with _ | ⟨index, _ | ⟨part, rest⟩⟩
  · rfl
  · simp [nodeAt?, scopedAt?, enter]
  · simp only [nodeAt?, scopedAt?, enter, ← Declaration.scopedParts_map, List.getElem?_map]
    cases declarations[index]? with
    | none => rfl
    | some declaration =>
      simp only [Option.bind_some]
      cases declaration.scopedParts[part]? with
      | none => rfl
      | some part => simp [Function.comp_def]

def Declaration.scopedNodes (declaration : Declaration ρ) : List (String × TypeExpr ρ) :=
  declaration.scopedParts.flatMap fun part => part.2.walk.map fun node => (part.1, node)

private theorem lists_scopedNodes :
    Lists (scopedAt? declarations) (declarations.flatMap (·.scopedNodes)) := by
  refine .of_enumerates (.enter fun declaration _ => .enter fun part _ => ?_)
  simpa [Option.map_eq_bind, List.filterMap_eq_map, Function.comp_def] using
    part.2.enumerates_walk.filterMap (fun node => some (part.1, node))

end Scopes

section Scans

def Declaration.repeatedConstructors (declaration : Declaration ρ) : List ModelError :=
  (repeats (·.name) [] declaration.body.constructors).map fun constructor =>
    .duplicateConstructor declaration.name constructor.name constructor.position

def Declaration.emptyBody? (declaration : Declaration ρ) : Option ModelError :=
  declaration.body.emptiness?.map fun what =>
    .empty declaration.name what declaration.info.position

private theorem repeatedFields_eq (scope : String) (fields : List (Field (TypeExpr ρ))) :
    repeatedFields scope [] fields = (repeats (·.name) [] fields).map fun field =>
      .duplicateField scope field.name field.info.position :=
  eq_map_repeats _ (repeatedFields scope) _ (fun _ => rfl) (fun _ _ _ => rfl) [] fields

private theorem lists_repeatedFields (scope : String) (fields : List (Field (TypeExpr ρ))) :
    Lists (fun index => (repeatAt? (·.name) fields index).map fun field =>
        .duplicateField scope field.name field.info.position)
      (repeatedFields scope [] fields) := by
  rw [repeatedFields_eq]
  exact (lists_repeats _ fields).map _

private theorem lists_labelErrors (declaration : Declaration ρ) (labels : List String) :
    Lists (fun index => (repeatAt? id labels index).map fun label =>
        .duplicateLabel declaration.name label declaration.info.position)
      (labelErrors declaration [] labels) := by
  rw [eq_map_repeats id (labelErrors declaration) _ (fun _ => rfl) (fun _ _ _ => rfl) [] labels]
  exact (lists_repeats _ labels).map _

private theorem lists_repeatedConstructors (declaration : Declaration ρ) :
    Lists (fun index => (repeatAt? (·.name) declaration.body.constructors index).map
        fun constructor =>
          .duplicateConstructor declaration.name constructor.name constructor.position)
      declaration.repeatedConstructors :=
  (lists_repeats _ declaration.body.constructors).map _

private theorem perm_fieldErrors (scope : String) (fields : List (Field (TypeExpr ρ))) :
    (fieldErrors scope [] fields).Perm
      (repeatedFields scope [] fields ++
        fields.flatMap fun field => typeErrors scope field.type) := by
  rw [repeatedFields_eq]
  exact perm_of_scan _ (fieldErrors scope) _ _ (fun _ => rfl) (fun _ _ _ => rfl) [] fields

private theorem perm_constructorErrors (declaration : Declaration ρ)
    (constructors : List (Constructor ρ)) : (constructorErrors declaration [] constructors).Perm
      (((repeats (·.name) [] constructors).map fun constructor =>
        .duplicateConstructor declaration.name constructor.name constructor.position) ++
      ((constructors.flatMap fun constructor =>
        repeatedFields (declaration.scopeOf constructor) [] constructor.fields) ++
      constructors.flatMap fun constructor => constructor.fields.flatMap fun field =>
        typeErrors (declaration.scopeOf constructor) field.type)) := by
  refine (perm_of_scan _ (constructorErrors declaration) _ _ (fun _ => rfl) (fun _ _ _ => rfl) []
    constructors).trans (.append_left _ ?_)
  calc List.Perm _ (constructors.flatMap fun constructor =>
        repeatedFields (declaration.scopeOf constructor) [] constructor.fields ++
          constructor.fields.flatMap fun field =>
            typeErrors (declaration.scopeOf constructor) field.type) :=
        .flatMap_left _ fun constructor _ => perm_fieldErrors _ constructor.fields
    List.Perm _ _ := (List.flatMap_append_perm _ _ _).symm

theorem productErrors_eq (scope : String) (type : TypeExpr ρ) :
    productErrors scope type =
      (type.emptyProduct? scope).toList ++ repeatedFields scope [] type.productFields := by
  cases type with
  | product info fields => cases fields <;> rfl
  | _ => rfl

private theorem perm_productErrors (nodes : List (String × TypeExpr ρ)) :
    (nodes.flatMap fun node => productErrors node.1 node.2).Perm
      (nodes.filterMap (fun node => node.2.emptyProduct? node.1) ++
        nodes.flatMap fun node => repeatedFields node.1 [] node.2.productFields) := by
  simp only [productErrors_eq, List.filterMap_eq_flatMap_toList]
  exact (List.flatMap_append_perm _ _ _).symm

private theorem productErrors_scopedNodes (declaration : Declaration ρ) :
    (declaration.scopedNodes.flatMap fun node => productErrors node.1 node.2) =
      declaration.scopedParts.flatMap fun part => typeErrors part.1 part.2 := by
  simp only [Declaration.scopedNodes, List.flatMap_assoc, List.flatMap_map, typeErrors]

private theorem perm_bodyErrors (declaration : Declaration ρ) :
    (bodyErrors declaration).Perm
      (declaration.emptyBody?.toList ++ (declaration.repeatedConstructors ++
        (labelErrors declaration [] declaration.body.labels ++
        ((declaration.body.constructors.flatMap fun constructor =>
          repeatedFields (declaration.scopeOf constructor) [] constructor.fields) ++
        declaration.scopedNodes.flatMap fun node => productErrors node.1 node.2)))) := by
  rw [productErrors_scopedNodes]
  obtain ⟨name, body, info⟩ := declaration
  rcases body with type | constructors | labels | restriction
  · simp [bodyErrors, Declaration.emptyBody?, Body.emptiness?, Declaration.repeatedConstructors,
      Body.constructors, Body.labels, repeats, labelErrors, Declaration.scopedParts]
  · have errors := perm_constructorErrors ⟨name, .sum constructors, info⟩ constructors
    simp only [Declaration.scopedParts, List.flatMap_assoc, List.flatMap_map]
    cases constructors with
    | nil => exact errors.cons _
    | cons => exact errors
  · cases labels with
    | nil => rfl
    | cons =>
      simp [bodyErrors, Declaration.emptyBody?, Body.emptiness?, Declaration.repeatedConstructors,
        Body.constructors, Body.labels, repeats, Declaration.scopedParts]
  · rfl

end Scans

section Breaches

variable (declarations : List (Declaration ρ))

theorem perm_modelErrors :
    (modelErrors declarations).Perm
      (((repeats (·.name) [] declarations).map fun declaration =>
        .duplicateDeclaration declaration.name declaration.info.position) ++
      (declarations.filterMap (·.emptyBody?) ++
      (declarations.flatMap (·.repeatedConstructors) ++
      ((declarations.flatMap fun declaration =>
        labelErrors declaration [] declaration.body.labels) ++
      ((declarations.flatMap fun declaration =>
        declaration.body.constructors.flatMap fun constructor =>
          repeatedFields (declaration.scopeOf constructor) [] constructor.fields) ++
      ((declarations.flatMap (·.scopedNodes)).filterMap (fun node => node.2.emptyProduct? node.1) ++
      (declarations.flatMap (·.scopedNodes)).flatMap fun node =>
        repeatedFields node.1 [] node.2.productFields)))))) := by
  -- The checks go declaration by declaration; each rule is taken out of all of them in turn.
  have apart : ∀ (first second : Declaration ρ → List ModelError) (rest : List ModelError),
      (declarations.flatMap second).Perm rest →
      (declarations.flatMap fun declaration => first declaration ++ second declaration).Perm
        (declarations.flatMap first ++ rest) := by
    intro first second rest same
    exact (List.flatMap_append_perm _ _ _).symm.trans (same.append_left _)
  have nodes := perm_productErrors (declarations.flatMap (·.scopedNodes))
  rw [List.flatMap_assoc] at nodes
  rw [List.filterMap_eq_flatMap_toList]
  refine (perm_of_scan _ declarationErrors _ _ (fun _ => rfl) (fun _ _ _ => rfl) []
    declarations).trans (.append_left _ ?_)
  refine (List.Perm.flatMap_left _ fun declaration _ => perm_bodyErrors declaration).trans ?_
  exact apart _ _ _ (apart _ _ _ (apart _ _ _ (apart _ _ _ nodes)))

def spotKinds :
    Nat ⊕ Nat ⊕ Nat × Nat ⊕ Nat × Nat ⊕ Nat × Nat × Nat ⊕ Place ⊕ Place × Nat ≃ Spot where
  toFun
    | .inl index => .declaration index
    | .inr (.inl index) => .body index
    | .inr (.inr (.inl key)) => .constructor key.1 key.2
    | .inr (.inr (.inr (.inl key))) => .label key.1 key.2
    | .inr (.inr (.inr (.inr (.inl key)))) => .field key.1 key.2.1 key.2.2
    | .inr (.inr (.inr (.inr (.inr (.inl place))))) => .product place
    | .inr (.inr (.inr (.inr (.inr (.inr key))))) => .productField key.1 key.2
  invFun
    | .declaration index => .inl index
    | .body index => .inr (.inl index)
    | .constructor declaration index => .inr (.inr (.inl (declaration, index)))
    | .label declaration index => .inr (.inr (.inr (.inl (declaration, index))))
    | .field declaration constructor index =>
      .inr (.inr (.inr (.inr (.inl (declaration, constructor, index)))))
    | .product place => .inr (.inr (.inr (.inr (.inr (.inl place)))))
    | .productField place index => .inr (.inr (.inr (.inr (.inr (.inr (place, index))))))
  left_inv := by rintro (_ | _ | _ | _ | _ | _ | _) <;> rfl
  right_inv := by rintro (_ | _ | _ | _ | _ | _ | _) <;> rfl

/-- Every broken spot is reported, and once. -/
theorem lists_breaches : Lists (breachAt? declarations) (modelErrors declarations) := by
  have each := Lists.positions declarations
  have nodes := lists_scopedNodes declarations
  have names := (lists_repeats (·.name) declarations).map fun declaration =>
    ModelError.duplicateDeclaration declaration.name declaration.info.position
  have bodies := each.filterMap Declaration.emptyBody?
  have constructors := each.flatMap lists_repeatedConstructors
  have labels := each.flatMap fun declaration =>
    lists_labelErrors declaration declaration.body.labels
  have fields := each.flatMap fun declaration =>
    (Lists.positions declaration.body.constructors).flatMap fun constructor =>
      lists_repeatedFields (declaration.scopeOf constructor) constructor.fields
  have products := nodes.filterMap fun node => node.2.emptyProduct? node.1
  have productFields := nodes.flatMap fun node =>
    lists_repeatedFields node.1 node.2.productFields
  have listed := names.sum (bodies.sum (constructors.sum (labels.sum (fields.sum
    (products.sum productFields)))))
  refine .of_perm (.of_equiv spotKinds ?_) (perm_modelErrors declarations)
  -- The look-ups that are listed side by side are those of the kinds of spots.
  convert listed using 1
  funext key
  rcases key with _ | _ | _ | _ | _ | _ | _ <;> rfl

end Breaches

section WellFormed

variable {declarations : List (Declaration ρ)}

theorem Body.unbroken_iff {body : Body ρ} :
    (body.emptiness? = none ∧ (body.constructors.map (·.name)).Nodup ∧ body.labels.Nodup ∧
      ∀ c ∈ body.constructors, (c.fields.map (·.name)).Nodup) ↔
    (∀ constructors, body = .sum constructors →
      constructors ≠ [] ∧ (constructors.map (·.name)).Nodup) ∧
    (∀ constructors, body = .sum constructors →
      ∀ c ∈ constructors, (c.fields.map (·.name)).Nodup) ∧
    ∀ labels, body = .enum labels → labels ≠ [] ∧ labels.Nodup := by
  rcases body with type | constructors | labels | restriction
  · simp [emptiness?, Body.constructors, Body.labels]
  · cases constructors <;> simp [emptiness?, Body.constructors, Body.labels]
  · cases labels <;> simp [emptiness?, Body.constructors, Body.labels]
  · simp [emptiness?, Body.constructors, Body.labels]

theorem TypeExpr.unbroken_iff {scope : String} {type : TypeExpr ρ} :
    (type.emptyProduct? scope = none ∧ (type.productFields.map (·.name)).Nodup) ↔
      ∀ info fields, type = .product info fields →
        fields ≠ [] ∧ (fields.map (·.name)).Nodup := by
  cases type with
  | product info fields => cases fields <;> simp [emptyProduct?, productFields]
  | _ => simp [emptyProduct?, productFields]

theorem unbroken_declarations_iff :
    (∀ spot, breachAt? declarations spot = none) ↔
      (declarations.map (·.name)).Nodup ∧
      (∀ d ∈ declarations, d.body.emptiness? = none ∧
        (d.body.constructors.map (·.name)).Nodup ∧ d.body.labels.Nodup ∧
        ∀ c ∈ d.body.constructors, (c.fields.map (·.name)).Nodup) ∧
      ∀ place scope type, scopedAt? declarations place = some (scope, type) →
        type.emptyProduct? scope = none ∧ (type.productFields.map (·.name)).Nodup := by
  simp only [← repeatAt?_eq_none, List.mem_iff_getElem?]
  constructor
  · intro unbroken
    refine ⟨fun index => ?_, ?_, ?_⟩
    · simpa [breachAt?] using unbroken (.declaration index)
    · rintro d ⟨index, there⟩
      refine ⟨?_, fun inner => ?_, ?_, ?_⟩
      · simpa [breachAt?, there] using unbroken (.body index)
      · simpa [breachAt?, there] using unbroken (.constructor index inner)
      · rw [← List.map_id d.body.labels, ← repeatAt?_eq_none]
        intro inner
        simpa [breachAt?, there] using unbroken (.label index inner)
      · rintro c ⟨position, found⟩ inner
        simpa [breachAt?, there, found] using unbroken (.field index position inner)
    · intro place scope type there
      refine ⟨?_, fun index => ?_⟩
      · simpa [breachAt?, there] using unbroken (.product place)
      · simpa [breachAt?, there] using unbroken (.productField place index)
  · rintro ⟨names, bodies, products⟩ spot
    cases spot with
    | declaration index => simp [breachAt?, names]
    | body index =>
      simp only [breachAt?, Option.bind_eq_none_iff, Option.map_eq_none_iff]
      exact fun d there => (bodies d ⟨index, there⟩).1
    | constructor declaration index =>
      simp only [breachAt?, Option.bind_eq_none_iff, Option.map_eq_none_iff]
      exact fun d there => (bodies d ⟨declaration, there⟩).2.1 index
    | label declaration index =>
      simp only [breachAt?, Option.bind_eq_none_iff, Option.map_eq_none_iff]
      intro d there
      have distinct := (bodies d ⟨declaration, there⟩).2.2.1
      rw [← List.map_id d.body.labels, ← repeatAt?_eq_none] at distinct
      exact distinct index
    | field declaration constructor index =>
      simp only [breachAt?, Option.bind_eq_none_iff, Option.map_eq_none_iff]
      exact fun d there c found =>
        (bodies d ⟨declaration, there⟩).2.2.2 c ⟨constructor, found⟩ index
    | product place =>
      simp only [breachAt?, Option.bind_eq_none_iff]
      exact fun node there => (products place node.1 node.2 there).1
    | productField place index =>
      simp only [breachAt?, Option.bind_eq_none_iff, Option.map_eq_none_iff]
      exact fun node there => (products place node.1 node.2 there).2 index

theorem wellFormed_iff :
    WellFormed declarations ↔ ∀ spot, breachAt? declarations spot = none := by
  have products : (∀ place scope type, scopedAt? declarations place = some (scope, type) →
      type.emptyProduct? scope = none ∧ (type.productFields.map (·.name)).Nodup) ↔
      ∀ place info fields, nodeAt? declarations place = some (.product info fields) →
        fields ≠ [] ∧ (fields.map (·.name)).Nodup := by
    simp only [TypeExpr.unbroken_iff, nodeAt?_eq_scopedAt?, Option.map_eq_some_iff, Prod.exists]
    constructor
    · rintro unbroken place info fields ⟨scope, type, there, rfl⟩
      exact unbroken place scope _ there info fields rfl
    · rintro unbroken place scope type there info fields rfl
      exact unbroken place info fields ⟨scope, _, there, rfl⟩
  rw [unbroken_declarations_iff, products]
  simp only [Body.unbroken_iff]
  constructor
  · rintro ⟨names, sums, fields, enums, products⟩
    exact ⟨names, fun d member => ⟨sums d member, fields d member, enums d member⟩, products⟩
  · rintro ⟨names, bodies, products⟩
    exact ⟨names, fun d member => (bodies d member).1, fun d member => (bodies d member).2.1,
      fun d member => (bodies d member).2.2, products⟩

end WellFormed

theorem Draft.ofDeclarations_eq_error {declarations : List (Declaration Unit)}
    {errors : List ModelError} (failed : Draft.ofDeclarations declarations = .error errors) :
    errors = modelErrors declarations := by
  unfold Draft.ofDeclarations at failed
  split at failed
  · cases failed
  · cases failed
    rfl

/-- Declarations make a draft exactly if they are well-formed, and the draft holds them as they
are. Otherwise the errors are those of the broken spots, one for each. -/
theorem validation_exact (declarations : List (Declaration Unit)) :
    ((∃ draft, Draft.ofDeclarations declarations = .ok draft) ↔ WellFormed declarations) ∧
    (∀ draft, Draft.ofDeclarations declarations = .ok draft →
      draft.declarations = declarations) ∧
    ∀ errors, Draft.ofDeclarations declarations = .error errors →
      Lists (breachAt? declarations) errors := by
  have listed := lists_breaches declarations
  refine ⟨?_, fun draft accepted => Draft.ofDeclarations_eq_ok.1 accepted, fun errors failed => ?_⟩
  · rw [Draft.exists_ofDeclarations, wellFormed_iff, listed.eq_nil_iff]
  · rw [Draft.ofDeclarations_eq_error failed]
    exact listed

example :
    Draft.ofDeclarations
      [{ name := "T"
         body := .sum [{ name := "C"
                         fields := [⟨{ name := "a" }, .dict {} (.product {} []) (.unit {})⟩,
                           ⟨{ name := "a" }, .unit {}⟩] }] }] =
      .error [.empty "T.C" "product" {}, .duplicateField "T.C" "a" {}] := rfl

end WireModel
