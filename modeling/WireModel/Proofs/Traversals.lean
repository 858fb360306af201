import WireModel.Proofs.NodePlaces

/-! The traversals of a declaration agree. Traversals that replace what they meet are given with an
action that may have any effect, and every one of them is one run of the action over a list: the
fields, or the references, of the parts that slot validation visits, in its order. -/
namespace WireModel

section RunsOver

variable {α β γ δ ε : Type}

/-- A result that is made with an action on items, whatever effect the action has. -/
abbrev Traversal (α β γ : Type) :=
  (m : Type → Type) → [Monad m] → (α → m β) → m γ

/-- Runs the action on some items, on each once and in their order, and does nothing else; the
result is built from what the action gave. -/
def RunsOver (items : List α) (run : Traversal α β γ) : Prop :=
  ∃ build : List β → γ, ∀ (m : Type → Type) [Monad m] [LawfulMonad m] (act : α → m β),
    run m act = build <$> items.mapM act

private theorem bind_mapM_congr {m : Type → Type} [Monad m] [LawfulMonad m] {act : α → m β}
    {items : List α} {rest rest' : List β → m γ}
    (same : ∀ results, results.length = items.length → rest results = rest' results) :
    items.mapM act >>= rest = items.mapM act >>= rest' := by
  induction items generalizing rest rest' with
  | nil => simp [same]
  | cons item items ih =>
    simp only [List.mapM_cons, bind_assoc, pure_bind]
    congr 1
    funext first
    exact ih fun results length => same (first :: results) (by simp [length])

namespace RunsOver

variable {items items' : List α} {run : Traversal α β γ} {run' : Traversal α β δ}

theorem nothing (result : γ) : RunsOver [] (fun _ _ _ => pure result : Traversal α β γ) := by
  refine ⟨fun _ => result, fun m _ _ act => ?_⟩
  simp

theorem once [Inhabited γ] (item : α) (f : β → γ) :
    RunsOver [item] (fun _ _ act => f <$> act item : Traversal α β γ) := by
  refine ⟨fun results => (results.head?.map f).getD default, fun m _ _ act => ?_⟩
  simp

theorem mapped (h : RunsOver items run) (f : γ → δ) :
    RunsOver items (fun m _ act => f <$> run m act : Traversal α β δ) := by
  obtain ⟨build, runs⟩ := h
  refine ⟨fun results => f (build results), fun m _ _ act => ?_⟩
  simp [runs]

theorem andThen (h : RunsOver items run) (h' : RunsOver items' run') (f : γ → δ → ε) :
    RunsOver (items ++ items')
      (fun m _ act => run m act >>= fun first => f first <$> run' m act : Traversal α β ε) := by
  obtain ⟨build, runs⟩ := h
  obtain ⟨build', runs'⟩ := h'
  refine ⟨fun results =>
    f (build (results.take items.length)) (build' (results.drop items.length)), ?_⟩
  intro m _ _ act
  simp only [runs, runs', List.mapM_append, bind_map_left, map_bind, map_pure]
  -- The action gave one result for each item, so that the results can be told apart again.
  refine bind_mapM_congr fun results length => ?_
  simp [← length]

theorem congr {other : Traversal α β γ} (h : RunsOver items run)
    (same : ∀ (m : Type → Type) [Monad m] [LawfulMonad m] (act : α → m β),
      other m act = run m act) : RunsOver items other := by
  obtain ⟨build, runs⟩ := h
  exact ⟨build, fun m _ _ act => (same m act).trans (runs m act)⟩

theorem each {κ : Type} {visited : κ → List α} {run : κ → Traversal α β γ} (parts : List κ)
    (h : ∀ part ∈ parts, RunsOver (visited part) (run part)) :
    RunsOver (parts.flatMap visited)
      (fun m _ act => parts.mapM fun part => run part m act : Traversal α β (List γ)) := by
  induction parts with
  | nil => exact (nothing []).congr fun m _ _ act => List.mapM_nil
  | cons part parts ih =>
    obtain ⟨first, later⟩ := List.forall_mem_cons.1 h
    refine (first.andThen (ih later) List.cons).congr fun m _ _ act => ?_
    simp [List.mapM_cons]

end RunsOver

end RunsOver

variable {ρ σ : Type} {m : Type → Type} [Monad m]

private theorem mapM_eq_pure_map {α β : Type} [LawfulMonad m] {f : α → m β} {g : α → β}
    {items : List α}
    (each : ∀ item ∈ items, f item = pure (g item)) : items.mapM f = pure (items.map g) := by
  induction items with
  | nil => exact List.mapM_nil
  | cons item rest ih =>
    obtain ⟨first, later⟩ := List.forall_mem_cons.1 each
    rw [List.mapM_cons, first, pure_bind, ih later, pure_bind, List.map_cons]

def FieldLabel.withProperties (label : FieldLabel) (properties : Properties) : FieldLabel :=
  { label with info := { label.info with properties } }

namespace TypeExpr

mutual

/-- Replaces the properties of every field of every product: of a field first, and then of the
fields inside its type. -/
def updateFields (act : Field (TypeExpr ρ) → m Properties) : TypeExpr ρ → m (TypeExpr ρ)
  | .unit info => return .unit info
  | .basic info scalar => return .basic info scalar
  | .named info name reference => return .named info name reference
  | .product info fields => return .product info (← updateFieldList act fields)
  | .emptyProduct info => return .emptyProduct info
  | .list info element => return .list info (← element.updateFields act)
  | .set info element => return .set info (← element.updateFields act)
  | .dict info key value => do
    let key ← key.updateFields act
    return .dict info key (← value.updateFields act)
  | .optional info element => return .optional info (← element.updateFields act)
  | .function info argument result => do
    let argument ← argument.updateFields act
    return .function info argument (← result.updateFields act)

def updateFieldList (act : Field (TypeExpr ρ) → m Properties) :
    List (Field (TypeExpr ρ)) → m (List (Field (TypeExpr ρ)))
  | [] => return []
  | ⟨label, type⟩ :: rest => do
    let properties ← act ⟨label, type⟩
    let type ← type.updateFields act
    return ⟨label.withProperties properties, type⟩ :: (← updateFieldList act rest)

end

mutual

def updateReferences (act : Reference ρ → m σ) : TypeExpr ρ → m (TypeExpr σ)
  | .unit info => return .unit info
  | .basic info scalar => return .basic info scalar
  | .named info name reference => return .named info name (← act ⟨name, reference, info.position⟩)
  | .product info fields => return .product info (← updateFieldReferences act fields)
  | .emptyProduct info => return .emptyProduct info
  | .list info element => return .list info (← element.updateReferences act)
  | .set info element => return .set info (← element.updateReferences act)
  | .dict info key value => do
    let key ← key.updateReferences act
    return .dict info key (← value.updateReferences act)
  | .optional info element => return .optional info (← element.updateReferences act)
  | .function info argument result => do
    let argument ← argument.updateReferences act
    return .function info argument (← result.updateReferences act)

def updateFieldReferences (act : Reference ρ → m σ) :
    List (Field (TypeExpr ρ)) → m (List (Field (TypeExpr σ)))
  | [] => return []
  | ⟨label, type⟩ :: rest => do
    let type ← type.updateReferences act
    return ⟨label, type⟩ :: (← updateFieldReferences act rest)

end

mutual

def fields : TypeExpr ρ → List (Field (TypeExpr ρ))
  | .unit _ | .basic .. | .named .. | .emptyProduct _ => []
  | .product _ fields => allFields fields
  | .list _ element | .set _ element | .optional _ element => element.fields
  | .dict _ key value => key.fields ++ value.fields
  | .function _ argument result => argument.fields ++ result.fields

def allFields : List (Field (TypeExpr ρ)) → List (Field (TypeExpr ρ))
  | [] => []
  | ⟨label, type⟩ :: rest => ⟨label, type⟩ :: (type.fields ++ allFields rest)

end

private theorem allFields_eq (fields : List (Field (TypeExpr ρ))) :
    allFields fields = fields.flatMap fun field => field :: field.type.fields := by
  induction fields with
  | nil => rfl
  | cons field rest ih => rw [allFields, ih, List.flatMap_cons, List.cons_append]

def updateField (act : Field (TypeExpr ρ) → m Properties) (field : Field (TypeExpr ρ)) :
    m (Field (TypeExpr ρ)) :=
  act field >>= fun properties =>
    Field.mk (field.toFieldLabel.withProperties properties) <$> field.type.updateFields act

private theorem updateFieldList_eq [LawfulMonad m] (act : Field (TypeExpr ρ) → m Properties)
    (fields : List (Field (TypeExpr ρ))) :
    updateFieldList act fields = fields.mapM (updateField act) := by
  induction fields with
  | nil => rw [updateFieldList, List.mapM_nil]
  | cons field rest ih =>
    rw [updateFieldList, ih, List.mapM_cons]
    simp [updateField]

private theorem updateFieldReferences_eq [LawfulMonad m] (act : Reference ρ → m σ)
    (fields : List (Field (TypeExpr ρ))) :
    updateFieldReferences act fields =
      fields.mapM fun field => Field.mk field.toFieldLabel <$> field.type.updateReferences act := by
  induction fields with
  | nil => rw [updateFieldReferences, List.mapM_nil]
  | cons field rest ih =>
    rw [updateFieldReferences, ih, List.mapM_cons]
    simp

private theorem runsOver_updateField {field : Field (TypeExpr ρ)}
    (inside : RunsOver field.type.fields fun _ _ act => field.type.updateFields act) :
    RunsOver (field :: field.type.fields) fun _ _ act => updateField act field := by
  refine ((RunsOver.once field id).andThen inside fun properties =>
    Field.mk (field.toFieldLabel.withProperties properties)).congr fun m _ _ act => ?_
  simp [updateField]

private theorem runsOver_updateFieldList {fields : List (Field (TypeExpr ρ))}
    (inside : ∀ field ∈ fields,
      RunsOver field.type.fields fun _ _ act => field.type.updateFields act) :
    RunsOver (allFields fields) fun _ _ act => updateFieldList act fields := by
  rw [allFields_eq]
  refine (RunsOver.each fields fun field member => ?_).congr fun m _ _ act =>
    updateFieldList_eq act fields
  exact runsOver_updateField (inside field member)

theorem runsOver_updateFields (type : TypeExpr ρ) :
    RunsOver type.fields fun _ _ act => type.updateFields act := by
  induction type using TypeExpr.induction with
  | unit | basic | named | emptyProduct => exact .nothing _
  | product info fields ih =>
    refine ((runsOver_updateFieldList ih).mapped (.product info)).congr fun m _ _ act => ?_
    simp [updateFields]
  | list info element ih =>
    exact (ih.mapped (.list info)).congr fun m _ _ act => by simp [updateFields]
  | set info element ih =>
    exact (ih.mapped (.set info)).congr fun m _ _ act => by simp [updateFields]
  | optional info element ih =>
    exact (ih.mapped (.optional info)).congr fun m _ _ act => by simp [updateFields]
  | dict info key value ihKey ihValue =>
    exact (ihKey.andThen ihValue (.dict info)).congr fun m _ _ act => by simp [updateFields]
  | function info argument result ihArgument ihResult =>
    refine (ihArgument.andThen ihResult (.function info)).congr fun m _ _ act => ?_
    simp [updateFields]

private theorem runsOver_updateFieldReferences {fields : List (Field (TypeExpr ρ))}
    (inside : ∀ field ∈ fields, RunsOver field.type.references
      (fun _ _ act => field.type.updateReferences act : Traversal (Reference ρ) σ (TypeExpr σ))) :
    RunsOver (fieldReferences fields)
      (fun _ _ act => updateFieldReferences act fields :
        Traversal (Reference ρ) σ (List (Field (TypeExpr σ)))) := by
  rw [fieldReferences_eq]
  refine (RunsOver.each fields fun field member => ?_).congr fun m _ _ act =>
    updateFieldReferences_eq act fields
  exact (inside field member).mapped (Field.mk field.toFieldLabel)

theorem runsOver_updateReferences (type : TypeExpr ρ) :
    RunsOver type.references
      (fun _ _ act => type.updateReferences act : Traversal (Reference ρ) σ (TypeExpr σ)) := by
  induction type using TypeExpr.induction with
  | unit | basic | emptyProduct => exact .nothing _
  | named info name reference =>
    -- There may be no payload at all, but then the action gives none either.
    have : Inhabited (TypeExpr σ) := ⟨.unit info⟩
    exact (RunsOver.once _ (.named info name)).congr fun m _ _ act => by simp [updateReferences]
  | product info fields ih =>
    refine ((runsOver_updateFieldReferences ih).mapped (.product info)).congr fun m _ _ act => ?_
    simp [updateReferences]
  | list info element ih =>
    exact (ih.mapped (.list info)).congr fun m _ _ act => by simp [updateReferences]
  | set info element ih =>
    exact (ih.mapped (.set info)).congr fun m _ _ act => by simp [updateReferences]
  | optional info element ih =>
    exact (ih.mapped (.optional info)).congr fun m _ _ act => by simp [updateReferences]
  | dict info key value ihKey ihValue =>
    exact (ihKey.andThen ihValue (.dict info)).congr fun m _ _ act => by simp [updateReferences]
  | function info argument result ihArgument ihResult =>
    refine (ihArgument.andThen ihResult (.function info)).congr fun m _ _ act => ?_
    simp [updateReferences]

theorem references_eq_walk (type : TypeExpr ρ) :
    type.references = type.walk.filterMap ownReference? := by
  induction type using TypeExpr.induction with
  | unit | basic | named | emptyProduct => rfl
  | product info fields ih =>
    rw [references, walk, fieldReferences_eq, walkFields_eq, List.filterMap_cons_none rfl,
      List.filterMap_flatMap]
    exact List.flatMap_congr ih
  | list info element ih | set info element ih | optional info element ih =>
    rw [references, walk, List.filterMap_cons_none rfl, ih]
  | dict info first second ihFirst ihSecond | function info first second ihFirst ihSecond =>
    rw [references, walk, List.filterMap_cons_none rfl, List.filterMap_append, ihFirst, ihSecond]

section Pure

variable [LawfulMonad m]

theorem updateFieldList_pure {replace : FieldLabel → Properties}
    {fields : List (Field (TypeExpr ρ))}
    (inside : ∀ field ∈ fields,
      field.type.updateFields (fun field => (pure (replace field.toFieldLabel) : m Properties)) =
        pure (field.type.mapFields fun label => label.withProperties (replace label))) :
    updateFieldList (fun field => (pure (replace field.toFieldLabel) : m Properties)) fields =
      pure (mapFieldList (fun label => label.withProperties (replace label)) fields) := by
  rw [updateFieldList_eq, mapFieldList_eq]
  refine mapM_eq_pure_map fun field member => ?_
  rw [updateField, inside field member, pure_bind, map_pure]

/-- An action without effect makes of the fields what a function of their labels makes of them. -/
theorem updateFields_pure (replace : FieldLabel → Properties) (type : TypeExpr ρ) :
    type.updateFields (fun field => (pure (replace field.toFieldLabel) : m Properties)) =
      pure (type.mapFields fun label => label.withProperties (replace label)) := by
  induction type using TypeExpr.induction with
  | unit | basic | named | emptyProduct => rfl
  | product info fields ih =>
    rw [updateFields, mapFields, updateFieldList_pure ih, pure_bind]
  | list info element ih | set info element ih | optional info element ih =>
    simp only [updateFields, mapFields, ih, pure_bind]
  | dict info first second ihFirst ihSecond | function info first second ihFirst ihSecond =>
    simp only [updateFields, mapFields, ihFirst, ihSecond, pure_bind]

theorem updateFieldReferences_pure {f : String → ρ → Position → σ}
    {fields : List (Field (TypeExpr ρ))}
    (inside : ∀ field ∈ fields,
      field.type.updateReferences (fun r => (pure (f r.name r.payload r.position) : m σ)) =
        pure (field.type.mapReferences f)) :
    updateFieldReferences (fun r => (pure (f r.name r.payload r.position) : m σ)) fields =
      pure (mapFieldReferences f fields) := by
  rw [updateFieldReferences_eq, mapFieldReferences_eq]
  refine mapM_eq_pure_map fun field member => ?_
  rw [inside field member, map_pure]

theorem updateReferences_pure (f : String → ρ → Position → σ) (type : TypeExpr ρ) :
    type.updateReferences (fun r => (pure (f r.name r.payload r.position) : m σ)) =
      pure (type.mapReferences f) := by
  induction type using TypeExpr.induction with
  | unit | basic | emptyProduct => rfl
  | named => simp only [updateReferences, mapReferences, pure_bind]
  | product info fields ih =>
    rw [updateReferences, mapReferences, updateFieldReferences_pure ih, pure_bind]
  | list info element ih | set info element ih | optional info element ih =>
    simp only [updateReferences, mapReferences, ih, pure_bind]
  | dict info first second ihFirst ihSecond | function info first second ihFirst ihSecond =>
    simp only [updateReferences, mapReferences, ihFirst, ihSecond, pure_bind]

end Pure

end TypeExpr

namespace Body

def updateFields (act : Field (TypeExpr ρ) → m Properties) : Body ρ → m (Body ρ)
  | .alias type => return .alias (← type.updateFields act)
  | .sum constructors => do
    let constructors ← constructors.mapM fun c => do
      let fields ← TypeExpr.updateFieldList act c.fields
      return { c with fields }
    return .sum constructors
  | .enum labels => return .enum labels
  | .restricted restriction => return .restricted restriction

def updateReferences (act : TypeExpr.Reference ρ → m σ) : Body ρ → m (Body σ)
  | .alias type => return .alias (← type.updateReferences act)
  | .sum constructors => do
    let constructors ← constructors.mapM fun c => do
      let fields ← TypeExpr.updateFieldReferences act c.fields
      return { name := c.name, fields, position := c.position }
    return .sum constructors
  | .enum labels => return .enum labels
  | .restricted restriction => return .restricted restriction

def fields : Body ρ → List (Field (TypeExpr ρ))
  | .alias type => type.fields
  | .sum constructors => constructors.flatMap fun c => TypeExpr.allFields c.fields
  | .enum _ | .restricted _ => []

theorem runsOver_updateFields (body : Body ρ) :
    RunsOver body.fields fun _ _ act => body.updateFields act := by
  cases body with
  | «alias» type =>
    exact (type.runsOver_updateFields.mapped .alias).congr fun m _ _ act => by simp [updateFields]
  | sum constructors =>
    have each := RunsOver.each constructors fun c _ =>
      (TypeExpr.runsOver_updateFieldList fun field (_ : field ∈ c.fields) =>
        field.type.runsOver_updateFields).mapped fun fields => { c with fields }
    refine (each.mapped .sum).congr fun m _ _ act => ?_
    simp [updateFields]
  | enum | restricted => exact .nothing _

theorem runsOver_updateReferences (body : Body ρ) :
    RunsOver body.references
      (fun _ _ act => body.updateReferences act :
        Traversal (TypeExpr.Reference ρ) σ (Body σ)) := by
  cases body with
  | «alias» type =>
    refine (type.runsOver_updateReferences.mapped .alias).congr fun m _ _ act => ?_
    simp [updateReferences]
  | sum constructors =>
    have each := RunsOver.each constructors fun c _ =>
      (TypeExpr.runsOver_updateFieldReferences fun field (_ : field ∈ c.fields) =>
        field.type.runsOver_updateReferences (σ := σ)).mapped fun fields =>
        ({ name := c.name, fields, position := c.position } : Constructor σ)
    refine (each.mapped .sum).congr fun m _ _ act => ?_
    simp [updateReferences]
  | enum | restricted => exact .nothing _

theorem references_eq_walk (body : Body ρ) :
    body.references = body.walk.filterMap TypeExpr.ownReference? := by
  cases body with
  | «alias» type => exact type.references_eq_walk
  | sum constructors =>
    simp only [references, walk, TypeExpr.fieldReferences_eq, TypeExpr.walkFields_eq,
      TypeExpr.references_eq_walk, List.filterMap_flatMap]
  | enum | restricted => rfl

section Pure

variable [LawfulMonad m]

theorem updateFields_pure (replace : FieldLabel → Properties) (body : Body ρ) :
    body.updateFields (fun field => (pure (replace field.toFieldLabel) : m Properties)) =
      pure (body.mapFields fun label => label.withProperties (replace label)) := by
  cases body with
  | «alias» type => simp only [updateFields, mapFields, TypeExpr.updateFields_pure, pure_bind]
  | sum constructors =>
    have each (c : Constructor ρ) :=
      TypeExpr.updateFieldList_pure (m := m) fun field (_ : field ∈ c.fields) =>
        field.type.updateFields_pure replace
    simp only [updateFields, mapFields, each, pure_bind, List.mapM_pure]
  | enum | restricted => rfl

theorem updateReferences_pure (f : String → ρ → Position → σ) (body : Body ρ) :
    body.updateReferences (fun r => (pure (f r.name r.payload r.position) : m σ)) =
      pure (body.mapReferences f) := by
  cases body with
  | «alias» type =>
    simp only [updateReferences, mapReferences, TypeExpr.updateReferences_pure, pure_bind]
  | sum constructors =>
    have each (c : Constructor ρ) :=
      TypeExpr.updateFieldReferences_pure (m := m) fun field (_ : field ∈ c.fields) =>
        field.type.updateReferences_pure f
    simp only [updateReferences, mapReferences, each, pure_bind, List.mapM_pure]
  | enum | restricted => rfl

end Pure

end Body

namespace Part

def field? : Part ρ → Option (Field (TypeExpr ρ))
  | .field _ own => some own
  | .declaration _ | .type .. => none

def type? : Part ρ → Option (TypeExpr ρ)
  | .type _ own => some own
  | .declaration _ | .field .. => none

def fields : Part ρ → List (Field (TypeExpr ρ))
  | .declaration d => d.body.fields
  | .field _ own => own :: own.type.fields
  | .type _ own => own.fields

def types : Part ρ → List (TypeExpr ρ)
  | .declaration d => d.body.walk
  | .field _ own => own.type.walk
  | .type _ own => own.walk

theorem fields_eq_children (part : Part ρ) :
    part.fields = part.field?.toList ++ part.children.flatMap fields := by
  have ofFields (scope : String) (own : List (Field (TypeExpr ρ))) :
      TypeExpr.allFields own = (Part.ofFields scope own).flatMap fields := by
    rw [TypeExpr.allFields_eq, Part.ofFields, List.flatMap_map]
    rfl
  cases part with
  | declaration d =>
    obtain ⟨name, body, info⟩ := d
    cases body with
    | sum constructors =>
      simp only [fields, Body.fields, field?, children, ofBody, List.flatMap_assoc, ← ofFields]
      rfl
    | _ => simp [fields, Body.fields, field?, children, ofBody]
  | field path own => simp [fields, field?, children]
  | type path own =>
    cases own with
    | product info own => exact ofFields path own
    | _ => simp [fields, TypeExpr.fields, field?, children, ofType]

theorem types_eq_children (part : Part ρ) :
    part.types = part.type?.toList ++ part.children.flatMap types := by
  have ofFields (scope : String) (own : List (Field (TypeExpr ρ))) :
      TypeExpr.walkFields own = (Part.ofFields scope own).flatMap types := by
    rw [TypeExpr.walkFields_eq, Part.ofFields, List.flatMap_map]
    rfl
  cases part with
  | declaration d =>
    obtain ⟨name, body, info⟩ := d
    cases body with
    | sum constructors =>
      simp only [types, Body.walk, type?, children, ofBody, List.flatMap_assoc, ← ofFields]
      rfl
    | _ => simp [types, Body.walk, type?, children, ofBody]
  | field path own => simp [types, type?, children]
  | type path own =>
    cases own with
    | product info own => exact congrArg _ (ofFields path own)
    | _ => simp [types, TypeExpr.walk, type?, children, ofType]

/-- The parts of a part in the order of their places. A traversal that gives something for a part
and then goes through the parts right inside it gives what it gives for each of them in this
order. -/
theorem exists_parts (part : Part ρ) :
    ∃ parts : List (Part ρ), Enumerates part.at? parts ∧
      ∀ (β : Type) (own visit : Part ρ → List β),
        (∀ part, visit part = own part ++ part.children.flatMap visit) →
        visit part = parts.flatMap own := by
  induction part using childInduction with
  | step part ih =>
    -- One list for every child, chosen before the traversal is known.
    have each : ∀ child, ∃ parts : List (Part ρ), child ∈ part.children →
        Enumerates child.at? parts ∧ ∀ (β : Type) (own visit : Part ρ → List β),
          (∀ part, visit part = own part ++ part.children.flatMap visit) →
          visit child = parts.flatMap own := by
      intro child
      by_cases inside : child ∈ part.children
      · obtain ⟨parts, holds⟩ := ih child inside
        exact ⟨parts, fun _ => holds⟩
      · exact ⟨[], fun among => absurd among inside⟩
    choose listed holds using each
    refine ⟨part :: part.children.flatMap listed, ?_, fun β own visit step => ?_⟩
    · exact .root rfl (fun _ _ => rfl) fun child inside => (holds child inside).1
    · rw [step, List.flatMap_cons, List.flatMap_assoc]
      congr 1
      exact List.flatMap_congr fun child inside => (holds child inside).2 β own visit step

end Part

/-- One sequence of parts is behind all traversals of a declaration: the parts at all of its places,
each once and from left to right. Slot validation visits these parts; an action on the fields of the
body runs over the fields among them, whatever its effect is; a walk gives the types among them; and
an action on references runs over the references of the walk. Without an effect these actions make
of the body what `mapFields` and `mapReferences` make of it. -/
theorem traversals_agree (declaration : Declaration ρ) :
    (∃ parts : List (Part ρ), Enumerates (Part.declaration declaration).at? parts ∧
      declaration.nodes = parts.map Part.node ∧
      RunsOver (parts.filterMap Part.field?)
        (fun _ _ act => declaration.body.updateFields act :
          Traversal (Field (TypeExpr ρ)) Properties (Body ρ)) ∧
      declaration.body.walk = parts.filterMap Part.type? ∧
      RunsOver (declaration.body.walk.filterMap TypeExpr.ownReference?)
        (fun _ _ act => declaration.body.updateReferences act :
          Traversal (TypeExpr.Reference ρ) σ (Body σ))) ∧
    (∀ (m : Type → Type) [Monad m] [LawfulMonad m] (replace : FieldLabel → Properties),
      declaration.body.updateFields
          (fun field => (pure (replace field.toFieldLabel) : m Properties)) =
        pure (declaration.body.mapFields fun label => label.withProperties (replace label))) ∧
    ∀ (m : Type → Type) [Monad m] [LawfulMonad m] (f : String → ρ → Position → σ),
      declaration.body.updateReferences
          (fun r => (pure (f r.name r.payload r.position) : m σ)) =
        pure (declaration.body.mapReferences f) := by
  obtain ⟨parts, enumerated, visits⟩ := (Part.declaration declaration).exists_parts
  have nodes : declaration.nodes = parts.flatMap fun part => [part.node] :=
    visits _ _ Part.nodes Part.nodes_eq_children
  have fields : declaration.body.fields = parts.flatMap (·.field?.toList) :=
    visits _ _ Part.fields Part.fields_eq_children
  have types : declaration.body.walk = parts.flatMap (·.type?.toList) :=
    visits _ _ Part.types Part.types_eq_children
  rw [← List.map_eq_flatMap] at nodes
  rw [← List.filterMap_eq_flatMap_toList] at fields types
  refine ⟨⟨parts, enumerated, nodes, ?_, types, ?_⟩, ?_, ?_⟩
  · rw [← fields]
    exact declaration.body.runsOver_updateFields
  · rw [← Body.references_eq_walk]
    exact declaration.body.runsOver_updateReferences
  · exact fun m _ _ replace => declaration.body.updateFields_pure replace
  · exact fun m _ _ f => declaration.body.updateReferences_pure f

end WireModel
