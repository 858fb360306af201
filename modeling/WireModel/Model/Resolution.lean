import WireModel.Model.Validation

/-! Resolution of references. A reference gets the classification of the declaration that it names;
the references of the target are not followed, so recursive models resolve like any other. -/
namespace WireModel

structure ResolveError where
  name : String
  position : Position
deriving DecidableEq, Repr

def ResolveError.message (error : ResolveError) : String :=
  s!"unresolved reference `{error.name}`"

def ResolveError.render (renderPosition : Position → String) (error : ResolveError) : String :=
  s!"{renderPosition error.position}: {error.message}"

def classification? (declarations : List (Declaration Unit)) (name : String) :
    Option Classification :=
  (findDeclaration? name declarations).map (·.body.classify)

def danglingReferences (declarations : List (Declaration Unit)) (declaration : Declaration Unit) :
    List ResolveError :=
  declaration.body.references.filterMap fun reference =>
    match classification? declarations reference.name with
    | some _ => none
    | none => some ⟨reference.name, reference.position⟩

def classifyReferences (declarations : List (Declaration Unit)) (declaration : Declaration Unit) :
    Declaration Classification :=
  { name := declaration.name
    body := declaration.body.mapReferences fun name _ _ =>
      (classification? declarations name).getD .plain
    info := declaration.info }

/-- The classified declarations, or one error for each dangling reference in model order. -/
def resolve (draft : Draft) : Except (List ResolveError) (List (Declaration Classification)) :=
  let errors := draft.declarations.flatMap (danglingReferences draft.declarations)
  if errors.isEmpty then .ok (draft.declarations.map (classifyReferences draft.declarations))
  else .error errors

end WireModel
