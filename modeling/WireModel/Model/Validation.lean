import WireModel.Model.Traversal

/-! Scoping rules of a model: names do not repeat within their scope, and no sum, enumeration or
product is empty. Every breach is reported, in the order of the declarations. -/
namespace WireModel

variable {ρ : Type}

inductive ModelError where
  | duplicateDeclaration (name : String) (position : Position)
  | duplicateField (scope field : String) (position : Position)
  | duplicateConstructor (declaration constructor : String) (position : Position)
  | duplicateLabel (declaration label : String) (position : Position)
  | empty (declaration what : String) (position : Position)
deriving DecidableEq, Repr

def ModelError.message : ModelError → String
  | .duplicateDeclaration name _ => s!"duplicate declaration `{name}`"
  | .duplicateField scope field _ => s!"duplicate field `{field}` in `{scope}`"
  | .duplicateConstructor declaration constructor _ =>
    s!"duplicate constructor `{constructor}` in `{declaration}`"
  | .duplicateLabel declaration label _ => s!"duplicate label `{label}` in `{declaration}`"
  | .empty declaration what _ => s!"`{declaration}` declares an empty {what}"

def ifRepeated {ε : Type} (seen : List String) (name : String) (error : ε) : List ε :=
  if seen.contains name then [error] else []

def repeatedFields (scope : String) (seen : List String) :
    List (Field (TypeExpr ρ)) → List ModelError
  | [] => []
  | field :: rest =>
    ifRepeated seen field.name (.duplicateField scope field.name field.info.position) ++
      repeatedFields scope (field.name :: seen) rest

/-- What is wrong with a node itself: only products can be wrong. -/
def productErrors (scope : String) : TypeExpr ρ → List ModelError
  | .product info fields =>
    (if fields.isEmpty then [.empty scope "product" info.position] else []) ++
      repeatedFields scope [] fields
  | _ => []

def typeErrors (scope : String) (type : TypeExpr ρ) : List ModelError :=
  type.walk.flatMap (productErrors scope)

def fieldErrors (scope : String) (seen : List String) :
    List (Field (TypeExpr ρ)) → List ModelError
  | [] => []
  | field :: rest =>
    ifRepeated seen field.name (.duplicateField scope field.name field.info.position) ++
      typeErrors scope field.type ++ fieldErrors scope (field.name :: seen) rest

def constructorErrors (declaration : Declaration ρ) (seen : List String) :
    List (Constructor ρ) → List ModelError
  | [] => []
  | constructor :: rest =>
    ifRepeated seen constructor.name
        (.duplicateConstructor declaration.name constructor.name constructor.position) ++
      fieldErrors (declaration.scopeOf constructor) [] constructor.fields ++
      constructorErrors declaration (constructor.name :: seen) rest

def labelErrors (declaration : Declaration ρ) (seen : List String) : List String → List ModelError
  | [] => []
  | label :: rest =>
    ifRepeated seen label
        (.duplicateLabel declaration.name label declaration.info.position) ++
      labelErrors declaration (label :: seen) rest

def bodyErrors (declaration : Declaration ρ) : List ModelError :=
  let empty := fun what => ModelError.empty declaration.name what declaration.info.position
  match declaration.body with
  | .alias type => typeErrors declaration.name type
  | .sum constructors =>
    (if constructors.isEmpty then [empty "sum"] else []) ++
      constructorErrors declaration [] constructors
  | .enum labels =>
    (if labels.isEmpty then [empty "enum"] else []) ++ labelErrors declaration [] labels
  | .restricted _ => []

def declarationErrors (seen : List String) : List (Declaration ρ) → List ModelError
  | [] => []
  | declaration :: rest =>
    ifRepeated seen declaration.name
        (.duplicateDeclaration declaration.name declaration.info.position) ++
      bodyErrors declaration ++ declarationErrors (declaration.name :: seen) rest

def modelErrors (declarations : List (Declaration ρ)) : List ModelError :=
  declarationErrors [] declarations

/-- Declarations that keep the scoping rules, with references still to be resolved. -/
structure Draft where
  declarations : List (Declaration Unit)
  wellScoped : modelErrors declarations = []

def Draft.ofDeclarations (declarations : List (Declaration Unit)) :
    Except (List ModelError) Draft :=
  if h : modelErrors declarations = [] then .ok ⟨declarations, h⟩
  else .error (modelErrors declarations)

end WireModel
