import WireModel.Model.Classified

/-! The nodes of a model that carry properties: the model itself, declarations, fields and types.
They come in the order in which the model is written, a node before its parts. -/
namespace WireModel

inductive NodeKind where
  | top
  | alias
  | sum
  | enum
  | restricted
  | field
  | unit
  | basic
  | named
  | product
  | emptyProduct
  | container
  | function
deriving DecidableEq, Repr

namespace NodeKind

def all : List NodeKind :=
  [.top, .alias, .sum, .enum, .restricted, .field, .unit, .basic, .named, .product,
    .emptyProduct, .container, .function]

def text : NodeKind → String
  | .top => "top"
  | .alias => "alias"
  | .sum => "sum"
  | .enum => "enum"
  | .restricted => "restricted"
  | .field => "field"
  | .unit => "unit"
  | .basic => "basic"
  | .named => "named"
  | .product => "product"
  | .emptyProduct => "empty_product"
  | .container => "container"
  | .function => "function"

def ofText? (text : String) : Option NodeKind :=
  all.find? (·.text = text)

def ofDeclaration : DeclarationKind → NodeKind
  | .alias => .alias
  | .sum => .sum
  | .enum => .enum
  | .restricted => .restricted

def ofType {ρ : Type} : TypeExpr ρ → NodeKind
  | .unit _ => .unit
  | .basic .. => .basic
  | .named .. => .named
  | .product .. => .product
  | .emptyProduct _ => .emptyProduct
  | .list .. | .set .. | .dict .. | .optional .. => .container
  | .function .. => .function

end NodeKind

structure Node where
  kind : NodeKind
  path : String
  info : Info

variable {ρ : Type}

mutual

def TypeExpr.nodes (path : String) : TypeExpr ρ → List Node
  | .unit info => [⟨.unit, path, info⟩]
  | .basic info _ => [⟨.basic, path, info⟩]
  | .named info _ _ => [⟨.named, path, info⟩]
  | .product info fields => ⟨.product, path, info⟩ :: TypeExpr.fieldNodes path fields
  | .emptyProduct info => [⟨.emptyProduct, path, info⟩]
  | .list info element | .set info element | .optional info element =>
    ⟨.container, path, info⟩ :: element.nodes (path ++ "<element>")
  | .dict info key value =>
    ⟨.container, path, info⟩ :: (key.nodes (path ++ "<key>") ++ value.nodes (path ++ "<value>"))
  | .function info argument result =>
    ⟨.function, path, info⟩ ::
      (argument.nodes (path ++ "<argument>") ++ result.nodes (path ++ "<result>"))

/-- The nodes of fields inside `scope`: each field, then its type. -/
def TypeExpr.fieldNodes (scope : String) : List (Field (TypeExpr ρ)) → List Node
  | [] => []
  | ⟨label, type⟩ :: rest =>
    let path := scope ++ "." ++ label.name
    ⟨.field, path, label.info⟩ :: (type.nodes path ++ TypeExpr.fieldNodes scope rest)

end

def Declaration.nodes (declaration : Declaration ρ) : List Node :=
  ⟨.ofDeclaration declaration.body.kind, declaration.name, declaration.info⟩ ::
    match declaration.body with
    | .alias type => type.nodes declaration.name
    | .sum constructors =>
      constructors.flatMap fun c => TypeExpr.fieldNodes (declaration.scopeOf c) c.fields
    | .enum _ | .restricted _ => []

def Model.nodes (model : Model) : List Node :=
  ⟨.top, "model", { properties := model.properties }⟩ :: model.declarations.flatMap (·.nodes)

end WireModel
