import WireModel.Model.Basic

/-! Traversals of types and bodies. All of them go from left to right and meet a node before its
parts; of a map the key comes before the value, of a function the argument before the result. -/
namespace WireModel

variable {ρ σ : Type}

namespace TypeExpr

mutual

/-- A type and all types inside it, parents first. -/
def walk : TypeExpr ρ → List (TypeExpr ρ)
  | .unit info => [.unit info]
  | .basic info scalar => [.basic info scalar]
  | .named info name reference => [.named info name reference]
  | .product info fields => .product info fields :: walkFields fields
  | .emptyProduct info => [.emptyProduct info]
  | .list info element => .list info element :: element.walk
  | .set info element => .set info element :: element.walk
  | .dict info key value => .dict info key value :: (key.walk ++ value.walk)
  | .optional info element => .optional info element :: element.walk
  | .function info argument result =>
    .function info argument result :: (argument.walk ++ result.walk)

def walkFields : List (Field (TypeExpr ρ)) → List (TypeExpr ρ)
  | [] => []
  | ⟨_, type⟩ :: rest => type.walk ++ walkFields rest

end

mutual

/-- Replaces the payload of every reference, given its name and position. -/
def mapReferences (f : String → ρ → Position → σ) : TypeExpr ρ → TypeExpr σ
  | .unit info => .unit info
  | .basic info scalar => .basic info scalar
  | .named info name reference => .named info name (f name reference info.position)
  | .product info fields => .product info (mapFieldReferences f fields)
  | .emptyProduct info => .emptyProduct info
  | .list info element => .list info (element.mapReferences f)
  | .set info element => .set info (element.mapReferences f)
  | .dict info key value => .dict info (key.mapReferences f) (value.mapReferences f)
  | .optional info element => .optional info (element.mapReferences f)
  | .function info argument result =>
    .function info (argument.mapReferences f) (result.mapReferences f)

def mapFieldReferences (f : String → ρ → Position → σ) :
    List (Field (TypeExpr ρ)) → List (Field (TypeExpr σ))
  | [] => []
  | ⟨label, type⟩ :: rest => ⟨label, type.mapReferences f⟩ :: mapFieldReferences f rest

end

structure Reference (ρ : Type) where
  name : String
  payload : ρ
  position : Position

mutual

def references : TypeExpr ρ → List (Reference ρ)
  | .unit _ | .basic .. | .emptyProduct _ => []
  | .named info name reference => [⟨name, reference, info.position⟩]
  | .product _ fields => fieldReferences fields
  | .list _ element | .set _ element | .optional _ element => element.references
  | .dict _ key value => key.references ++ value.references
  | .function _ argument result => argument.references ++ result.references

def fieldReferences : List (Field (TypeExpr ρ)) → List (Reference ρ)
  | [] => []
  | ⟨_, type⟩ :: rest => type.references ++ fieldReferences rest

end

/-- Forgets what is known about references. -/
def erase (type : TypeExpr ρ) : TypeExpr Unit :=
  type.mapReferences fun _ _ _ => ()

mutual

/-- Replaces the label of every field of every product. -/
def mapFields (f : FieldLabel → FieldLabel) : TypeExpr ρ → TypeExpr ρ
  | .unit info => .unit info
  | .basic info scalar => .basic info scalar
  | .named info name reference => .named info name reference
  | .product info fields => .product info (mapFieldList f fields)
  | .emptyProduct info => .emptyProduct info
  | .list info element => .list info (element.mapFields f)
  | .set info element => .set info (element.mapFields f)
  | .dict info key value => .dict info (key.mapFields f) (value.mapFields f)
  | .optional info element => .optional info (element.mapFields f)
  | .function info argument result => .function info (argument.mapFields f) (result.mapFields f)

def mapFieldList (f : FieldLabel → FieldLabel) :
    List (Field (TypeExpr ρ)) → List (Field (TypeExpr ρ))
  | [] => []
  | ⟨label, type⟩ :: rest => ⟨f label, type.mapFields f⟩ :: mapFieldList f rest

end

mutual

/-- The labels of the fields that `mapFields` replaces, in its order: a field before the fields
inside its type. -/
def fieldLabels : TypeExpr ρ → List FieldLabel
  | .unit _ | .basic .. | .named .. | .emptyProduct _ => []
  | .product _ fields => fieldListLabels fields
  | .list _ element | .set _ element | .optional _ element => element.fieldLabels
  | .dict _ key value => key.fieldLabels ++ value.fieldLabels
  | .function _ argument result => argument.fieldLabels ++ result.fieldLabels

def fieldListLabels : List (Field (TypeExpr ρ)) → List FieldLabel
  | [] => []
  | ⟨label, type⟩ :: rest => label :: (type.fieldLabels ++ fieldListLabels rest)

end

end TypeExpr

namespace Body

def walk : Body ρ → List (TypeExpr ρ)
  | .alias type => type.walk
  | .sum constructors => constructors.flatMap fun c => TypeExpr.walkFields c.fields
  | .enum _ | .restricted _ => []

def mapReferences (f : String → ρ → Position → σ) : Body ρ → Body σ
  | .alias type => .alias (type.mapReferences f)
  | .sum constructors =>
    .sum (constructors.map fun c =>
      { name := c.name, fields := TypeExpr.mapFieldReferences f c.fields, position := c.position })
  | .enum labels => .enum labels
  | .restricted restriction => .restricted restriction

def erase (body : Body ρ) : Body Unit :=
  body.mapReferences fun _ _ _ => ()

def references : Body ρ → List (TypeExpr.Reference ρ)
  | .alias type => type.references
  | .sum constructors => constructors.flatMap fun c => TypeExpr.fieldReferences c.fields
  | .enum _ | .restricted _ => []

def mapFields (f : FieldLabel → FieldLabel) : Body ρ → Body ρ
  | .alias type => .alias (type.mapFields f)
  | .sum constructors =>
    .sum (constructors.map fun c => { c with fields := TypeExpr.mapFieldList f c.fields })
  | .enum labels => .enum labels
  | .restricted restriction => .restricted restriction

def fieldLabels : Body ρ → List FieldLabel
  | .alias type => type.fieldLabels
  | .sum constructors => constructors.flatMap fun c => TypeExpr.fieldListLabels c.fields
  | .enum _ | .restricted _ => []

end Body

end WireModel
