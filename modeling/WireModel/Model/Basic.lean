import WireModel.Property.Basic

/-! Models of data: declarations of named types. Every node carries properties and the position
where it was written. References to declarations are by name, with a payload `ρ` that says what is
known about the target: nothing before resolution, a classification after it. -/
namespace WireModel

/-- Where a node was written; zero where that is not known. -/
structure Position where
  file : Option String := none
  line : UInt32 := 0
  column : UInt32 := 0
deriving DecidableEq, Repr

def Position.render (unknown : String) (position : Position) : String :=
  let file := position.file.getD unknown
  s!"{file}:{position.line}:{position.column}"

structure Info where
  properties : Properties := ∅
  position : Position := {}
deriving DecidableEq

inductive Basic where
  | bool
  | int
  | real
  | string
deriving DecidableEq, Repr

def Basic.text : Basic → String
  | .bool => "bool"
  | .int => "int"
  | .real => "real"
  | .string => "string"

/-- What a resolved reference points at: map keys treat enumerations and refinements apart. -/
inductive Classification where
  | enumeration
  | refinement (basic : Basic)
  | plain
deriving DecidableEq, Repr

structure FieldLabel where
  name : String
  info : Info := {}
deriving DecidableEq

structure Field (τ : Type) extends FieldLabel where
  type : τ

inductive TypeExpr (ρ : Type) where
  | unit (info : Info)
  | basic (info : Info) (scalar : Basic)
  | named (info : Info) (name : String) (reference : ρ)
  | product (info : Info) (fields : List (Field (TypeExpr ρ)))
  | emptyProduct (info : Info)
  | list (info : Info) (element : TypeExpr ρ)
  | set (info : Info) (element : TypeExpr ρ)
  | dict (info : Info) (key value : TypeExpr ρ)
  | optional (info : Info) (element : TypeExpr ρ)
  | function (info : Info) (argument result : TypeExpr ρ)

variable {ρ σ : Type}

namespace TypeExpr

def info : TypeExpr ρ → Info
  | .unit info | .basic info _ | .named info _ _ | .product info _ | .emptyProduct info
  | .list info _ | .set info _ | .dict info _ _ | .optional info _ | .function info _ _ => info

def withInfo (info : Info) : TypeExpr ρ → TypeExpr ρ
  | .unit _ => .unit info
  | .basic _ scalar => .basic info scalar
  | .named _ name reference => .named info name reference
  | .product _ fields => .product info fields
  | .emptyProduct _ => .emptyProduct info
  | .list _ element => .list info element
  | .set _ element => .set info element
  | .dict _ key value => .dict info key value
  | .optional _ element => .optional info element
  | .function _ argument result => .function info argument result

/-- The record of the fields; without fields it is the empty product. -/
def record (fields : List (Field (TypeExpr ρ))) : TypeExpr ρ :=
  if fields.isEmpty then .emptyProduct {} else .product {} fields

end TypeExpr

/-- Bounds and width of an integer; the width counts bits of two's complement. -/
structure IntRestriction where
  min : Option Int64 := none
  max : Option Int64 := none
  width : Option UInt32 := none
deriving DecidableEq, Repr

/-- Lengths in characters, and a pattern for the whole text. -/
structure StringRestriction where
  minLength : Option UInt64 := none
  maxLength : Option UInt64 := none
  regex : Option String := none
deriving DecidableEq, Repr

inductive Restriction where
  | int (restriction : IntRestriction)
  | string (restriction : StringRestriction)
deriving DecidableEq, Repr

def Restriction.basic : Restriction → Basic
  | .int _ => .int
  | .string _ => .string

structure Constructor (ρ : Type) where
  name : String
  fields : List (Field (TypeExpr ρ)) := []
  position : Position := {}

inductive Body (ρ : Type) where
  | alias (type : TypeExpr ρ)
  | sum (constructors : List (Constructor ρ))
  | enum (labels : List String)
  | restricted (restriction : Restriction)

inductive DeclarationKind where
  | alias
  | sum
  | enum
  | restricted
deriving DecidableEq, Repr

def DeclarationKind.text : DeclarationKind → String
  | .alias => "alias"
  | .sum => "sum"
  | .enum => "enum"
  | .restricted => "restricted"

namespace Body

def kind : Body ρ → DeclarationKind
  | .alias _ => .alias
  | .sum _ => .sum
  | .enum _ => .enum
  | .restricted _ => .restricted

def classify : Body ρ → Classification
  | .enum _ => .enumeration
  | .restricted restriction => .refinement restriction.basic
  | .alias _ | .sum _ => .plain

end Body

structure Declaration (ρ : Type) where
  name : String
  body : Body ρ
  info : Info := {}

def Declaration.scopeOf (declaration : Declaration ρ) (constructor : Constructor ρ) : String :=
  s!"{declaration.name}.{constructor.name}"

def findDeclaration? (name : String) (declarations : List (Declaration ρ)) :
    Option (Declaration ρ) :=
  declarations.find? (·.name = name)

end WireModel
