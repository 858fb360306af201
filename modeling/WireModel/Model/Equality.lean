import WireModel.Model.Basic

/-! Equality of model parts up to positions: where a node was written is no part of what it says. -/
namespace WireModel

variable {ρ : Type} [DecidableEq ρ]

namespace TypeExpr

mutual

/-- Equal but for positions. -/
def same : TypeExpr ρ → TypeExpr ρ → Bool
  | .unit a, .unit b => a.properties = b.properties
  | .basic a x, .basic b y => a.properties = b.properties && x = y
  | .named a x r, .named b y s => a.properties = b.properties && x = y && r = s
  | .product a x, .product b y => a.properties = b.properties && sameFields x y
  | .emptyProduct a, .emptyProduct b => a.properties = b.properties
  | .list a x, .list b y => a.properties = b.properties && x.same y
  | .set a x, .set b y => a.properties = b.properties && x.same y
  | .dict a k x, .dict b l y => a.properties = b.properties && k.same l && x.same y
  | .optional a x, .optional b y => a.properties = b.properties && x.same y
  | .function a k x, .function b l y => a.properties = b.properties && k.same l && x.same y
  | _, _ => false

def sameFields : List (Field (TypeExpr ρ)) → List (Field (TypeExpr ρ)) → Bool
  | [], [] => true
  | ⟨a, x⟩ :: xs, ⟨b, y⟩ :: ys =>
    a.name = b.name && a.info.properties = b.info.properties && x.same y && sameFields xs ys
  | _, _ => false

end

end TypeExpr

def Constructor.same (a b : Constructor ρ) : Bool :=
  a.name = b.name && TypeExpr.sameFields a.fields b.fields

def sameItems {α : Type} (same : α → α → Bool) : List α → List α → Bool
  | [], [] => true
  | a :: as, b :: bs => same a b && sameItems same as bs
  | _, _ => false

def Body.same : Body ρ → Body ρ → Bool
  | .alias x, .alias y => x.same y
  | .sum x, .sum y => sameItems Constructor.same x y
  | .enum x, .enum y => x = y
  | .restricted x, .restricted y => x = y
  | _, _ => false

def Declaration.same (a b : Declaration ρ) : Bool :=
  a.name = b.name && a.body.same b.body && a.info.properties = b.info.properties

end WireModel
