import WireModel.Generation.Fragment

/-! The report on a whole model: fragments and errors, each in the order of the declarations. -/
namespace WireModel

structure FragmentCounts where
  aliases : Nat := 0
  sums : Nat := 0
  enums : Nat := 0
  refinements : Nat := 0
deriving DecidableEq, Repr

def FragmentCounts.ofKinds (kinds : List DeclarationKind) : FragmentCounts where
  aliases := kinds.count .alias
  sums := kinds.count .sum
  enums := kinds.count .enum
  refinements := kinds.count .restricted

structure Report where
  fragments : List Fragment := []
  errors : List GenerateError := []
  counts : FragmentCounts := {}

def Report.isComplete (report : Report) : Bool :=
  report.errors.isEmpty

def error? {ε α : Type} : Except ε α → Option ε
  | .ok _ => none
  | .error error => some error

def generate (defaults : Defaults) (options : Options) (model : Model) : Report :=
  let outcomes := model.declarations.map fun declaration =>
    (declaration.body.kind, requestedFragment defaults options declaration)
  { fragments := outcomes.filterMap fun outcome => outcome.2.toOption
    errors := outcomes.filterMap fun outcome => error? outcome.2
    counts := .ofKinds (outcomes.filterMap fun outcome =>
      outcome.2.toOption.map fun _ => outcome.1) }

end WireModel
