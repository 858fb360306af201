import WireModel.Model.Resolution
import WireModel.Processor.Basic

/-! Compilation of a model: resolution, then the processors in order. -/
namespace WireModel

/-- A model that passed its processors, with the defaults of all of them. -/
structure Compiled where
  model : Model
  defaults : Defaults
  processors : List Processor

inductive CompileError where
  | unresolved (errors : List ResolveError)
  | rejected (processor : Processor) (errors : List ProcessorError)
deriving DecidableEq

namespace CompileError

def message : CompileError → String
  | .unresolved errors => s!"{errors.length} unresolved reference(s)"
  | .rejected processor errors =>
    s!"processor `{processor.name}` reported {errors.length} error(s)"

def render (renderPosition : Position → String) : CompileError → List String
  | .unresolved errors => errors.map (·.render renderPosition)
  | .rejected processor errors => errors.map (processor.renderError renderPosition)

end CompileError

def Model.run [Pattern.Engine] (model : Model) (processors : List Processor) :
    Except CompileError Model :=
  (thread Processor.check processors model).mapError fun halt =>
    .rejected halt.processor halt.errors

/-- The defaults of processors; of one slot the last processor counts. -/
def Processor.mergedDefaults (processors : List Processor) : Defaults :=
  .merged (processors.map Processor.defaults)

def compile [Pattern.Engine] (draft : Draft) (properties : Properties)
    (processors : List Processor) : Except CompileError Compiled := do
  let declarations ← (resolve draft).mapError .unresolved
  let model ← Model.run { properties, declarations } processors
  return { model, defaults := Processor.mergedDefaults processors, processors }

end WireModel
