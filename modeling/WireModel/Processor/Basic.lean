import WireModel.Processor.Coding
import WireModel.Processor.Docs

/-! Processors by name, and running several of them one after another. -/
namespace WireModel

inductive Processor where
  | coding
  | docs
deriving DecidableEq, Repr

inductive ProcessorError where
  | coding (error : Coding.Error)
  | docs (error : Docs.Error)
deriving DecidableEq

namespace ProcessorError

def message : ProcessorError → String
  | .coding error => error.message
  | .docs error => error.message

def position : ProcessorError → Position
  | .coding error => error.position
  | .docs error => error.position

end ProcessorError

namespace Processor

def all : List Processor := [.coding, .docs]

def name : Processor → String
  | .coding => "coding"
  | .docs => "docs"

def ofName? (name : String) : Option Processor :=
  all.find? (·.name = name)

def defaults : Processor → Defaults
  | .coding => Coding.defaults
  | .docs => Docs.defaults

def check [Pattern.Engine] (processor : Processor) (model : Model) :
    Except (List ProcessorError) Model :=
  match processor with
  | .coding => (Coding.check model).mapError (·.map .coding)
  | .docs => (Docs.check model).mapError (·.map .docs)

def renderError (processor : Processor) (renderPosition : Position → String)
    (error : ProcessorError) : String :=
  s!"{renderPosition error.position}: [{processor.name}] {error.message}"

end Processor

structure Halt (π ε : Type) where
  index : Nat
  processor : π
  errors : List ε

section Thread

variable {π ε : Type}

/-- Threads a model through processors and stops at the first that fails; `index` counts those
that ran before. A check may act as it runs. -/
def threadFromM {m : Type → Type} [Monad m] (check : π → Model → m (Except (List ε) Model))
    (index : Nat) : List π → Model → m (Except (Halt π ε) Model)
  | [], model => return .ok model
  | processor :: rest, model => do
    match ← check processor model with
    | .ok next => threadFromM check (index + 1) rest next
    | .error errors => return .error ⟨index, processor, errors⟩

def threadFrom (check : π → Model → Except (List ε) Model) (index : Nat) (processors : List π)
    (model : Model) : Except (Halt π ε) Model :=
  Id.run (threadFromM (fun processor model => pure (check processor model)) index processors model)

def thread (check : π → Model → Except (List ε) Model) (processors : List π) (model : Model) :
    Except (Halt π ε) Model :=
  threadFrom check 0 processors model

end Thread

end WireModel
