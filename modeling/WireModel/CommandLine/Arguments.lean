import WireModel.Processor.Coding

/-! The arguments of the command. Options take their value from the next argument or after an
equals sign. Each may be given once, but processors add up. -/
namespace WireModel.CommandLine

structure Invocation where
  model : String
  processors : List String := ["coding", "docs"]
  references : Option String := none
  out : Option String := none
  json : Bool := false
deriving DecidableEq, Repr

inductive Request where
  | help
  | run (invocation : Invocation)
deriving DecidableEq, Repr

inductive UsageError where
  | unexpected (argument : String)
  | missingValue (option : String)
  | repeated (option : String)
  | invalidValue (option value : String)
  | missingModel
deriving DecidableEq, Repr

def UsageError.message : UsageError → String
  | .unexpected argument => s!"unexpected argument '{argument}' found"
  | .missingValue option => s!"a value is required for '--{option}' but none was supplied"
  | .repeated option => s!"the argument '--{option}' cannot be used multiple times"
  | .invalidValue option value => s!"invalid value '{value}' for '--{option}'"
  | .missingModel => "the following required arguments were not provided: --model <MODEL>"

structure Given where
  model : Option String := none
  processors : Option (List String) := none
  references : Option String := none
  out : Option String := none
  json : Bool := false

inductive ValueOption where
  | model
  | processors
  | references
  | out
deriving DecidableEq, Repr

namespace ValueOption

def all : List ValueOption := [.model, .processors, .references, .out]

def name : ValueOption → String
  | .model => "model"
  | .processors => "processors"
  | .references => "references"
  | .out => "out"

def ofName? (name : String) : Option ValueOption :=
  all.find? (·.name = name)

end ValueOption

def givePath (option : ValueOption) (old : Option String) (value : String) :
    Except UsageError (Option String) :=
  if value.isEmpty then .error (.missingValue option.name)
  else if old.isSome then .error (.repeated option.name)
  else .ok (some value)

def Given.give (given : Given) (option : ValueOption) (value : String) :
    Except UsageError Given :=
  match option with
  | .model => return { given with model := ← givePath .model given.model value }
  | .out => return { given with out := ← givePath .out given.out value }
  | .processors =>
    .ok { given with processors := some (given.processors.getD [] ++ value.splitOn ",") }
  | .references =>
    if !Coding.referenceStyles.contains value then .error (.invalidValue option.name value)
    else if given.references.isSome then .error (.repeated option.name)
    else .ok { given with references := some value }

def Given.finish (given : Given) : Except UsageError Request :=
  match given.model with
  | none => .error .missingModel
  | some model =>
    .ok (.run {
      model
      processors := given.processors.getD ["coding", "docs"]
      references := given.references
      out := given.out
      json := given.json })

def isOption (argument : String) : Bool :=
  argument.startsWith "-" && argument ≠ "-"

/-- The name of a long option, and what stands after an equals sign. -/
def longOption (argument : String) : String × Option String :=
  let text := argument.toList.drop 2
  match text.span (· ≠ '=') with
  | (name, _ :: value) => (String.ofList name, some (String.ofList value))
  | (name, []) => (String.ofList name, none)

/-- Reads arguments from left to right. The first mistake counts, and a request for help counts
unless a mistake stands before it. -/
def readArguments (given : Given) : List String → Except UsageError Request
  | [] => given.finish
  | argument :: rest =>
    if argument = "--" then
      match rest with
      | [] => given.finish
      | extra :: _ => .error (.unexpected extra)
    else if argument.startsWith "--" then
      match longOption argument with
      | ("help", none) => .ok .help
      | ("json", none) =>
        if given.json then .error (.repeated "json")
        else readArguments { given with json := true } rest
      | (name, attached) =>
        match ValueOption.ofName? name, attached, rest with
        | none, _, _ => .error (.unexpected argument)
        | some option, some value, rest => do readArguments (← given.give option value) rest
        | some option, none, [] => .error (.missingValue option.name)
        | some option, none, value :: rest =>
          if isOption value then .error (.missingValue option.name)
          else do readArguments (← given.give option value) rest
    else if argument.startsWith "-h" then .ok .help
    else .error (.unexpected argument)

def parseArguments (arguments : List String) : Except UsageError Request :=
  readArguments {} arguments

def helpText : String :=
  String.join [
    "Generate decoders from a typegen model\n",
    "\n",
    "Usage: typegen [OPTIONS] --model <MODEL>\n",
    "\n",
    "Options:\n",
    "      --model <MODEL>            JSON model file\n",
    "      --processors <PROCESSORS>  Processors to run, in order [default: coding,docs]\n",
    "      --references <REFERENCES>  How sibling declarations are referenced; overrides the model ",
    "[possible values: decoder, codec]\n",
    "      --out <OUT>                Write the output here instead of stdout\n",
    "      --json                     Print fragments as JSON instead of a listing\n",
    "  -h, --help                     Print help\n"]

end WireModel.CommandLine
