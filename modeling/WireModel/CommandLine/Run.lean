import WireModel.CommandLine.Arguments
import WireModel.CommandLine.FileTree
import WireModel.Decoder.Listing
import WireModel.Generation.Report
import WireModel.Json.Printer
import WireModel.Pattern.Compiled
import WireModel.Transport.Fragment

/-! The command: reads a model, compiles it and writes the fragments. A failure before anything
was written ends it with a message; declarations without a fragment are told at the end. -/
namespace WireModel.CommandLine

attribute [instance] Pattern.regexEngine

/-- What the command leaves behind besides files. -/
structure Outcome where
  exitCode : UInt32 := 0
  stdout : String := ""
  stderr : String := ""
deriving DecidableEq, Repr

/-- Why the command gave up: lines on what was found, what it was about to do, and a cause. -/
structure Failure where
  lines : List String := []
  context : String
  cause : Option String := none
deriving DecidableEq, Repr

def unlines (lines : List String) : String :=
  String.join (lines.map (· ++ "\n"))

def Failure.outcome (failure : Failure) : Outcome where
  exitCode := 1
  stderr :=
    let cause := failure.cause.elim "" fun cause => "\nCaused by:\n    " ++ cause ++ "\n"
    unlines failure.lines ++ "Error: " ++ failure.context ++ "\n" ++ cause

def processorsOf (names : List String) : Except Failure (List Processor) :=
  names.mapM fun name =>
    match Processor.ofName? name with
    | some processor => .ok processor
    | none => .error { context := "Unknown processor: " ++ name }

/-- The model's own properties, with the references that the arguments ask for. -/
def Invocation.override (invocation : Invocation) (properties : Properties) : Properties :=
  match invocation.references with
  | none => properties
  | some label =>
    properties.insert Coding.referencesSlot (.ofLabels Coding.referenceStyles label)

def Invocation.report (invocation : Invocation) (text : String) : Except Failure Report := do
  let file := invocation.model
  let source ←
    match Source.parse? text with
    | some source => Except.ok source
    | none => .error { context := "Failed to parse " ++ file }
  let processors ← processorsOf invocation.processors
  let draft ← (Draft.ofDeclarations source.declarations).mapError fun errors =>
    { lines := errors.map fun error => file ++ ": " ++ error.message
      context := s!"{errors.length} model error(s)" : Failure }
  let compiled ← (compile draft (invocation.override source.properties) processors).mapError
    fun error =>
      { lines := error.render (Position.render file)
        context := error.message : Failure }
  let options ← (Options.ofModel compiled.defaults compiled.model).mapError fun error =>
    { context := "The coding processor must run before generation"
      cause := some error.message : Failure }
  return generate compiled.defaults options compiled.model

def Invocation.output (invocation : Invocation) (report : Report) : String :=
  if invocation.json then (Json.array (report.fragments.map Fragment.toJson)).pretty
  else listing report.fragments

/-- The end of a run whose output is written: errors of the report make it fail. -/
def Invocation.finish (invocation : Invocation) (stdout : String) (report : Report) : Outcome :=
  if report.isComplete then { stdout }
  else
    { exitCode := 1
      stdout
      stderr := unlines (report.errors.map (fun error => invocation.model ++ ": " ++ error.message)
        ++ [s!"{report.errors.length} declaration(s) produced no fragment."]) }

variable {m : Type → Type} [Monad m]

/-- Writes a file, after the directory that it stands in. -/
def FileAccess.save (files : FileAccess m) (path content : String) : m (Except Failure Unit) := do
  let parent := parentPath path
  match ← files.createDirectory parent with
  | .error fault =>
    return .error
      { context := "Failed to create directory: " ++ parent, cause := some fault.text }
  | .ok () =>
    match ← files.write path content with
    | .error fault =>
      return .error { context := "Failed to write " ++ path, cause := some fault.text }
    | .ok () => return .ok ()

def Invocation.run (files : FileAccess m) (invocation : Invocation) : m Outcome := do
  match ← files.read invocation.model with
  | .error fault =>
    let context := "Failed to read " ++ invocation.model
    return ({ context, cause := some fault.text } : Failure).outcome
  | .ok text =>
    match invocation.report text with
    | .error failure => return failure.outcome
    | .ok report =>
      let output := invocation.output report
      match invocation.out with
      | none => return invocation.finish output report
      | some path =>
        match ← files.save path output with
        | .error failure => return failure.outcome
        | .ok () => return invocation.finish ("Written: " ++ path ++ "\n") report

def run (files : FileAccess m) (arguments : List String) : m Outcome :=
  match parseArguments arguments with
  | .error error => return { exitCode := 2, stderr := "error: " ++ error.message ++ "\n" }
  | .ok .help => return { stdout := helpText }
  | .ok (.run invocation) => invocation.run files

end WireModel.CommandLine
