import WireModel.CommandLine.Run

/-! The command on the files of the machine. -/
namespace WireModel.CommandLine

def FileFault.ofError : IO.Error → FileFault
  | .noFileOrDirectory .. => .notFound
  | .alreadyExists .. => .alreadyExists
  | .inappropriateType _ code details =>
    if code = 20 then .notDirectory else if code = 21 then .isDirectory else .other details
  | error => .other error.toString

def attempt {α : Type} (action : IO α) : IO (Except FileFault α) := do
  try
    return .ok (← action)
  catch error =>
    return .error (.ofError error)

def machineFiles : FileAccess IO where
  read path := attempt (IO.FS.readFile path)
  createDirectory path := attempt (if path.isEmpty then pure () else IO.FS.createDirAll path)
  write path content := attempt (IO.FS.writeFile path content)

end WireModel.CommandLine

open WireModel.CommandLine in
def main (arguments : List String) : IO UInt32 := do
  let outcome ← run machineFiles arguments
  (← IO.getStdout).putStr outcome.stdout
  (← IO.getStderr).putStr outcome.stderr
  return outcome.exitCode
