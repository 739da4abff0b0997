import PathRouter.Tool.Command

/-!
# The route tool as a program

Runs a command of the route tool on the files of the system.
-/

namespace PathRouter

/-- The error that the system gives for a path. -/
def fileErrorOf : IO.Error → FileError
  | .noFileOrDirectory _ _ _ | .noSuchThing _ _ _ => .notFound
  | .alreadyExists _ _ _ => .alreadyExists
  | .inappropriateType _ _ _ => .notADirectory
  | .permissionDenied _ _ _ => .permissionDenied
  | _ => .invalidData

/-- The text of a file of the system. -/
def readSystemFile (path : String) : IO (Except FileError String) := do
  try
    return .ok (← IO.FS.readFile path)
  catch e => return .error (fileErrorOf e)

/-- Replaces a file of the system by way of another one beside it. -/
def replaceSystemFile (path content : String) : IO Unit := do
  let temporary := FileTree.withEnding "tmp" path
  IO.FS.writeFile temporary content
  IO.FS.rename temporary path

/-- Runs a command and gives the exit code. -/
def runCommand (c : Tool.Command) : IO UInt32 := do
  match c.run (← readSystemFile c.source) with
  | .error e =>
    IO.eprintln s!"Error: {e.message}"
    return 1
  | .ok effect =>
    match effect.replaced with
    | some (path, blob) => replaceSystemFile path blob
    | none => pure ()
    IO.print effect.output
    return 0

end PathRouter

/-- The route tool. -/
def main (args : List String) : IO UInt32 := do
  match PathRouter.Tool.Command.read args with
  | .error stop =>
    IO.eprintln "usage: route-cli (compile | resolve | inspect) [options] [paths]"
    return stop.code.toUInt32
  | .ok c => PathRouter.runCommand c
