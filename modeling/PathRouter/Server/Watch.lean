import PathRouter.Config.Load

/-!
# Watching a configuration file

When a file with the name of the watched one is written in its folder, the configuration is loaded
anew, and passed on if it is accepted.
-/

namespace PathRouter

/-- Something that happens to a file. -/
inductive FileEvent where
  | written (path : String)
  | removed (path : String)
deriving DecidableEq, Repr

/-- The last name of a path. -/
def lastName (path : String) : String := ((FileTree.namesOf path).getLast?).getD path

/-- The configuration that is passed on when something happens to a file. -/
def watchUpdate? (files : FileTree) (watched : String) : FileEvent → Option Config
  | .written path =>
    if lastName path = lastName watched then
      match Config.load files watched with
      | .ok c => some c
      | .error _ => none
    else none
  | .removed _ => none

end PathRouter
