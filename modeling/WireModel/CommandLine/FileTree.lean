import WireModel.OrderedMap

/-! Access to files, and a directory tree that gives such access without the world outside. Paths
are texts with slashes between names. -/
namespace WireModel.CommandLine

inductive FileFault where
  | notFound
  | alreadyExists
  | notDirectory
  | isDirectory
  | other (text : String)
deriving DecidableEq, Repr

def FileFault.text : FileFault → String
  | .notFound => "No such file or directory (os error 2)"
  | .alreadyExists => "File exists (os error 17)"
  | .notDirectory => "Not a directory (os error 20)"
  | .isDirectory => "Is a directory (os error 21)"
  | .other text => text

structure FileAccess (m : Type → Type) where
  read : String → m (Except FileFault String)
  /-- Creates a directory and all directories that it stands in. -/
  createDirectory : String → m (Except FileFault Unit)
  write : String → String → m (Except FileFault Unit)

/-- A name that does not lead to another place. -/
def isIdle (name : String) : Bool :=
  name.isEmpty || name = "."

/-- The path without what leads nowhere at its end; the first name stays. -/
def trimPath : List String → List String
  | [] => []
  | first :: rest => first :: (rest.reverse.dropWhile isIdle).reverse

def parentPath (path : String) : String :=
  let names := trimPath (trimPath (path.splitOn "/")).dropLast
  if names = [""] then "/" else "/".intercalate names

def pathNames (path : String) : List String :=
  (path.splitOn "/").foldl (fun names name =>
    if isIdle name then names else if name = ".." then names.dropLast else names ++ [name]) []

/-- Whether a path can only be that of a directory. -/
def isDirectoryPath (path : String) : Bool :=
  match (path.splitOn "/").reverse with
  | last :: _ :: _ => isIdle last
  | _ => false

inductive FileTree where
  | file (content : String)
  | directory (entries : List (String × FileTree))

namespace FileTree

def find : List String → FileTree → Except FileFault FileTree
  | [], tree => .ok tree
  | name :: rest, .directory entries =>
    match findEntry name entries with
    | some tree => tree.find rest
    | none => .error .notFound
  | _ :: _, .file _ => .error .notDirectory

def put (content : String) : List String → FileTree → Except FileFault FileTree
  | [], .file _ => .ok (.file content)
  | [], .directory _ => .error .isDirectory
  | name :: rest, .directory entries =>
    match findEntry name entries with
    | some tree => do return .directory (insertEntry name (← tree.put content rest) entries)
    | none =>
      if rest.isEmpty then .ok (.directory (insertEntry name (.file content) entries))
      else .error .notFound
  | _ :: _, .file _ => .error .notDirectory

/-- A tree with nothing but directories, one in the other. -/
def chain : List String → FileTree
  | [] => .directory []
  | name :: rest => .directory [(name, chain rest)]

def create : List String → FileTree → Except FileFault FileTree
  | [], .directory entries => .ok (.directory entries)
  | [], .file _ => .error .alreadyExists
  | name :: rest, .directory entries =>
    match findEntry name entries with
    | some tree => do return .directory (insertEntry name (← tree.create rest) entries)
    | none => .ok (.directory (insertEntry name (chain rest) entries))
  | _ :: _, .file _ => .error .notDirectory

def read (path : String) (tree : FileTree) : Except FileFault String := do
  match ← tree.find (pathNames path) with
  | .file content => if isDirectoryPath path then .error .notDirectory else .ok content
  | .directory _ => .error .isDirectory

def write (path content : String) (tree : FileTree) : Except FileFault FileTree :=
  if isDirectoryPath path then .error .isDirectory
  else tree.put content (pathNames path)

def createDirectory (path : String) (tree : FileTree) : Except FileFault FileTree :=
  tree.create (pathNames path)

def change (f : FileTree → Except FileFault FileTree) :
    StateM FileTree (Except FileFault Unit) := do
  match f (← get) with
  | .ok tree =>
    set tree
    return .ok ()
  | .error fault => return .error fault

def access : FileAccess (StateM FileTree) where
  read path := do return (← get).read path
  createDirectory path := change (createDirectory path)
  write path content := change (write path content)

def ofFiles (files : List (String × String)) : FileTree :=
  files.foldl (fun tree (path, content) =>
    let made := (tree.createDirectory (parentPath path)).bind (write path content)
    made.toOption.getD tree) (.directory [])

end FileTree

end WireModel.CommandLine
