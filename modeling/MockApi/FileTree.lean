import MockApi.Files
import MockApi.Path

/-!
Files and directories by their paths. A directory is there when some file lies below it, or when it
was made; the tree keeps what a reader can see and nothing else.
-/
namespace MockApi

structure FileTree where
  /-- The contents of each file, by the parts of its path. -/
  files : List (List String × String)
  /-- Directories that are there even without files. -/
  directories : List (List String)
  deriving DecidableEq, Repr

namespace FileTree

def empty : FileTree := ⟨[], []⟩

def fileAt? (parts : List String) (tree : FileTree) : Option String :=
  (tree.files.find? fun file => file.1 = parts).map (·.2)

/-- The parts of a path lie properly below a directory. -/
def below (directory parts : List String) : Bool :=
  directory.isPrefixOf parts && directory.length < parts.length

def hasDirectory (parts : List String) (tree : FileTree) : Bool :=
  parts = [] || tree.files.any (fun file => below parts file.1) ||
    tree.directories.any fun directory => parts.isPrefixOf directory

/-- One part of a way through the tree, which can only go on from a directory. -/
def follow (tree : FileTree) (parts : List String) (part : String) : Option (List String) :=
  if ¬ tree.hasDirectory parts then none
  else if part = "" ∨ part = "." then some parts
  else if part = ".." then (if parts = [] then none else some parts.dropLast)
  else some (parts ++ [part])

def locate? (tree : FileTree) (path : String) : Option (List String) :=
  (Path.parts path).foldlM tree.follow []

def read? (tree : FileTree) (path : String) : Option String := do
  tree.fileAt? (← tree.locate? path)

def isFile (tree : FileTree) (path : String) : Bool := (tree.read? path).isSome

def present (tree : FileTree) (path : String) : Bool :=
  match tree.locate? path with
  | some parts => (tree.fileAt? parts).isSome || tree.hasDirectory parts
  | none => false

def entries (tree : FileTree) (directory : String) : List (String × Option String) :=
  match tree.locate? directory with
  | none => []
  | some parts =>
      let all := tree.files.map (·.1) ++ tree.directories
      let inside := all.filter (below parts)
      let names := (inside.filterMap fun path => path[parts.length]?).eraseDups
      (names.mergeSort fun a b => decide (a ≤ b)).map fun name =>
        (name, tree.fileAt? (parts ++ [name]))

def view (tree : FileTree) : Files := ⟨tree.read?, tree.entries⟩

def put (parts : List String) (content : String) (tree : FileTree) : FileTree :=
  { tree with files := tree.files.filter (fun file => file.1 ≠ parts) ++ [(parts, content)] }

def ofFiles (files : List (String × String)) : FileTree :=
  files.foldl (fun tree (path, content) => tree.put (Path.parts path) content) empty

inductive Edit where
  | write (path content : String)
  | rename (source target : String)
  | remove (path : String)
  deriving DecidableEq, Repr

def Edit.touched : Edit → List String
  | write path _ | remove path => [path]
  | rename source target => [source, target]

/-- Keeps a directory that might lose its last file. -/
def keepDirectory (parts : List String) (tree : FileTree) : FileTree :=
  { tree with directories := tree.directories ++ [parts.dropLast] }

/-- A file can stand where no directory is and the directory above is there. -/
def canHold (parts : List String) (tree : FileTree) : Bool :=
  parts ≠ [] && !tree.hasDirectory parts && tree.hasDirectory parts.dropLast

/-- Moves a path and what lies below it. -/
def movePath (source target parts : List String) : List String :=
  if source.isPrefixOf parts then target ++ parts.drop source.length else parts

/-- A file takes the place of the file at its new path. -/
def moveFile (source target : List String) (tree : FileTree) : Option FileTree := do
  let content ← tree.fileAt? source
  if ¬ tree.canHold target then none
  let tree := tree.keepDirectory source
  some ({ tree with files := tree.files.filter fun file => file.1 ≠ source }.put target content)

def moveDirectory (source target : List String) (tree : FileTree) : Option FileTree :=
  if source ≠ [] ∧ tree.hasDirectory source ∧ tree.canHold target ∧
      (tree.fileAt? target).isNone ∧ ¬ source.isPrefixOf target then
    let tree := tree.keepDirectory source
    some { files := tree.files.map fun file => (movePath source target file.1, file.2)
           directories := tree.directories.map (movePath source target) ++ [target] }
  else none

def apply (edit : Edit) (tree : FileTree) : Option FileTree := do
  match edit with
  | .write path content =>
      let parts ← tree.locate? path
      if tree.canHold parts then some (tree.put parts content) else none
  | .rename source target =>
      let source ← tree.locate? source
      let target ← tree.locate? target
      (tree.moveFile source target) <|> tree.moveDirectory source target
  | .remove path =>
      let parts ← tree.locate? path
      let _ ← tree.fileAt? parts
      let tree := tree.keepDirectory parts
      some { tree with files := tree.files.filter fun file => file.1 ≠ parts }

def applyAll (edits : List Edit) (tree : FileTree) : Option FileTree :=
  edits.foldlM (fun tree edit => tree.apply edit) tree

end FileTree
end MockApi
