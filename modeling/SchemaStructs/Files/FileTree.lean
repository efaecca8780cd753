import SchemaStructs.Entries
import SchemaStructs.Files.Path

/-! # File trees

A tree is known by what stands at each path. The root is always a directory. -/

namespace SchemaStructs.Files

inductive Entry where
  | directory
  | file (content : String)
  | link (target : String)
deriving DecidableEq, Repr

abbrev FileTree := Entries Path Entry

namespace FileTree

variable (tree : FileTree)

def at? (path : Path) : Option Entry :=
  if path.isEmpty then some .directory else Entries.get? path tree

def isDirectory (path : Path) : Bool := tree.at? path == some .directory

/-- The paths of a tree that lie below a given one, or are it. -/
def inside (path : Path) : FileTree := tree.filter (path.isPrefixOf ·.1)

def isEmptyDirectory (path : Path) : Bool := (tree.inside path).all (·.1 == path)

/-- The tree without a path and all that lies below it. -/
def remove (path : Path) : FileTree := tree.filter (!path.isPrefixOf ·.1)

/-- Moves a path and all that lies below it; what stood at the new place is gone. -/
def rename (source target : Path) : FileTree :=
  FileTree.remove (tree.remove source) target ++
    (tree.inside source).map fun e => (target ++ e.1.drop source.length, e.2)

end FileTree

end SchemaStructs.Files
