import SchemaStructs.Files.Lookup

/-! # Making directories and files

What was made before a failure stays. -/

namespace SchemaStructs.Files.FileTree

/-- Makes the directories on the way from `base` through the given components. A link to a directory
serves as one. The result is the last directory and the number of links that are left. -/
def enterDirectories (links : Nat) (base : Path) :
    List String → FileTree → FileTree × Except FileError (Path × Nat)
  | [], tree => (tree, .ok (base, links))
  | component :: rest, tree =>
    if component == ".." then enterDirectories links base.dropLast rest tree
    else
      let next := base ++ [component]
      match tree.at? next with
      | none =>
        if Path.isTooLongName component then (tree, .error (.nameTooLong next))
        else enterDirectories links next rest (Entries.put next .directory tree)
      | some .directory => enterDirectories links next rest tree
      | some (.file _) => (tree, .error (.notADirectory next))
      | some (.link _) =>
        match walk tree links base [component] with
        | .error e => (tree, .error e)
        | .ok (.vacant _, _) => (tree, .error (.notADirectory next))
        | .ok (.occupied path, links) =>
          if tree.isDirectory path then enterDirectories links path rest tree
          else (tree, .error (.notADirectory path))

/-- Makes a directory and those above it, unless they are there. -/
def makeDirectories (tree : FileTree) (base : Path) (components : List String) :
    FileTree × Except FileError (Path × Nat) :=
  if components.any Path.hasNull then (tree, .error .nullCharacter)
  else if Path.isTooLong (base ++ components) then
    (tree, .error (.nameTooLong (base ++ components)))
  else enterDirectories maxLinks base components tree

/-- Writes a file in a directory that is there. A link is followed, and a new file may be made at
the place that it leads to. -/
def writeInto (tree : FileTree) (links : Nat) (directory : Path) (name content : String) :
    FileTree × Except FileError Unit :=
  match walk tree links directory [name] with
  | .error e => (tree, .error e)
  | .ok (.vacant path, _) => (Entries.put path (.file content) tree, .ok ())
  | .ok (.occupied path, _) =>
    if tree.isDirectory path then (tree, .error (.isADirectory path))
    else (Entries.put path (.file content) tree, .ok ())

/-- Writes a file and makes the directories on the way to it. -/
def writeFile (tree : FileTree) (base : Path) (components : List String) (content : String) :
    FileTree × Except FileError Unit :=
  match components.getLast? with
  | none => (tree, .error (.isADirectory base))
  | some name =>
    match tree.makeDirectories base components.dropLast with
    | (tree, .error e) => (tree, .error e)
    | (tree, .ok (directory, links)) =>
      if Path.hasNull name then (tree, .error .nullCharacter)
      else if Path.isTooLong (base ++ components) then
        (tree, .error (.nameTooLong (base ++ components)))
      else writeInto tree links directory name content

end SchemaStructs.Files.FileTree
