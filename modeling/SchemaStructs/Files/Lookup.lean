import SchemaStructs.Files.FileTree

/-! # Following links

A path is followed in two ways. `resolve` gives the path without links that a written path stands
for, whether something is there or not. `find` looks at what is there: every directory on the way
has to exist. -/

namespace SchemaStructs.Files

/-- Where a path leads once links are followed, or the link that leads back to itself with what
follows it. -/
inductive Destination where
  | reached (path : Path)
  | loop (path : Path)
deriving DecidableEq, Repr

/-- Why nothing is found or made at a path. -/
inductive FileError where
  | missing (path : Path)
  | notADirectory (path : Path)
  | isADirectory (path : Path)
  | nameTooLong (path : Path)
  | tooManyLinks (link : Path)
  /-- a null character in a component -/
  | nullCharacter
deriving DecidableEq, Repr

/-- What a path leads to. -/
inductive Place where
  /-- a file or a directory -/
  | occupied (path : Path)
  /-- nothing, in a directory that is there -/
  | vacant (path : Path)
deriving DecidableEq, Repr

namespace FileTree

/-- Goes along components, given how a link is followed from a directory. -/
def followWith (tree : FileTree) (follow : Path → Path → String → Destination) :
    Path → List String → Destination
  | base, [] => .reached base
  | base, component :: rest =>
    let next := Path.step base component
    if component == ".." then followWith tree follow next rest
    else match tree.at? next with
      | some (.link target) =>
        match follow base next target with
        | .reached path => followWith tree follow path rest
        | .loop path => .loop (rest.foldl Path.step path)
      | _ => followWith tree follow next rest

/-- Follows the links of a tree. `following` holds the links being followed; each is followed at
most once inside itself, so the number of entries bounds the steps. -/
def follow (tree : FileTree) : Nat → List Path → Path → List String → Destination
  | 0, _, base, components => .loop (components.foldl Path.step base)
  | steps + 1, following, base, components =>
    followWith tree (fun directory link target =>
      if following.contains link then .loop link
      else
        follow tree steps (link :: following) (if Path.isAbsolute target then [] else directory)
          (Path.components target)) base components

/-- Where a written path leads from a working directory. Components that do not exist are kept. -/
def resolve (tree : FileTree) (working : Path) (text : String) : Destination :=
  follow tree (tree.length + 1) [] (if Path.isAbsolute text then [] else working)
    (Path.components text)

/-- Goes along components that have to exist, except for the last. `afterLink` goes on behind a
link. -/
def walkWith (tree : FileTree) (afterLink : Path → Path → List String → Except FileError α)
    (arrived : Place → α) : Path → List String → Except FileError α
  | directory, [] => .ok (arrived (.occupied directory))
  | directory, component :: rest =>
    if component == "." then walkWith tree afterLink arrived directory rest
    else if component == ".." then walkWith tree afterLink arrived directory.dropLast rest
    else
      let next := directory ++ [component]
      if Path.isTooLongName component then .error (.nameTooLong next)
      else match tree.at? next with
        | none => if rest.isEmpty then .ok (arrived (.vacant next)) else .error (.missing next)
        | some (.file _) =>
          if rest.isEmpty then .ok (arrived (.occupied next)) else .error (.notADirectory next)
        | some .directory => walkWith tree afterLink arrived next rest
        | some (.link target) =>
          afterLink next (if Path.isAbsolute target then [] else directory)
            (Path.linkSteps target ++ rest)

/-- Goes along components and through `links` links at most. The result is the place and the number
of links that are left. -/
def walk (tree : FileTree) : (links : Nat) → Path → List String → Except FileError (Place × Nat)
  | 0 => walkWith tree (fun link _ _ => .error (.tooManyLinks link)) fun place => (place, 0)
  | links + 1 => walkWith tree (fun _ => walk tree links) fun place => (place, links + 1)

/-- The greatest number of links on the way to a file. -/
def maxLinks : Nat := 40

def find (tree : FileTree) (path : Path) : Except FileError Place :=
  if Path.isTooLong path then .error (.nameTooLong path)
  else (walk tree maxLinks [] path).map Prod.fst

/-- The file or directory that a path leads to, if any. It is an error to ask for a name that is too
long. -/
def occupant? (tree : FileTree) (path : Path) : Except FileError (Option Path) :=
  match tree.find path with
  | .ok (.occupied path) => .ok (some path)
  | .error (.nameTooLong path) => .error (.nameTooLong path)
  | _ => .ok none

def leadsSomewhere (tree : FileTree) (path : Path) : Except FileError Bool :=
  Option.isSome <$> tree.occupant? path

end FileTree

end SchemaStructs.Files
