import SchemaStructs.Files.Creation

/-! # Publication of generated files

Files are written to a staging directory beside the target, which then takes the target's place. A
directory that was published before has a marker; a directory with other content is not replaced. -/

namespace SchemaStructs.Files

def markerName : String := ".autostruct"

def markerText : String :=
  "This directory is generated by autostruct and is replaced on every run.\n"

inductive PublicationError where
  /-- the target is no directory, or has content and no marker -/
  | notReplaceable (target : Path)
  /-- no directory can be made beside the target -/
  | noStaging (target : Path)
  /-- a file cannot be written, or the directories cannot change places -/
  | notWritten (target : Path)
  /-- the target has a name that no file can have -/
  | nameTooLong (target : Path)
  /-- a link in the target leads back to itself -/
  | linkLoop (link : Path)
  /-- a written target or the name of a file with a null character -/
  | nullCharacter
  /-- the working directory was replaced, so that a relative path names nothing -/
  | workingDirectoryGone (working : Path)
deriving DecidableEq, Repr

/-- Files by name; a name may have several components. -/
abbrev FileSet := List (String × String)

namespace Publication

/-- A directory may be replaced if it is empty or has a marker. -/
def isReplaceable (tree : FileTree) (target : Path) : Except FileError Bool := do
  match ← tree.occupant? target with
  | none => pure true
  | some path =>
    if tree.isDirectory path then
      let marked ← tree.leadsSomewhere (target ++ [markerName])
      pure (marked || tree.isEmptyDirectory path)
    else pure false

/-- The absolute path of a target. A link that leads back to itself is an error if it is still on
the way. -/
def resolveTarget (tree : FileTree) (working : Path) (target : String) :
    Except PublicationError Path :=
  if Path.hasNull target then .error .nullCharacter
  else match tree.resolve working target with
  | .reached path => .ok path
  | .loop path =>
    match tree.find path with
    | .error (.tooManyLinks link) => .error (.linkLoop link)
    | _ => .ok path

/-- The absolute path of a target after it was published. -/
def publishedTarget (tree : FileTree) (working : Path) (target : String) :
    Except PublicationError Path := do
  let path ← resolveTarget tree working target
  if !Path.isAbsolute target && path.isPrefixOf working then throw (.workingDirectoryGone working)
  pure path

def stagingName (name suffix : String) : String := s!".{name}.staging-{suffix}"

def backupName (name suffix : String) : String := s!".{name}.previous-{suffix}"

/-- The number of characters that tell staging directories apart. -/
def suffixLength : Nat := 8

/-- The `n`-th suffix. -/
def suffix (n : Nat) : String :=
  let digits := Nat.toDigits 10 n
  .ofList (List.replicate (suffixLength - digits.length) '0' ++ digits)

/-- A suffix for which neither directory exists. One of the first is free, since a tree has only
that many entries. -/
def freshSuffix (tree : FileTree) (parent : Path) (name : String) : String :=
  (((List.range (tree.length + 1)).map suffix).find? fun s =>
    (tree.inside (parent ++ [stagingName name s])).isEmpty &&
      (tree.inside (parent ++ [backupName name s])).isEmpty).getD (suffix 0)

/-- Where the name of a file starts from. -/
def fileBase (staging : Path) (name : String) : Path :=
  if Path.isAbsolute name then [] else staging

def stageFile (staging : Path) (tree : FileTree) (file : String × String) :
    FileTree × Except FileError Unit :=
  tree.writeFile (fileBase staging file.1) (Path.components file.1) file.2

/-- Writes files up to the first that cannot be written. -/
def stageFiles (staging : Path) : FileTree → FileSet → FileTree × Except FileError Unit
  | tree, [] => (tree, .ok ())
  | tree, file :: rest =>
    match stageFile staging tree file with
    | (tree, .ok ()) => stageFiles staging tree rest
    | failed => failed

/-- The files in the order in which they are written, the marker last. -/
def stagedFiles (files : FileSet) : FileSet :=
  sortOn .text Prod.fst files ++ [(markerName, markerText)]

/-- Puts a staged directory in its place. What is there is moved aside first, and if it is a
directory it is removed at the end; a link that is moved aside stays there. The root has no other
place, and a directory cannot take the place of a link that leads nowhere. -/
def swap (tree : FileTree) (place staging backup : Path) : Except FileError FileTree :=
  if place.isEmpty then .error (.isADirectory place)
  else match tree.at? place with
  | none => .ok (tree.rename staging place)
  | some entry => do
    match ← tree.occupant? place with
    | none => .error (.notADirectory place)
    | some _ =>
      if Path.isUnusable backup then .error (.nameTooLong backup)
      else
        let replaced := FileTree.rename (tree.rename place backup) staging place
        .ok (if entry = .directory then FileTree.remove replaced backup else replaced)

/-- Publishes files at an absolute path. The place of the target is in the directory that its parent
leads to. On failure the staging directory is removed, unless a name has a null character. -/
def publishAt (tree : FileTree) (target : Path) (files : FileSet) :
    FileTree × Except PublicationError Unit :=
  match isReplaceable tree target with
  | .error _ => (tree, .error (.nameTooLong target))
  | .ok false => (tree, .error (.notReplaceable target))
  | .ok true =>
    match tree.makeDirectories [] target.dropLast with
    | (tree, .error _) => (tree, .error (.noStaging target))
    | (tree, .ok (parent, _)) =>
      let name := target.getLast?.getD ""
      let suffix := freshSuffix tree parent name
      let staging := parent ++ [stagingName name suffix]
      if Path.isUnusable staging then (tree, .error (.noStaging target))
      else
        match stageFiles staging (Entries.put staging .directory tree) (stagedFiles files) with
        | (failed, .error .nullCharacter) => (failed, .error .nullCharacter)
        | (failed, .error _) => (failed.remove staging, .error (.notWritten target))
        | (written, .ok ()) =>
          let place := parent ++ target.getLast?.toList
          match swap written place staging (parent ++ [backupName name suffix]) with
          | .error _ => (written.remove staging, .error (.notWritten target))
          | .ok published => (published, .ok ())

/-- The path under which a file is published. Two dots in a name are kept as they are written. -/
def publishedPath (target : Path) (name : String) : Path :=
  fileBase target name ++ Path.components name

end Publication

/-- Publishes files at a written path. The result is the paths of the files, in order. -/
def publish (tree : FileTree) (working : Path) (target : String) (files : FileSet) :
    FileTree × Except PublicationError (List Path) :=
  match Publication.resolveTarget tree working target with
  | .error e => (tree, .error e)
  | .ok path =>
    match Publication.publishAt tree path files with
    | (tree, .error e) => (tree, .error e)
    | (tree, .ok ()) =>
      (tree, .ok (sortOn Path.le id (files.map fun f => Publication.publishedPath path f.1)))

namespace PublicationError

def message : PublicationError → String
  | notReplaceable target =>
    s!"Refusing to replace {target.text}: it is not empty and was not created by autostruct " ++
      "(no .autostruct marker)"
  | noStaging target => s!"Could not create staging directory next to {target.text}: "
  | notWritten target => s!"Failed to write generated files to {target.text}: "
  | nameTooLong target => s!"File name too long: {target.text}"
  | linkLoop link => s!"Symlink loop from {link.text}"
  | nullCharacter => "embedded null byte"
  | workingDirectoryGone working => s!"The working directory {working.text} was replaced"

end PublicationError

end SchemaStructs.Files
