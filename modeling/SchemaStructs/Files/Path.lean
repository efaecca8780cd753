import SchemaStructs.Sorting
import SchemaStructs.Text.Cut

/-! # Paths of files -/

namespace SchemaStructs.Files

/-- The components of a path from the root. -/
abbrev Path := List String

namespace Path

/-- The components of a written path. Empty ones and single dots name nothing. -/
def components (text : String) : List String :=
  ((Text.splitAtEach '/' text.toList).map String.ofList).filter fun c => c != "" && c != "."

/-- The steps that a link makes. A slash at the end of its text goes through a directory, as a
single dot does. -/
def linkSteps (target : String) : List String :=
  let parts := (Text.splitAtEach '/' target.toList).map String.ofList
  parts.filter (· != "") ++ if parts.getLast? == some "" then ["."] else []

def isAbsolute (text : String) : Bool := text.toList.head? == some '/'

def text (path : Path) : String := "/" ++ "/".intercalate path

/-- Takes one component more; two dots lead to the parent. -/
def step (path : Path) (component : String) : Path :=
  if component == ".." then path.dropLast else path ++ [component]

/-- Paths are ordered component by component. -/
def le : Comparison Path := Comparison.lexicographic .text

/-- No file has a name with a null character, and none is looked up under one. -/
def hasNull (component : String) : Bool := component.toList.contains '\x00'

/-- The greatest number of bytes in a component. -/
def maxComponentBytes : Nat := 255

def isTooLongName (component : String) : Bool := maxComponentBytes < component.utf8ByteSize

/-- The greatest number of bytes in a written path. -/
def maxBytes : Nat := 4095

def isTooLong (path : Path) : Bool := maxBytes < (text path).utf8ByteSize

/-- Whether nothing can be made under a path, in a directory that is there. -/
def isUnusable (path : Path) : Bool := isTooLong path || path.getLast?.any isTooLongName

end Path

end SchemaStructs.Files
