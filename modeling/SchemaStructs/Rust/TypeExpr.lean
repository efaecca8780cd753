import SchemaStructs.Catalog.QualifiedName
import SchemaStructs.Rust.Path

/-! # Type expressions of Rust -/

namespace SchemaStructs.Rust

open Catalog (QualifiedName)

/-- A type as it is written in generated code. `path` is what has to be imported for it, and
`declaration` the generated type that it names. Precision, scale and length are kept for
documentation; no Rust type holds them. -/
structure TypeExpr where
  name : String
  path : Option String := none
  generics : List TypeExpr := []
  precision : Option Int := none
  scale : Option Int := none
  length : Option Int := none
  declaration : Option QualifiedName := none
deriving Repr

namespace TypeExpr

mutual

def render : TypeExpr → String
  | { name, generics, .. } =>
    match generics with
    | [] => name
    | _ => name ++ "<" ++ ", ".intercalate (renderAll generics) ++ ">"

def renderAll : List TypeExpr → List String
  | [] => []
  | t :: rest => render t :: renderAll rest

end

mutual

/-- The paths of the expression and of its arguments, at any depth. -/
def paths : TypeExpr → List String
  | { path, generics, .. } => (path.filter (· != "")).toList ++ pathsOfAll generics

def pathsOfAll : List TypeExpr → List String
  | [] => []
  | t :: rest => paths t ++ pathsOfAll rest

end

mutual

/-- The generated types named in the expression, at any depth. -/
def declared : TypeExpr → List QualifiedName
  | { declaration, generics, .. } => declaration.toList ++ declaredInAll generics

def declaredInAll : List TypeExpr → List QualifiedName
  | [] => []
  | t :: rest => declared t ++ declaredInAll rest

end

def imports (t : TypeExpr) : List String := sortedSet .text t.paths

def declarations (t : TypeExpr) : List QualifiedName := sortedSet QualifiedName.le t.declared

def isOption (t : TypeExpr) : Bool := t.name == "Option" && t.path.isNone

/-- A primitive type or a type of the prelude. -/
def primitive (name : String) : TypeExpr := { name }

/-- A type of another crate. -/
def external (path : String) (generics : List TypeExpr := []) : TypeExpr :=
  { name := lastSegment path, path := some path, generics }

/-- An `Option` is never wrapped again. -/
def option (inner : TypeExpr) : TypeExpr :=
  if inner.isOption then inner else { name := "Option", generics := [inner] }

def vec (inner : TypeExpr) : Nat → TypeExpr
  | 0 => inner
  | n + 1 => { name := "Vec", generics := [vec inner n] }

@[simp] theorem isOption_option (t : TypeExpr) : (option t).isOption = true := by
  unfold option
  split
  · assumption
  · rfl

@[simp] theorem isOption_vec_succ (t : TypeExpr) (n : Nat) : (vec t (n + 1)).isOption = false := by
  simp [vec, isOption]

end TypeExpr

end SchemaStructs.Rust
