import SchemaStructs.Markup.Literal
import SchemaStructs.Markup.Style
import SchemaStructs.Markup.Tag

/-! # Nesting of tags

A closing tag closes the last open tag with its style, or the last one at all if it has no name.
Tags need not be closed, and may overlap. -/

namespace SchemaStructs.Markup

open Numeric Text

inductive MarkupError where
  /-- a closing tag that closes no open one -/
  | nothingToClose (style : List Char)
  /-- parameters of a handler that are no literal -/
  | malformedParameters (parameters : List Char)
  | malformedNumber (error : IntegerError)
deriving DecidableEq, Repr

def MarkupError.message : MarkupError → String
  | nothingToClose style => "nothing to close for [/" ++ .ofList style ++ "]"
  | malformedParameters parameters => "malformed parameters " ++ .ofList parameters
  | malformedNumber error => error.message

/-- A tag that is open, with its style in normal form. -/
structure OpenTag where
  style : List Char
  parameters : Option (List Char)
deriving DecidableEq, Repr

/-- The literal among the parameters of a handler, which may have a name before parentheses. -/
def handlerLiteral (parameters : List Char) : List Char :=
  let parameters := trim parameters
  match parameters.span fun c => isAlphanumeric c || c == '_' || c == '.' with
  | (_, []) => "()".toList
  | (_, '(' :: rest) =>
    if rest.getLast? == some ')' && !rest.contains '\n' then '(' :: rest else parameters
  | _ => parameters

/-- The parameters of a handler are checked when its tag is closed. -/
def OpenTag.checkHandler (tag : OpenTag) : Except MarkupError Unit :=
  match tag.style, tag.parameters with
  | '@' :: _, some (c :: rest) =>
    if isLiteral (handlerLiteral (c :: rest)) then .ok ()
    else .error (.malformedParameters (c :: rest))
  | _, _ => .ok ()

/-- The tag that a closing tag closes, and those that stay open. The last opened is the first. -/
def close? (style : List Char) (stack : List OpenTag) : Option (OpenTag × List OpenTag) :=
  match stack.find? fun tag => style.isEmpty || tag.style == style with
  | some tag => some (tag, stack.eraseP fun tag => style.isEmpty || tag.style == style)
  | none => none

def normalStyle (name : List Char) : Except MarkupError (List Char) :=
  (normalForm name).mapError .malformedNumber

/-- Goes on with one piece, given the tags that are open. -/
def nest (stack : List OpenTag) : Piece → Except MarkupError (List OpenTag)
  | .text _ => .ok stack
  | .tag ('/' :: name) _ => do
    let style ← if (trim name).isEmpty then pure [] else normalStyle (trim name)
    match close? style stack with
    | none => throw (.nothingToClose style)
    | some (tag, stack) =>
      tag.checkHandler
      pure stack
  | .tag name parameters => do pure (⟨← normalStyle name, parameters⟩ :: stack)

/-- Checks that every closing tag closes one. -/
def check (markup : String) : Except MarkupError Unit := do
  let _ ← (pieces markup.toList).foldlM nest []

end SchemaStructs.Markup
