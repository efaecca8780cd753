import SchemaStructs.Connection.Url

/-! # Masked passwords -/

namespace SchemaStructs.Connection

namespace Url

/-- The authority with three stars for the password. Port zero is not written. -/
def maskedAuthority (url : Url) : Except UrlError (List Char) := do
  let port ← url.port?
  let suffix := match port with
    | some (n + 1) => ':' :: (toString (n + 1)).toList
    | _ => []
  pure (url.user ++ ":***@".toList ++ url.host ++ suffix)

end Url

/-- A connection string as it may be shown. One without password is not changed. -/
def maskPassword (url : String) : Except UrlError String :=
  if url.isEmpty then .ok ""
  else do
    let parts ← Url.ofText url.toList
    match parts.password? with
    | none => pure url
    | some _ =>
      let authority ← parts.maskedAuthority
      pure (.ofList { parts with authority }.text)

end SchemaStructs.Connection
