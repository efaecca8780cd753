/-! # Log records -/

namespace SchemaStructs

inductive Level where
  | debug
  | info
  | warning
deriving DecidableEq, Repr

structure Record where
  level : Level
  message : String
deriving DecidableEq, Repr

namespace Record

def debug (message : String) : Record := ⟨.debug, message⟩

def info (message : String) : Record := ⟨.info, message⟩

def warning (message : String) : Record := ⟨.warning, message⟩

end Record

end SchemaStructs
