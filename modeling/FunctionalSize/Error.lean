set_option autoImplicit false

namespace FunctionalSize

inductive Error where
  /-- A file could not be used; `cause` is what the system said, where it said something. -/
  | fileSystem (message path : String) (cause : Option String)
  | modelFormat (path message : String)
  | emptyProgram (path : String)
  | configuration (message : String)
  | aliasAnalysis (message : String)
  | withContext (context message : String)
  | io (message : String)
  /-- A configuration text is not the expected TOML; the message is that of the TOML reader. -/
  | toml (message : String)
deriving DecidableEq, Repr, Inhabited

namespace Error

def message : Error → String
  | fileSystem message _ _ => "File system error: " ++ message
  | modelFormat path message => "Malformed program model in " ++ path ++ ": " ++ message
  | emptyProgram path => "No functions could be loaded from " ++ path
  | configuration message => "Configuration error: " ++ message
  | aliasAnalysis message => "Alias analysis failed: " ++ message
  | withContext context message => context ++ ": " ++ message
  | io message => message
  | toml message => message

def addContext (context : String) (e : Error) : Error := withContext context e.message

def chain : Error → List String
  | e@(fileSystem _ _ (some cause)) => [e.message, cause]
  | e => [e.message]

end Error

inductive UnknownName where
  | strategy (text : String)
  | oracle (text : String)
  | format (text : String)
deriving DecidableEq, Repr, Inhabited

def UnknownName.message : UnknownName → String
  | strategy text => "unknown strategy '" ++ text ++ "'"
  | oracle text => "unknown oracle '" ++ text ++ "'"
  | format text => "unknown output format '" ++ text ++ "'"

end FunctionalSize
