import Vigil.Text.Quoted

/-!
# Error

What can go wrong while diagnostics are set up, as a kind and a message.  `Error.message` is the
text for a user and `Error.debug` the one for a developer.
-/

namespace Vigil

/-- A failure to set up or to inspect the diagnostics. -/
inductive Error where
  /-- A configuration that cannot be read, parsed or accepted. -/
  | config (message : String)
  /-- A file operation that failed. -/
  | io (message : String)
  /-- An interceptor that could not be armed. -/
  | signal (message : String)
  /-- Something that does not exist. -/
  | notFound (message : String)
  /-- A worker that could not be started. -/
  | runtime (message : String)
  deriving DecidableEq, Repr

namespace Error

/-- The message without its kind. -/
def detail : Error → String
  | .config m | .io m | .signal m | .notFound m | .runtime m => m

/-- The kind as it begins a message. -/
def kind : Error → String
  | .config _ => "config"
  | .io _ => "io"
  | .signal _ => "signal"
  | .notFound _ => "not found"
  | .runtime _ => "runtime"

/-- The kind as the name of a constructor. -/
def constructorName : Error → String
  | .config _ => "Config"
  | .io _ => "Io"
  | .signal _ => "Signal"
  | .notFound _ => "NotFound"
  | .runtime _ => "Runtime"

/-- The text for a user. -/
def message (e : Error) : String := e.kind ++ ": " ++ e.detail

/-- The text for a developer, the message quoted. -/
def debug (e : Error) : String :=
  e.constructorName ++ "(" ++ String.ofList (Text.quoted e.detail.toList) ++ ")"

end Error
end Vigil
