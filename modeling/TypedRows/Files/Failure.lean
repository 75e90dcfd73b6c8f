import TypedRows.Error
import TypedRows.Files.FileSystem

/-!
Why the work on a project has stopped, and during what.
-/

namespace TypedRows

inductive Cause where
  | error (error : Error)
  | file (fault : FileFault)
  /-- The configuration file cannot be understood. -/
  | settings
  deriving DecidableEq

structure Failure where
  during : Option String
  cause : Cause
  deriving DecidableEq

def Cause.message : Cause → String
  | error e => e.message
  | file fault => fault.message
  | settings => "TOML parse error"

namespace Failure

def message (failure : Failure) : String :=
  match failure.during with
  | some context => context ++ ": " ++ failure.cause.message
  | none => failure.cause.message

/-- The report on a failure: what was done, and the cause below it. -/
def report (failure : Failure) : String :=
  match failure.during with
  | some context =>
    "Error: " ++ context ++ "\n\nCaused by:\n    " ++
      failure.cause.message.replace "\n" "\n    "
  | none => "Error: " ++ failure.cause.message

end Failure

/-- Steps in a monad that may fail. -/
abbrev Attempt (m : Type → Type) := ExceptT Failure m

namespace Attempt

variable {m : Type → Type} [Monad m] {α : Type}

def ofError (during : Option String) (result : Except Error α) : Attempt m α :=
  ExceptT.mk (pure (result.mapError fun e => ⟨during, .error e⟩))

/-- Runs an operation on files. -/
def ofFile (during : Option String) (step : m (Except FileFault α)) : Attempt m α :=
  ExceptT.mk ((fun result => result.mapError fun fault => ⟨during, .file fault⟩) <$> step)

end Attempt

end TypedRows
