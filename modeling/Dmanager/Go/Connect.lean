import Dmanager.Go.Strings

/-!
# Connect errors

The status codes of connectrpc.com/connect that the handlers return, and an error with its message.
-/

namespace Dmanager
namespace Go

/-- `connect.Code`, the codes that occur in the source. -/
inductive Code where
  | invalidArgument
  | notFound
  | alreadyExists
  | permissionDenied
  | resourceExhausted
  | failedPrecondition
  | internal
  | unavailable
  | unauthenticated
  deriving DecidableEq, Repr

/-- `*connect.Error`. -/
structure ConnectError where
  code : Code
  message : GoString
  deriving DecidableEq, Repr

/-- `Code.String()`. -/
def Code.text : Code → GoString
  | .invalidArgument => str "invalid_argument"
  | .notFound => str "not_found"
  | .alreadyExists => str "already_exists"
  | .permissionDenied => str "permission_denied"
  | .resourceExhausted => str "resource_exhausted"
  | .failedPrecondition => str "failed_precondition"
  | .internal => str "internal"
  | .unavailable => str "unavailable"
  | .unauthenticated => str "unauthenticated"

/-- `Error()`. -/
def ConnectError.text (err : ConnectError) : GoString :=
  if err.message = [] then err.code.text else err.code.text ++ str ": " ++ err.message

/-- `connect.NewError(code, errors.New(message))` for a literal message. -/
def newError (code : Code) (message : String) : ConnectError := ⟨code, str message⟩

/-- `connect.NewError(code, fmt.Errorf("<message>: %w", cause))`. -/
def wrapError (code : Code) (message : String) (cause : GoString) : ConnectError :=
  ⟨code, str message ++ str ": " ++ cause⟩

end Go
end Dmanager
