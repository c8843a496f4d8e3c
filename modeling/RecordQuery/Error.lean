/-!
# Errors

Everything that can keep a request from being carried out.

* `Error.code`, `Error.message`: the stable name of an error and its text.
* `Error.isRejection`: the errors that refuse a request before the store is touched.
* `Error.withContext`: an error with the name of the operation that met it.
-/

namespace RecordQuery

inductive Error where
  /-- Reading or writing outside the store failed. -/
  | io (message : String)
  /-- A statement is malformed. -/
  | parse (message : String)
  /-- A statement begins with an unknown command. -/
  | unsupportedCommand (command : String)
  /-- There is no statement. -/
  | emptyQuery
  /-- The store is not connected. -/
  | notConnected
  /-- The store reports a failure. -/
  | store (message : String)
  /-- A setting or a seed is not usable. -/
  | invalidArgument (message : String)
  /-- Anything else. -/
  | internal (message : String)
deriving DecidableEq, Repr, Inhabited

namespace Error

/-- The stable name of the kind of an error. -/
def code : Error → String
  | io _ => "IO_ERROR"
  | parse _ => "PARSE_ERROR"
  | unsupportedCommand _ => "UNSUPPORTED_COMMAND"
  | emptyQuery => "EMPTY_QUERY"
  | notConnected => "NOT_CONNECTED"
  | store _ => "STORE_FAULT"
  | invalidArgument _ => "INVALID_ARGUMENT"
  | internal _ => "INTERNAL_ERROR"

def message : Error → String
  | io message => "IO error: " ++ message
  | parse message => message
  | unsupportedCommand command => "Unsupported AQL command: " ++ command
  | emptyQuery => "Empty AQL query."
  | notConnected => "Not connected to the cluster."
  | store message => message
  | invalidArgument message => "Invalid argument: " ++ message
  | internal message => "Internal error: " ++ message

/-- Whether an error refuses a request before any store call. -/
def isRejection : Error → Bool
  | parse _ | unsupportedCommand _ | emptyQuery | notConnected => true
  | io _ | store _ | invalidArgument _ | internal _ => false

/-- The error with the name of an operation before its text. A store failure stays one; any other
error becomes an internal one, so that none of them passes for a rejection. -/
def withContext (context : String) : Error → Error
  | store message => store (context ++ ": " ++ message)
  | other => internal (context ++ ": " ++ other.message)

@[simp] theorem isRejection_withContext (context : String) (e : Error) :
    (e.withContext context).isRejection = false := by
  cases e <;> rfl

end Error

end RecordQuery
