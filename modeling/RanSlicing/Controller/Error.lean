import RanSlicing.Duration
import RanSlicing.Files.Basic

/-!
# Controller errors

What can go wrong between the program and the controller, or the files that stand in for it. The
wording of a failure below this library, in a transport or in the syntax of a document, is not
fixed here: such an error only says which kind it is.
-/

namespace RanSlicing

/-- A failed exchange with the controller. -/
inductive InterfaceError
  /-- the connection failed -/
  | transport
  /-- the controller answered with another status than success -/
  | unexpectedStatus (url : String) (status : Nat)
  /-- no answer came in time -/
  | timeout (url : String) (after : Millis)
  /-- a report is no JSON document of its shape -/
  | malformedJson
  /-- a report is no YAML document of its shape -/
  | malformedYaml
  /-- a stored report cannot be read -/
  | fixture (path : String) (cause : FileError)
  /-- a stored report was asked for where there is no file -/
  | fixtureMissing (path : String)
  /-- an operation mode, in lower case, that does not exist -/
  | unknownMode (name : String)
  deriving DecidableEq, Repr

/-- The wording of a failed exchange. -/
def InterfaceError.message : InterfaceError → String
  | transport => "HTTP error"
  | unexpectedStatus url status =>
    "Request to " ++ url ++ " returned status " ++ toString status
  | timeout url after => "Request to " ++ url ++ " timed out after " ++ after.text
  | malformedJson => "Serialization error"
  | malformedYaml => "YAML error"
  | fixture path _ => "Cannot read fixture " ++ path
  | fixtureMissing path =>
    "Invalid configuration: Stats fixture " ++ path ++ " not found"
  | unknownMode name => "Invalid configuration: Unknown operation mode: " ++ name

end RanSlicing
