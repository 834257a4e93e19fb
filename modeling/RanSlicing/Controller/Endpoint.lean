import RanSlicing.Duration

/-!
# Controller endpoint

Where the controller listens. The configured port is added to the configured address unless the
address already ends in one.
-/

namespace RanSlicing

/-- Address of the controller, and how long a request to it may take. -/
structure Endpoint where
  /-- address with its port, without a slash at the end -/
  baseUrl : String
  timeout : Millis
  deriving DecidableEq, Repr

namespace Endpoint

/-- Drops the slashes at the end. -/
def trimSlashes (cs : List Char) : List Char := (cs.reverse.dropWhile (· = '/')).reverse

/-- Whether what stands after the last colon is a port. -/
def hasPort (cs : List Char) : Bool :=
  let tail := cs.reverse.takeWhile (· ≠ ':')
  tail.length < cs.length && !tail.isEmpty && tail.all Char.isDigit

/-- The endpoint at an address. -/
def ofUrl (url : String) (port : Option UInt16) (timeout : Millis) : Endpoint :=
  let cs := trimSlashes url.toList
  let base := match port with
    | some p => if hasPort cs then cs else cs ++ ':' :: (toString p.toNat).toList
    | none => cs
  ⟨String.ofList base, timeout⟩

/-- The full address of a path. -/
def url (e : Endpoint) (path : String) : String := e.baseUrl ++ path

end Endpoint

end RanSlicing
