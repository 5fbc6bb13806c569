import DtoPress.Text.Lower

/-!
# Responses

What a request for a URL ends in : a response, or a failure of the transport. A response can
still be a refusal by its status.
-/

namespace DtoPress

/-- A failure to get a usable response. -/
inductive TransportError where
  | timeout
  | connection (message : String)
  /-- A refusal, with its status if that is known. -/
  | refused (status : Option Int)
  | malformed (message : String)
  | other (message : String)
  deriving DecidableEq, Repr

/-- A response. -/
structure Response where
  status : Int
  /-- The media type that the response states. -/
  contentType : Option String
  body : String
  deriving DecidableEq, Repr

namespace Response

/-- The status is a refusal. -/
def isRefusal (r : Response) : Bool :=
  400 ≤ r.status && r.status < 600

/-- The media type in lower case, empty if none is stated. -/
def mediaType (r : Response) : Text :=
  Text.lower (r.contentType.getD "")

end Response

/-- A response that is no refusal. -/
def acceptResponse (reply : Except TransportError Response) : Except TransportError Response := do
  let r ← reply
  if r.isRefusal then throw (.refused (some r.status)) else return r

end DtoPress
