import FilterQuery.Json.Reader
import FilterQuery.Request.Legacy

/-!
# Requests in either wire format

A text is read as JSON before anything of it is taken as a request, so a fault of the text comes before
any fault of its content.
-/

namespace FilterQuery

inductive DecodeError where
  | text (e : Json.TextError)
  | mismatch (m : Mismatch)

def DecodeError.detail : DecodeError → String
  | text e => e.message
  | mismatch m => m.message

def DecodeError.message (e : DecodeError) : String := "Invalid params JSON: " ++ e.detail

namespace Request

/-- The request of a body; null asks for nothing. -/
def ofJson (version : WireVersion) (body : Json) : Except Mismatch Request :=
  match body with
  | .null => .ok { version }
  | body =>
    match version with
    | .v2 => (Legacy.Request.decode body).map Legacy.Request.lift
    | .v3 => Request.decode body

def ofText (version : WireVersion) (text : String) : Except DecodeError Request :=
  match Json.read text with
  | .error e => .error (.text e)
  | .ok body => (ofJson version body).mapError .mismatch

/-- How many clauses on attributes are dropped from a body. -/
def droppedClauses (version : WireVersion) (body : Json) : Nat :=
  match version, Legacy.Request.decode body with
  | .v2, .ok r => r.attributeClauses
  | _, _ => 0

end Request

end FilterQuery
