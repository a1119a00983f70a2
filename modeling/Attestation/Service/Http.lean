import Attestation.Text.Percent
import Attestation.Wire.Json

/-!
# Requests and replies

A request has a method and a target, which is a path and perhaps a query behind a question mark. A
target may name a scheme and a host in front of them, or a host alone, which has no path. The parts
of a path are compared as they are written; one slash at its end does not count. Only `GET` is
answered; what is not found has an empty reply.
-/

namespace Attestation.Http

/-- A request. -/
structure Request where
  /-- What is to be done. -/
  method : String
  /-- What it is about. -/
  target : String

/-- What a body is. -/
inductive ContentType where
  | json
  | text
deriving DecidableEq

/-- The name of a content type. -/
def ContentType.name : ContentType → String
  | json => "application/json"
  | text => "text/plain; charset=utf-8"

/-- A reply. -/
structure Reply where
  /-- How the request ended. -/
  status : Nat
  /-- What the body is, if there is one. -/
  contentType : Option ContentType
  /-- The body. -/
  body : Bytes
deriving DecidableEq

namespace Request

/-- Whether a character may stand in the name of a scheme. -/
def isSchemeChar (c : Char) : Bool := c.isAlphanum || c = '+' || c = '-' || c = '.'

/-- The path and the query: the whole target, or what stands behind a scheme and a host. What
follows a `#` is dropped. -/
def pathAndQuery (r : Request) : List Char :=
  let whole :=
    match r.target.toList with
    | '/' :: rest => '/' :: rest
    | target =>
      match target.dropWhile isSchemeChar with
      | ':' :: '/' :: '/' :: rest => rest.dropWhile fun c => c ≠ '/' && c ≠ '?' && c ≠ '#'
      | _ => []
  whole.takeWhile (· ≠ '#')

/-- The parts of the path. -/
def path (r : Request) : List String :=
  let parts := ((r.pathAndQuery.takeWhile (· ≠ '?')).drop 1).splitOn '/'
  let parts := if parts.getLast? = some [] then parts.dropLast else parts
  parts.map String.ofList

/-- The names and values of the query. -/
def query (r : Request) : List (String × String) :=
  Text.queryPairs (String.ofList ((r.pathAndQuery.dropWhile (· ≠ '?')).drop 1))

end Request

namespace Reply

/-- A reply with a text. -/
def ofText (status : Nat) (text : String) : Reply := ⟨status, some .text, Bytes.ofText text⟩

/-- A reply with a value. -/
def ofJson (status : Nat) (value : Json) : Reply := ⟨status, some .json, value.write⟩

/-- A reply with the text of an error. -/
def ofError (status : Nat) (text : String) : Reply :=
  ofJson status (.ofMembers [("error", .ofString text)])

/-- The reply where there is nothing. -/
def notFound : Reply := ⟨404, none, []⟩

/-- The reply to a query that cannot be read. -/
def badQuery : Reply := ofText 400 "Invalid query string"

/-- The reply to other methods than `GET`. -/
def badMethod : Reply := ofText 405 "HTTP method not allowed"

end Reply

end Attestation.Http
