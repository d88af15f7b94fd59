import AttemptLog.Json.Value
import AttemptLog.Text.Utf8
/-!
Requests of clients and the replies to them.
-/
namespace AttemptLog.Web

/-- a request; each character of a header's value is one byte -/
structure Request where
  method : String
  target : String
  headers : List (String × String)
  body : List UInt8

/-- are these characters that a header may show: visible ones, spaces and tabs -/
def isPlainText (text : String) : Bool := text.toList.all fun c => c == '\t' || (' ' ≤ c && c ≤ '~')

namespace Request

/-- the value of the first header of this name, if it is plain text; letter case of names does not count -/
def header? (request : Request) (name : String) : Option String :=
  ((request.headers.find? fun header => header.1.toLower == name).map (·.2)).filter isPlainText

/-- may the scheme of an address hold this character -/
def isSchemeChar (c : Char) : Bool := c.isAlphanum || c ∈ ['+', '-', '.']

/-- does the path of an address end before this character -/
def endsPath (c : Char) : Bool := c == '?' || c == '#'

/-- the path in front, without the query -/
def pathChars (target : List Char) : List Char := target.takeWhile fun c => !endsPath c

/-- the path that is asked for, without the query. A target may also be a whole address, whose path follows its host and
is never empty, and a host alone has no path. -/
def path (request : Request) : String :=
  let target := request.target.toList
  String.ofList <|
    if target.head? = some '/' ∨ target = ['*'] then pathChars target
    else
      match target.dropWhile isSchemeChar with
      | ':' :: '/' :: '/' :: address =>
        let path := pathChars (address.dropWhile fun c => c != '/' && !endsPath c)
        if path.isEmpty then ['/'] else path
      | _ => []

end Request

/-- why a request is refused before anything is done for it -/
inductive Rejection where
  /-- the identity in the path is no text -/
  | badPath
  /-- the body is not declared to be of the data format -/
  | badType
  | tooLarge
  /-- the body is not of the data format -/
  | malformed
  /-- the body does not say what the request needs -/
  | mismatched
  deriving DecidableEq

def Rejection.status : Rejection → Nat
  | .badPath => 400
  | .badType => 415
  | .tooLarge => 413
  | .malformed => 400
  | .mismatched => 422

inductive Body where
  | empty
  | json (value : Json.Value)
  /-- some words about the rejection -/
  | rejection (rejection : Rejection)
  /-- the lines of all counts, and those without values -/
  | counts (lines shape : List String)

/-- a reply; `allow` names the methods of the path if the method of the request is none of them -/
structure Reply where
  status : Nat
  contentType : Option String
  allow : Option String
  body : Body

def contentSecurityPolicy : String := "default-src 'none'; frame-ancestors 'none'"

namespace Reply

def bare (status : Nat) : Reply := ⟨status, none, none, .empty⟩

def json (status : Nat) (value : Json.Value) : Reply := ⟨status, some "application/json", none, .json value⟩

def plain (status : Nat) (body : Body) : Reply := ⟨status, some "text/plain; charset=utf-8", none, body⟩

def ofRejection (rejection : Rejection) : Reply := plain rejection.status (.rejection rejection)

def methodNotAllowed (allow : String) : Reply := ⟨405, none, some allow, .empty⟩

def withoutBody (reply : Reply) : Reply := { reply with body := .empty }

end Reply

end AttemptLog.Web
