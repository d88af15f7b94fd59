import AttemptLog.Text.Base64
import AttemptLog.Text.Utf8
import AttemptLog.Web.Request
/-!
Who may read the counts.

There is one credential. A request carries it in the basic scheme: the bytes of the credential as a text of sixty-four
characters.
-/
namespace AttemptLog.Web

def basicScheme : List Char := "Basic ".toList

/-- the credential that a header carries -/
def credential? (header : String) : Option String := do
  let chars := header.toList
  if basicScheme.isPrefixOf chars then
    Text.Utf8.decode? (← Text.Base64.decode? (chars.drop basicScheme.length))
  else none

def isAuthorized (credential : String) (request : Request) : Bool :=
  ((request.header? "authorization").bind credential?) == some credential

end AttemptLog.Web
