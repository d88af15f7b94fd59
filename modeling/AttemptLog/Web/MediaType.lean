/-!
Media types of bodies.

A media type has a type, a slash, a subtype and parameters. The subtype may end in a plus sign and a suffix that names
the format the subtype is built on. Bodies are read if type and suffix say that they are of the data format.
-/
namespace AttemptLog.Web

/-- may a name in a media type hold this character -/
def isTokenChar (c : Char) : Bool :=
  c.isAlphanum || c ∈ ['!', '#', '$', '%', '&', '\x27', '*', '+', '-', '.', '^', '_', '\x60', '|', '~']

/-- where reading the parameters is -/
inductive ParameterPlace where
  /-- before a name -/
  | start
  | name
  /-- before a value -/
  | valueStart
  | value
  /-- before the first character of a value between quotes -/
  | quoteStart
  | quote
  /-- after a value between quotes -/
  | afterQuote

/-- the place after one more character -/
def ParameterPlace.next? (place : ParameterPlace) (c : Char) : Option ParameterPlace :=
  match place with
  | .start => if c = ' ' then some .start else if isTokenChar c then some .name else none
  | .name => if c = '=' then some .valueStart else if isTokenChar c then some .name else none
  | .valueStart => if c = '"' then some .quoteStart else if isTokenChar c then some .value else none
  | .value => if c = ';' then some .start else if isTokenChar c then some .value else none
  | .quoteStart => if ' ' ≤ c ∧ c ≠ '\x7f' then some .quote else none
  | .quote => if c = '"' then some .afterQuote else if ' ' ≤ c ∧ c ≠ '\x7f' then some .quote else none
  | .afterQuote => if c = ';' then some .start else if c = ' ' then some .afterQuote else none

/-- can the parameters end here -/
def ParameterPlace.canEnd : ParameterPlace → Bool
  | .start | .valueStart | .value | .afterQuote => true
  | .name | .quoteStart | .quote => false

def areParameters (chars : List Char) : Bool :=
  match chars.foldlM ParameterPlace.next? ParameterPlace.start with
  | some place => place.canEnd
  | none => false

/-- the part of a list before the last plus sign, and what follows it; a plus sign in front does not count -/
def splitSuffix (subtype : List Char) : List Char × Option (List Char) :=
  let suffix := (subtype.reverse.takeWhile (· != '+')).reverse
  let kept := subtype.take (subtype.length - suffix.length - 1)
  if suffix.length < subtype.length ∧ !kept.isEmpty then (kept, some suffix) else (subtype, none)

/-- does a media type say that a body is of the data format -/
def isJsonType (mediaType : String) : Bool :=
  let chars := mediaType.toList
  let kind := chars.takeWhile isTokenChar
  match chars.dropWhile isTokenChar with
  | '/' :: rest =>
    let subtype := rest.takeWhile isTokenChar
    let hasParameters :=
      match rest.dropWhile isTokenChar with
      | [] => true
      | ';' :: parameters => !subtype.isEmpty && areParameters parameters
      | _ => false
    let lower (chars : List Char) := String.ofList (chars.map Char.toLower)
    let (base, suffix) := splitSuffix subtype
    hasParameters && lower kind == "application" && (lower base == "json" || suffix.map lower == some "json")
  | _ => false

end AttemptLog.Web
