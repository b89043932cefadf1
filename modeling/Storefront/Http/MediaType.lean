import Storefront.Http.Message

/-!
Media types, as a request names the form of its body: a type, a subtype that may end in a suffix
after a plus sign, and parameters.
-/

namespace Storefront.Http

structure MediaType where
  type : String
  subtype : String
  suffix : Option String
  deriving DecidableEq, Repr

namespace MediaType

/-- The characters of names and unquoted values, besides letters and digits. -/
def tokenSigns : String := "!#$%&'*+-.^_`|~"

def isTokenChar (c : Char) : Bool :=
  c.isAlphanum || tokenSigns.toList.contains c

/-- The rest after a quoted value, whose opening quote has been read: the blanks after it are
skipped. A quote that comes first is part of the value. -/
def afterQuoted? : (isFirst : Bool) → List Char → Option (List Char)
  | _, [] => none
  | isFirst, c :: rest =>
    if c = '"' ∧ !isFirst then some (rest.dropWhile (· = ' '))
    else if 0x1F < c.toNat ∧ c.toNat ≠ 0x7F then afterQuoted? false rest
    else none

/-- The rest after a parameter: nothing, or the semicolon before the next one. -/
def afterParameter? (cs : List Char) : Option (List Char) :=
  match cs.takeWhile isTokenChar, cs.dropWhile isTokenChar with
  | _ :: _, '=' :: '"' :: value => afterQuoted? true value
  | _ :: _, '=' :: value =>
    let rest := value.dropWhile isTokenChar
    if rest.length = value.length ∧ !rest.isEmpty then none else some rest
  | _, _ => none

/-- Whether what follows the subtype is a list of at most `length` parameters, each after a
semicolon; the last semicolon may stand alone. -/
def areParameters : (length : Nat) → List Char → Bool
  | _, [] => true
  | 0, _ => false
  | length + 1, c :: rest =>
    if c = ';' then
      let parameter := rest.dropWhile (· = ' ')
      if parameter.isEmpty then true
      else
        match afterParameter? parameter with
        | none => false
        | some rest => areParameters length rest
    else false

/-- The place of the last plus sign that is not the first character. -/
def lastPlus? (cs : List Char) : Option Nat :=
  let fromEnd := cs.reverse.takeWhile (· ≠ '+')
  if fromEnd.length + 1 < cs.length then some (cs.length - fromEnd.length - 1) else none

def ofText? (text : String) : Option MediaType :=
  let cs := text.toList
  let type := cs.takeWhile isTokenChar
  match type, cs.dropWhile isTokenChar with
  | _ :: _, '/' :: rest =>
    let subtype := rest.takeWhile isTokenChar
    let parameters := rest.dropWhile isTokenChar
    if (subtype.isEmpty && !parameters.isEmpty) || !areParameters parameters.length parameters then
      none
    else
      let lower (cs : List Char) : String := String.ofList (cs.map Char.toLower)
      match lastPlus? subtype with
      | none => some ⟨lower type, lower subtype, none⟩
      | some place =>
        some ⟨lower type, lower (subtype.take place), some (lower (subtype.drop (place + 1)))⟩
  | _, _ => none

/-- Whether bodies of the type are JSON. -/
def isJson (t : MediaType) : Bool :=
  t.type = "application" && (t.subtype = "json" || t.suffix = some "json")

example : (ofText? "Application/vnd.x+JSON; a=\"b;c\" ;").map isJson = some true := by
  decide +kernel
example : (ofText? "application/json ;a=b").map isJson = none := by decide +kernel

end MediaType

/-- Whether the headers say that the body is JSON. -/
def Headers.announceJson (headers : Headers) : Bool :=
  ((headers.readable? "content-type").bind MediaType.ofText?).any (·.isJson)

end Storefront.Http
