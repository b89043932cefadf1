import Storefront.Error
import Storefront.Json.Value
import Storefront.Text.Split

/-!
Requests and responses. The names of headers are compared without regard to ASCII case.
-/

namespace Storefront.Http

inductive Method where
  | get
  | head
  | post
  | put
  | patch
  | delete
  | other (name : String)
  deriving DecidableEq, Repr

def Method.ofText : String → Method
  | "GET" => .get
  | "HEAD" => .head
  | "POST" => .post
  | "PUT" => .put
  | "PATCH" => .patch
  | "DELETE" => .delete
  | name => .other name

/-- The fields of a request's head; a name occurs at most once. -/
structure Headers where
  fields : List (String × String)
  deriving DecidableEq, Repr

namespace Headers

def empty : Headers := ⟨[]⟩

/-- The name that a header is filed under. -/
def canonical (name : String) : String :=
  name.map Char.toLower

def get? (headers : Headers) (name : String) : Option String :=
  (headers.fields.find? fun field => field.1 = canonical name).map (·.2)

def erase (headers : Headers) (name : String) : Headers :=
  ⟨headers.fields.filter fun field => field.1 ≠ canonical name⟩

def set (headers : Headers) (name value : String) : Headers :=
  ⟨(canonical name, value) :: (headers.erase name).fields⟩

/-- The value of a header whose bytes are all printable ASCII or tabs. -/
def readable? (headers : Headers) (name : String) : Option String :=
  (headers.get? name).filter fun value =>
    value.toList.all fun c => (0x20 ≤ c.toNat && c.toNat < 0x7F) || c = '\t'

end Headers

structure Request where
  method : Method
  /-- The path, or a whole address, with the query after a question mark. -/
  target : String
  headers : Headers
  body : String
  deriving DecidableEq, Repr

namespace Request

/-- Letters, digits and the few marks that the name of a scheme may have. -/
def isSchemeChar (c : Char) : Bool :=
  c.isAlphanum || c ∈ ['+', '-', '.', '~']

/-- A target may be a whole address. What the service is asked for is then what follows the scheme
and the authority. -/
def afterAuthority (target : List Char) : List Char :=
  match target.dropWhile isSchemeChar with
  | ':' :: '/' :: '/' :: rest => rest.dropWhile (· ∉ ['/', '?', '#'])
  | _ => target

/-- The target without scheme, authority and fragment. -/
def resource (request : Request) : List Char :=
  (Text.cut '#' (afterAuthority request.target.toList)).1

/-- The parts of the path between slashes, as they are written. -/
def segments (request : Request) : List String :=
  (Text.split '/' (Text.cut '?' request.resource).1).map String.ofList

def query (request : Request) : List Char :=
  (Text.cut '?' request.resource).2

example : afterAuthority "http://host:80/orders?page=1".toList = "/orders?page=1".toList := by
  decide +kernel

example : afterAuthority "/a://b".toList = "/a://b".toList := by decide +kernel

end Request

structure Response where
  status : Nat
  body : Option Json
  deriving Repr

namespace Response

/-- A response without a body. -/
def bare (status : Nat) : Response := ⟨status, none⟩

def success (data : Json) (message : String) : Response :=
  ⟨200, some (.object [("data", data), ("message", .string message)])⟩

def failure (e : Error) : Response :=
  ⟨e.httpStatus, some (.object [("error",
    .object [("code", .string e.code), ("message", .string e.message)])])⟩

end Response
end Storefront.Http
