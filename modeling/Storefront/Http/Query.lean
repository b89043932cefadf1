import Storefront.Http.Message
import Storefront.Text.Digits
import Storefront.Text.Percent

/-!
The query of a listing: the number of the page and how many orders it holds.
-/

namespace Storefront.Http

/-- The named values of a query. A plus sign is a blank, and a value or name that is not UTF-8 is
unreadable. -/
def queryPairs (query : List Char) : List (Option String × Option String) :=
  let decode (cs : List Char) : Option String :=
    Text.percentDecode? (cs.map fun c => if c = '+' then ' ' else c)
  ((Text.split '&' query).filter (!·.isEmpty)).map fun part =>
    let (name, value) := Text.cut '=' part
    (decode name, decode value)

/-- The 64-bit integer given under a name, or `default`. Two values are an error, as is one that is
no integer. -/
def queryInteger? (pairs : List (Option String × Option String)) (name : String)
    (default : Int) : Option Int :=
  match pairs.filter fun pair => pair.1 = some name with
  | [] => some default
  | [(_, value)] => value.bind (Text.signedWord? 64)
  | _ => none

/-- The page and the limit that a query asks for. -/
def pageQuery? (query : List Char) : Option (Int × Int) := do
  let pairs := queryPairs query
  some (← queryInteger? pairs "page" 1, ← queryInteger? pairs "limit" 10)

end Storefront.Http
