/-!
Cutting lists of characters at a separator.
-/

namespace Storefront.Text

/-- The parts between separators: one more than there are separators. -/
def split (separator : Char) : List Char → List (List Char)
  | [] => [[]]
  | c :: rest =>
    if c = separator then [] :: split separator rest
    else
      match split separator rest with
      | [] => [[c]]
      | part :: parts => (c :: part) :: parts

/-- The part before the first separator, and the part after it if there is one. -/
def cut (separator : Char) (cs : List Char) : List Char × List Char :=
  (cs.takeWhile (· ≠ separator), (cs.dropWhile (· ≠ separator)).drop 1)

example : split '/' ['/', 'a', '/', '/', 'b'] = [[], ['a'], [], ['b']] := by decide
example : cut '=' ['a', '=', 'b', '='] = (['a'], ['b', '=']) := by decide

end Storefront.Text
