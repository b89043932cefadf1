/-!
Values that are written as one word out of a closed list.
-/

namespace Storefront

class Worded (α : Type) where
  /-- What such a value is called in a complaint about an unknown word. -/
  kind : String
  /-- Every value, in the order of their listing. -/
  all : List α
  word : α → String

export Worded (word)

namespace Worded

variable {α : Type} [Worded α]

/-- The value that a word stands for. -/
def ofWord? (text : String) : Option α :=
  (all (α := α)).find? fun a => word a = text

/-- What is said of a word that stands for nothing. -/
def unknown (α : Type) [Worded α] (text : String) : String :=
  "unknown " ++ kind α ++ " `" ++ text ++ "`"

end Worded
end Storefront
