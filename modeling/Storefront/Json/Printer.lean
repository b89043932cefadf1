import Storefront.Json.Value

/-!
Writing JSON values, without blanks.
-/

namespace Storefront.Json

def escaped (c : Char) : List Char :=
  if c = '"' then ['\\', '"']
  else if c = '\\' then ['\\', '\\']
  else if c.toNat < 0x20 then '\\' :: 'u' :: Text.fixedDigits 16 4 c.toNat
  else [c]

def quoted (text : String) : List Char :=
  '"' :: text.toList.flatMap escaped ++ ['"']

mutual

/-- Puts a value in front of the characters that follow it. -/
def write : Json → List Char → List Char
  | .null, rest => 'n' :: 'u' :: 'l' :: 'l' :: rest
  | .bool true, rest => 't' :: 'r' :: 'u' :: 'e' :: rest
  | .bool false, rest => 'f' :: 'a' :: 'l' :: 's' :: 'e' :: rest
  | .number n, rest => n.render.toList ++ rest
  | .string text, rest => quoted text ++ rest
  | .array items, rest => '[' :: writeItems items (']' :: rest)
  | .object members, rest => '{' :: writeMembers members ('}' :: rest)

def writeItems : List Json → List Char → List Char
  | [], rest => rest
  | [item], rest => item.write rest
  | item :: items, rest => item.write (',' :: writeItems items rest)

def writeMembers : List (String × Json) → List Char → List Char
  | [], rest => rest
  | [(name, value)], rest => quoted name ++ ':' :: value.write rest
  | (name, value) :: members, rest =>
    quoted name ++ ':' :: value.write (',' :: writeMembers members rest)

end

def render (value : Json) : String :=
  String.ofList (value.write [])

example : (array [int (-1), bool true, string "a\"b"]).render = "[-1,true,\"a\\\"b\"]" := by
  decide +kernel

end Storefront.Json
