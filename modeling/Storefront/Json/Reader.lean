import Storefront.Json.Token

/-!
Reading JSON values from tokens.
-/

namespace Storefront.Json

mutual

/-- Reads a value off the front of the tokens; `depth` bounds the tokens it is made of. -/
def readValue : (depth : Nat) → List Token → Option (Json × List Token)
  | 0, _ => none
  | depth + 1, tokens =>
    match tokens with
    | .null :: rest => some (.null, rest)
    | .bool value :: rest => some (.bool value, rest)
    | .number value :: rest => some (.number value, rest)
    | .string value _ :: rest => some (.string value, rest)
    | .openBracket :: .closeBracket :: rest => some (.array [], rest)
    | .openBracket :: rest => do
      let (items, rest) ← readItems depth rest
      some (.array items, rest)
    | .openBrace :: .closeBrace :: rest => some (.object [], rest)
    | .openBrace :: rest => do
      let (members, rest) ← readMembers depth rest
      some (.object members, rest)
    | _ => none

/-- Reads one or more items and the closing bracket. -/
def readItems : (depth : Nat) → List Token → Option (List Json × List Token)
  | 0, _ => none
  | depth + 1, tokens => do
    let (item, rest) ← readValue depth tokens
    match rest with
    | .closeBracket :: rest => some ([item], rest)
    | .comma :: rest =>
      let (items, rest) ← readItems depth rest
      some (item :: items, rest)
    | _ => none

/-- Reads one or more members and the closing brace. -/
def readMembers : (depth : Nat) → List Token → Option (List (String × Json) × List Token)
  | 0, _ => none
  | depth + 1, tokens =>
    match tokens with
    | .string name _ :: .colon :: rest => do
      let (value, rest) ← readValue depth rest
      match rest with
      | .closeBrace :: rest => some ([(name, value)], rest)
      | .comma :: rest =>
        let (members, rest) ← readMembers depth rest
        some ((name, value) :: members, rest)
      | _ => none
    | _ => none

end

/-- Reads a text that holds one value and nothing else. -/
def ofText? (text : String) : Option Json :=
  let tokens := Token.ofText text
  match readValue tokens.length tokens with
  | some (value, []) => some value
  | _ => none

end Storefront.Json
