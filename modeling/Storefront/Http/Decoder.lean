import Storefront.Json.Binary64
import Storefront.Json.Reader

/-!
Decoding the bodies of requests. A body is read from its first character on, and the first fault met
decides what is said of it: either the text is not JSON, or it is JSON of another shape.

A record is written as an object, whose unknown members are passed over, or as an array of its
fields in order.
-/

namespace Storefront.Http

open Json (Token)

inductive BodyFault where
  /-- The text is not JSON. -/
  | malformed
  /-- The text is JSON as far as it has been read, but of another shape. -/
  | misshapen
  deriving DecidableEq, Repr

/-- Reads a value off the front of the tokens of a body. -/
abbrev Decoder := StateT (List Token) (Except BodyFault)

namespace Decoder

variable {α σ : Type}

/-- The next token; a text that ends too early is no JSON. -/
def next : Decoder Token := do
  match ← get with
  | [] => throw .malformed
  | token :: rest =>
    set rest
    return token

/-- Takes the given token and no other. -/
def expect (token : Token) : Decoder Unit := do
  if (← next) ≠ token then throw .malformed

/-- What is wrong with a value that begins with the given token, where one of another type is
needed. -/
def misfit : Token → BodyFault
  | .null => .misshapen
  | .bool _ => .misshapen
  | .openBrace => .misshapen
  | .openBracket => .misshapen
  | .number n => if n.overflows then .malformed else .misshapen
  | .string _ isPaired => if isPaired then .misshapen else .malformed
  | _ => .malformed

/-- Passes over a value of any type. -/
def skip : Decoder Unit := do
  let tokens ← get
  match Json.readValue tokens.length tokens with
  | none => throw .malformed
  | some (_, rest) => set rest

def int32 : Decoder Int := do
  match ← next with
  | .number n =>
    match n.int?.filter (Text.fitsSigned 32) with
    | some value => return value
    | none => throw (misfit (.number n))
  | token => throw (misfit token)

def text : Decoder String := do
  match ← next with
  | .string value true => return value
  | token => throw (misfit token)

def bool : Decoder Bool := do
  match ← next with
  | .bool value => return value
  | token => throw (misfit token)

/-- A value or `null`. -/
def nullable (item : Decoder α) : Decoder (Option α) := do
  match ← get with
  | .null :: rest =>
    set rest
    return none
  | _ => return some (← item)

/-- One or more items and the closing bracket, where `length` bounds their number. -/
def items (item : Decoder α) : (length : Nat) → Decoder (List α)
  | 0 => throw .malformed
  | length + 1 => do
    let first ← item
    match ← next with
    | .closeBracket => return [first]
    | .comma => return first :: (← items item length)
    | _ => throw .malformed

def list (item : Decoder α) : Decoder (List α) := do
  match ← next with
  | .openBracket =>
    match ← get with
    | .closeBracket :: rest =>
      set rest
      return []
    | tokens => items item tokens.length
  | token => throw (misfit token)

/-- One of several words. A word may also be the only member of an object, with the value `null`. -/
def choice (find : String → Option α) : Decoder α := do
  let named (word : String) : Decoder α :=
    match find word with
    | some value => return value
    | none => throw .misshapen
  match ← next with
  | .string word true => named word
  | .openBrace =>
    match ← next with
    | .string word true =>
      let value ← named word
      expect .colon
      match ← next with
      | .null => expect .closeBrace
      | token => throw (misfit token)
      return value
    | _ => throw .malformed
  | _ => throw .malformed

/-- A field of a record of which `σ` holds what has been read so far. -/
structure RecordField (σ : Type) where
  name : String
  /-- In the array form, fields at the end may be left out if they are optional. -/
  isOptional : Bool
  isFilled : σ → Bool
  fill : σ → Decoder σ

/-- A field with its value. -/
def member (fields : List (RecordField σ)) (name : String) (draft : σ) : Decoder σ := do
  match fields.find? fun field => field.name = name with
  | none =>
    expect .colon
    skip
    return draft
  | some field =>
    if field.isFilled draft then throw .misshapen
    expect .colon
    field.fill draft

/-- The members of an object up to its closing brace; the first token of the first one is given,
and `length` bounds their number. -/
def members (fields : List (RecordField σ)) : (length : Nat) → Token → σ → Decoder σ
  | 0, _, _ => throw .malformed
  | length + 1, .string name true, draft => do
    let draft ← member fields name draft
    match ← next with
    | .closeBrace => return draft
    | .comma => members fields length (← next) draft
    | _ => throw .malformed
  | _, _, _ => throw .malformed

/-- The fields of an array up to its closing bracket. -/
def positional : (fields : List (RecordField σ)) → (isFirst : Bool) → σ → Decoder σ
  | [], _, draft => do
    expect .closeBracket
    return draft
  | field :: rest, isFirst, draft => do
    if (← get).head? = some .closeBracket then
      if field.isOptional then positional rest isFirst draft else throw .misshapen
    else
      if !isFirst then expect .comma
      positional rest false (← field.fill draft)

/-- A record, made from what has been read unless a field that it needs is missing. -/
def record (fields : List (RecordField σ)) (blank : σ) (make : σ → Option α) : Decoder α := do
  let draft ← match ← next with
    | .openBrace =>
      match ← next with
      | .closeBrace => pure blank
      | token => members fields ((← get).length + 1) token blank
    | .openBracket => positional fields true blank
    | token => throw (misfit token)
  match make draft with
  | some value => return value
  | none => throw .misshapen

/-- Reads a whole body. -/
def run (decoder : Decoder α) (body : String) : Except BodyFault α :=
  match StateT.run decoder (Token.ofText body) with
  | .ok (value, []) => .ok value
  | .ok _ => .error .malformed
  | .error fault => .error fault

end Decoder
end Storefront.Http
