import Storefront.Json.Value

/-!
The tokens of a JSON text. The text is cut into tokens up to its end or up to the first place that
no token begins at, which is marked by a token of its own.
-/

namespace Storefront.Json

inductive Token where
  | openBrace
  | closeBrace
  | openBracket
  | closeBracket
  | colon
  | comma
  | null
  | bool (value : Bool)
  | number (value : Number)
  /-- `isPaired` says that no half of a surrogate pair stands alone in the text. -/
  | string (value : String) (isPaired : Bool)
  /-- Here the text stops being JSON. -/
  | invalid
  deriving DecidableEq, Repr

namespace Token

def isSpace (c : Char) : Bool :=
  c = ' ' || c = '\n' || c = '\t' || c = '\r'

/-- A part of a written string: a character, or a 16-bit unit given by an escape. -/
inductive Piece where
  | char (c : Char)
  | unit (value : Nat)

def simpleEscape? : Char → Option Char
  | '"' => some '"'
  | '\\' => some '\\'
  | '/' => some '/'
  | 'b' => some '\x08'
  | 'f' => some '\x0c'
  | 'n' => some '\n'
  | 'r' => some '\r'
  | 't' => some '\t'
  | _ => none

/-- The pieces of a string up to its closing quote, and what follows it. -/
def pieces? : List Char → Option (List Piece × List Char)
  | [] => none
  | '"' :: rest => some ([], rest)
  | '\\' :: 'u' :: a :: b :: c :: d :: rest => do
    let unit := (((← Text.hexValue? a) * 16 + (← Text.hexValue? b)) * 16 +
      (← Text.hexValue? c)) * 16 + (← Text.hexValue? d)
    let (pieces, rest) ← pieces? rest
    some (.unit unit :: pieces, rest)
  | '\\' :: c :: rest => do
    let c ← simpleEscape? c
    let (pieces, rest) ← pieces? rest
    some (.char c :: pieces, rest)
  | c :: rest =>
    if c.toNat < 0x20 then none
    else do
      let (pieces, rest) ← pieces? rest
      some (.char c :: pieces, rest)

def isHighSurrogate (n : Nat) : Bool := 0xD800 ≤ n && n < 0xDC00

def isLowSurrogate (n : Nat) : Bool := 0xDC00 ≤ n && n < 0xE000

/-- The characters that pieces stand for; two halves of a surrogate pair make one character. The
flag says that no half stands alone. -/
def assemble : List Piece → List Char × Bool
  | [] => ([], true)
  | .char c :: rest =>
    let (cs, isPaired) := assemble rest
    (c :: cs, isPaired)
  | .unit high :: .unit low :: rest =>
    if isHighSurrogate high && isLowSurrogate low then
      let (cs, isPaired) := assemble rest
      (Char.ofNat (0x10000 + (high - 0xD800) * 0x400 + (low - 0xDC00)) :: cs, isPaired)
    else
      let (cs, isPaired) := assemble (.unit low :: rest)
      (Char.ofNat high :: cs, isPaired && !isHighSurrogate high && !isLowSurrogate high)
  | .unit n :: rest =>
    let (cs, isPaired) := assemble rest
    (Char.ofNat n :: cs, isPaired && !isHighSurrogate n && !isLowSurrogate n)

/-- Splits off the digits that a text begins with. -/
def spanDigits (cs : List Char) : List Char × List Char :=
  (cs.takeWhile Char.isDigit, cs.dropWhile Char.isDigit)

/-- The digits before the point: a zero has no digit after it. -/
def whole? (cs : List Char) : Option (List Char × List Char) :=
  match spanDigits cs with
  | ([], _) => none
  | (['0'], rest) => some (['0'], rest)
  | ('0' :: _, _) => none
  | found => some found

/-- A point and the digits after it, which may both be missing. -/
def fraction? : List Char → Option (Option (List Char) × List Char)
  | '.' :: rest =>
    match spanDigits rest with
    | ([], _) => none
    | (digits, rest) => some (some digits, rest)
  | rest => some (none, rest)

/-- An exponent, which may be missing. -/
def exponent? : List Char → Option (Option (Bool × List Char) × List Char)
  | [] => some (none, [])
  | c :: rest =>
    if c = 'e' ∨ c = 'E' then
      let (isNegative, digits) :=
        match rest with
        | '-' :: digits => (true, digits)
        | '+' :: digits => (false, digits)
        | digits => (false, digits)
      match spanDigits digits with
      | ([], _) => none
      | (digits, rest) => some (some (isNegative, digits), rest)
    else some (none, c :: rest)

/-- A number without its sign. -/
def magnitude? (isNegative : Bool) (cs : List Char) : Option (Number × List Char) := do
  let (whole, cs) ← whole? cs
  let (fraction, cs) ← fraction? cs
  let (exponent, cs) ← exponent? cs
  some (⟨isNegative, whole, fraction, exponent⟩, cs)

/-- The first token of a text that begins with neither its end nor a space. -/
def first? (cs : List Char) : Option (Token × List Char) :=
  match cs with
  | '{' :: rest => some (.openBrace, rest)
  | '}' :: rest => some (.closeBrace, rest)
  | '[' :: rest => some (.openBracket, rest)
  | ']' :: rest => some (.closeBracket, rest)
  | ':' :: rest => some (.colon, rest)
  | ',' :: rest => some (.comma, rest)
  | 'n' :: 'u' :: 'l' :: 'l' :: rest => some (.null, rest)
  | 't' :: 'r' :: 'u' :: 'e' :: rest => some (.bool true, rest)
  | 'f' :: 'a' :: 'l' :: 's' :: 'e' :: rest => some (.bool false, rest)
  | '"' :: rest => do
    let (pieces, rest) ← pieces? rest
    let (text, isPaired) := assemble pieces
    some (.string (String.ofList text) isPaired, rest)
  | '-' :: rest => (magnitude? true rest).map fun (n, rest) => (.number n, rest)
  | rest => (magnitude? false rest).map fun (n, rest) => (.number n, rest)

/-- The tokens of a text of at most `length` characters. -/
def scan : (length : Nat) → List Char → List Token
  | 0, _ => []
  | length + 1, cs =>
    match cs.dropWhile isSpace with
    | [] => []
    | cs =>
      match first? cs with
      | none => [.invalid]
      | some (token, rest) => token :: scan length rest

def ofText (text : String) : List Token :=
  let cs := text.toList
  scan cs.length cs

example : ofText "[-1.50]" =
    [.openBracket, .number ⟨true, ['1'], some ['5', '0'], none⟩, .closeBracket] := by
  decide +kernel

example : ofText "01" = [.invalid] := by decide +kernel

end Token
end Storefront.Json
