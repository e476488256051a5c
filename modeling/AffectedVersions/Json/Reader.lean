import AffectedVersions.Json.Basic
import AffectedVersions.Numeral
import AffectedVersions.Text.Hex
import AffectedVersions.Text.Lines

/-! Reading JSON text, with the names `NaN`, `Infinity` and `-Infinity` as values. -/
namespace AffectedVersions.Json

inductive Fault where
  | byteOrderMark
  | expectingValue
  | expectingName
  | expectingColon
  | expectingComma
  | unterminatedString
  | controlCharacter
  | badEscape
  | badUnicodeEscape
  | extraData
  deriving DecidableEq

def Fault.message : Fault → String
  | .byteOrderMark => "Unexpected UTF-8 BOM (decode using utf-8-sig)"
  | .expectingValue => "Expecting value"
  | .expectingName => "Expecting property name enclosed in double quotes"
  | .expectingColon => "Expecting ':' delimiter"
  | .expectingComma => "Expecting ',' delimiter"
  | .unterminatedString => "Unterminated string starting at"
  | .controlCharacter => "Invalid control character at"
  | .badEscape => "Invalid \\escape"
  | .badUnicodeEscape => "Invalid \\uXXXX escape"
  | .extraData => "Extra data"

/-- Why reading stops: a fault before the text `rest`, or an integer of too many digits. -/
inductive Stop where
  | malformed (fault : Fault) (rest : List Char)
  | overlong (digits : Nat)

/-- What a reader answers: what it read, and the text after that. -/
abbrev Step (α : Type) := Except Stop (α × List Char)

def Step.map {α β : Type} (f : α → β) (step : Step α) : Step β :=
  Except.map (fun (x, rest) => (f x, rest)) step

def Step.andThen {α β : Type} (step : Step α) (next : α → List Char → Except Stop β) :
    Except Stop β :=
  step.bind fun (x, rest) => next x rest

def isSpace (c : Char) : Bool := c == ' ' || c == '\t' || c == '\n' || c == '\r'

def skipSpace (cs : List Char) : List Char := cs.dropWhile isSpace

def shortEscape? : Char → Option Char
  | '"' => some '"'
  | '\\' => some '\\'
  | '/' => some '/'
  | 'b' => some '\x08'
  | 'f' => some '\x0c'
  | 'n' => some '\n'
  | 'r' => some '\r'
  | 't' => some '\t'
  | _ => none

def hexValue? (digits : List Char) : Option Nat :=
  digits.foldlM (fun n c => (16 * n + ·) <$> Text.hexDigit? c) 0

/-- The codes of a string whose opening quote stands before `start`, surrogates not yet joined. -/
def stringCodes (start : List Char) : List Char → Step (List Nat)
  | [] => .error (.malformed .unterminatedString start)
  | '"' :: rest => .ok ([], rest)
  | ['\\'] => .error (.malformed .unterminatedString start)
  | '\\' :: 'u' :: rest =>
    match rest with
    | a :: b :: c :: d :: after =>
      match hexValue? [a, b, c, d] with
      | some n =>
        if after = [] then .error (.malformed .badUnicodeEscape ('u' :: rest))
        else (stringCodes start after).map (n :: ·)
      | none => .error (.malformed .badUnicodeEscape ('u' :: rest))
    | _ => .error (.malformed .badUnicodeEscape ('u' :: rest))
  | '\\' :: c :: rest =>
    match shortEscape? c with
    | some e => (stringCodes start rest).map (e.toNat :: ·)
    | none => .error (.malformed .badEscape ('\\' :: c :: rest))
  | c :: rest =>
    if c.toNat < 0x20 then .error (.malformed .controlCharacter (c :: rest))
    else (stringCodes start rest).map (c.toNat :: ·)

/-- A high surrogate and the low one after it are the code of one character. -/
def joinSurrogates : List Nat → List Nat
  | high :: low :: rest =>
    if 0xD800 ≤ high ∧ high < 0xDC00 ∧ 0xDC00 ≤ low ∧ low < 0xE000 then
      (0x10000 + (high - 0xD800) * 0x400 + (low - 0xDC00)) :: joinSurrogates rest
    else high :: joinSurrogates (low :: rest)
  | codes => codes

/-- The codes of the string whose opening quote stands before the text `cs`. -/
def string (cs : List Char) : Step (List Nat) := (stringCodes ('"' :: cs) cs).map joinSurrogates

def literals : List (String × Json) :=
  [("null", .null), ("true", .bool true), ("false", .bool false), ("NaN", .real .nan),
    ("Infinity", .real (.infinite false)), ("-Infinity", .real (.infinite true))]

def literal? (cs : List Char) : Option (Json × List Char) :=
  literals.findSome? fun (name, value) => (name.toList.isPrefixOf? cs).map (value, ·)

def digits (cs : List Char) : List Char × List Char :=
  (cs.takeWhile Char.isDigit, cs.dropWhile Char.isDigit)

/-- A zero, or digits of which the first is not zero. -/
def integerDigits : List Char → List Char × List Char
  | '0' :: cs => (['0'], cs)
  | cs => digits cs

/-- The digits of a fraction, if a point with at least one digit after it comes next. -/
def fraction : List Char → List Char × List Char
  | '.' :: cs => if (digits cs).1 = [] then ([], '.' :: cs) else digits cs
  | cs => ([], cs)

def sign : List Char → Bool × List Char
  | '-' :: cs => (true, cs)
  | '+' :: cs => (false, cs)
  | cs => (false, cs)

def signed (negative : Bool) (n : Nat) : Int := if negative then -(n : Int) else n

/-- The exponent, if a letter "e" with at least one digit after it and its sign comes next. -/
def exponent? (cs : List Char) : Option Int × List Char :=
  match cs with
  | [] => (none, cs)
  | c :: rest =>
    let (negative, tail) := sign rest
    if (c = 'e' ∨ c = 'E') ∧ (digits tail).1 ≠ [] then
      (some (signed negative (Numeral.value (digits tail).1)), (digits tail).2)
    else (none, cs)

/-- A number is an integer unless it has a fraction or an exponent. -/
def number (cs : List Char) : Step Json :=
  let (negative, unsigned) := match cs with
    | '-' :: rest => (true, rest)
    | _ => (false, cs)
  let (whole, rest) := integerDigits unsigned
  let (part, rest) := fraction rest
  let (exponent, rest) := exponent? rest
  if whole = [] then .error (.malformed .expectingValue cs)
  else if part = [] ∧ exponent = none then
    if whole.length ≤ Numeral.maxDigits then
      .ok (.int (signed negative (Numeral.value whole)), rest)
    else .error (.overlong whole.length)
  else
    let mantissa := signed negative (Numeral.value (whole ++ part))
    .ok (.real (.finite mantissa (exponent.getD 0 - part.length)), rest)

mutual

/-- The value that starts the text. Each call inside it uses up one unit of `fuel`. -/
def value : (fuel : Nat) → List Char → Step Json
  | 0, cs => .error (.malformed .expectingValue cs)
  | fuel + 1, cs =>
    match cs with
    | '"' :: rest => (string rest).map fun codes => .str (.ofCodes codes)
    | '[' :: rest =>
      match skipSpace rest with
      | ']' :: rest => .ok (.arr [], rest)
      | rest => (items fuel rest).map .arr
    | '{' :: rest =>
      match skipSpace rest with
      | '}' :: rest => .ok (.obj [], rest)
      | rest => (members fuel rest).map fun ms => .obj (distinct ms)
    | cs =>
      match literal? cs with
      | some found => .ok found
      | none => number cs

/-- The items of an array up to its closing bracket, at least one. -/
def items : (fuel : Nat) → List Char → Step (List Json)
  | 0, cs => .error (.malformed .expectingValue cs)
  | fuel + 1, cs =>
    (value fuel cs).andThen fun x rest =>
      match skipSpace rest with
      | ']' :: rest => .ok ([x], rest)
      | ',' :: rest => (items fuel (skipSpace rest)).map (x :: ·)
      | rest => .error (.malformed .expectingComma rest)

/-- The members of an object up to its closing brace, at least one. -/
def members : (fuel : Nat) → List Char → Step (List (String × Json))
  | 0, cs => .error (.malformed .expectingName cs)
  | fuel + 1, cs =>
    match cs with
    | '"' :: rest =>
      (string rest).andThen fun codes rest =>
        match skipSpace rest with
        | ':' :: rest =>
          (value fuel (skipSpace rest)).andThen fun x rest =>
            match skipSpace rest with
            | '}' :: rest => .ok ([(nameOfCodes codes, x)], rest)
            | ',' :: rest => (members fuel (skipSpace rest)).map ((nameOfCodes codes, x) :: ·)
            | rest => .error (.malformed .expectingComma rest)
        | rest => .error (.malformed .expectingColon rest)
    | cs => .error (.malformed .expectingName cs)

end

/-- Each call of a reader consumes a character or is the first one of an array's items. -/
def enoughFuel (cs : List Char) : Nat := 2 * cs.length + 2

/-- The one value that a text holds, with nothing but space around it. -/
def document (cs : List Char) : Except Stop Json :=
  if cs.head? = some '\uFEFF' then .error (.malformed .byteOrderMark cs)
  else
    (value (enoughFuel cs) (skipSpace cs)).andThen fun x rest =>
      match skipSpace rest with
      | [] => .ok x
      | rest => .error (.malformed .extraData rest)

inductive Error where
  | malformed (fault : Fault) (place : Text.Place)
  | overlong (digits : Nat)
  deriving DecidableEq

def Error.message : Error → String
  | .malformed fault place =>
    fault.message ++ ": line " ++ place.line.repr ++ " column " ++ place.column.repr ++
      " (char " ++ place.offset.repr ++ ")"
  | .overlong digits =>
    "Exceeds the limit (" ++ Numeral.maxDigits.repr ++ " digits) for integer string conversion: " ++
      "value has " ++ digits.repr ++ " digits; " ++
      "use sys.set_int_max_str_digits() to increase the limit"

def Stop.toError (text : List Char) : Stop → Error
  | .malformed fault rest => .malformed fault (.after (text.take (text.length - rest.length)))
  | .overlong digits => .overlong digits

def parse (cs : List Char) : Except Error Json := (document cs).mapError (·.toError cs)

end AffectedVersions.Json
