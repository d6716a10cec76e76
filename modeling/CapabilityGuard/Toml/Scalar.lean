import CapabilityGuard.Text.Digit
import CapabilityGuard.Toml.Value

/-! TOML values that are single words: booleans, numbers, dates and times. An integer must fit 64
bits with a sign, and a float that is not negative must not round to infinity. -/
namespace CapabilityGuard.Toml

open Digit (isDecimal numeral)

/-- One or more digits with single underscores between them; the digits alone. -/
def grouped? (digit : Char → Bool) : List Char → Option (List Char)
  | [] => none
  | [c] => if digit c then some [c] else none
  | c :: '_' :: rest => if digit c then (grouped? digit rest).map (c :: ·) else none
  | c :: rest => if digit c then (grouped? digit rest).map (c :: ·) else none

/-- The text before the first character of a kind, and what follows that character. -/
def cut (at? : Char → Bool) (text : List Char) : List Char × Option (List Char) :=
  match text.dropWhile (fun c => !at? c) with
  | [] => (text, none)
  | _ :: rest => (text.takeWhile (fun c => !at? c), some rest)

def unsign : List Char → Bool × List Char
  | '+' :: rest => (false, rest)
  | '-' :: rest => (true, rest)
  | text => (false, text)

/-- Whether `digits` times ten to the `exponent` is halfway from the largest finite double to
two to the 1024 or above. Far from there the number of digits decides. -/
def overflows (digits : List Char) (exponent : Int) : Bool :=
  let value := numeral 10 digits
  let magnitude : Int := (toString value).length + exponent
  if value = 0 ∨ magnitude < 300 then false
  else if 320 < magnitude then true
  else
    let limit := Nat.pow 2 1024 - Nat.pow 2 970
    if 0 ≤ exponent then limit ≤ value * Nat.pow 10 exponent.toNat
    else limit * Nat.pow 10 (-exponent).toNat ≤ value

/-- Whether a number fits 64 bits with a sign. -/
def inRange (value : Int) : Bool :=
  -9223372036854775808 ≤ value && value ≤ 9223372036854775807

/-- A decimal number. Its whole part has no leading zero. -/
def decimal? (word : List Char) : Option Value := do
  let (negative, body) := unsign word
  let (mantissa, exponent?) := cut (fun c => c = 'e' || c = 'E') body
  let (whole, fraction?) := cut (· = '.') mantissa
  let whole ← grouped? isDecimal whole
  if whole.head? = some '0' ∧ whole ≠ ['0'] then none
  match fraction?, exponent? with
  | none, none =>
    let value : Int := if negative then -numeral 10 whole else numeral 10 whole
    if inRange value then return .integer value else none
  | _, _ =>
    let fraction ← match fraction? with
      | none => some []
      | some text => grouped? isDecimal text
    let (down, exponent) ← match exponent? with
      | none => some (false, [])
      | some text => (grouped? isDecimal (unsign text).2).map fun digits => ((unsign text).1, digits)
    let power : Int := if down then -numeral 10 exponent else numeral 10 exponent
    if !negative && overflows (whole ++ fraction) (power - fraction.length) then none
    else return .float (String.ofList word)

/-- An integer in base 16, 8 or 2. -/
def based? (base : Nat) (digit : Char → Bool) (text : List Char) : Option Value := do
  let value : Int := numeral base (← grouped? digit text)
  if inRange value then return .integer value else none

/-! Dates and times. -/

def pair? (low high : Nat) : List Char → Option (Nat × List Char)
  | a :: b :: rest =>
    let value := numeral 10 [a, b]
    if isDecimal a && isDecimal b && low ≤ value && value ≤ high then some (value, rest) else none
  | _ => none

def sign? (c : Char) : List Char → Option (List Char)
  | d :: rest => if d = c then some rest else none
  | [] => none

def isLeap (year : Nat) : Bool := year % 4 = 0 && (year % 100 ≠ 0 || year % 400 = 0)

def daysIn (year month : Nat) : Nat :=
  if month = 2 then if isLeap year then 29 else 28
  else if month = 4 ∨ month = 6 ∨ month = 9 ∨ month = 11 then 30 else 31

def date? (text : List Char) : Option (List Char) := do
  let (century, rest) ← pair? 0 99 text
  let (year, rest) ← pair? 0 99 rest
  let (month, rest) ← pair? 1 12 (← sign? '-' rest)
  let (_, rest) ← pair? 1 (daysIn (100 * century + year) month) (← sign? '-' rest)
  return rest

def time? (text : List Char) : Option (List Char) := do
  let (_, rest) ← pair? 0 23 text
  let (_, rest) ← pair? 0 59 (← sign? ':' rest)
  let (_, rest) ← pair? 0 60 (← sign? ':' rest)
  match rest with
  | '.' :: d :: rest => if isDecimal d then return rest.dropWhile isDecimal else none
  | '.' :: [] => none
  | rest => return rest

def offset? : List Char → Option (List Char)
  | [] => some []
  | c :: rest =>
    if c = 'Z' || c = 'z' then some rest
    else if c = '+' || c = '-' then do
      let (_, rest) ← pair? 0 23 rest
      let (_, rest) ← pair? 0 59 (← sign? ':' rest)
      return rest
    else none

/-- A date, a time, or both with an offset or without. -/
def isMoment (word : List Char) : Bool :=
  match date? word with
  | some [] => true
  | some (c :: rest) =>
    (c = 'T' || c = 't' || c = ' ') && ((time? rest).bind offset?) = some []
  | none => time? word = some []

def ofWord? (word : List Char) : Option Value :=
  match word with
  | ['t', 'r', 'u', 'e'] => some (.boolean true)
  | ['f', 'a', 'l', 's', 'e'] => some (.boolean false)
  | '0' :: 'x' :: rest => based? 16 (fun c => (Digit.value? c).isSome) rest
  | '0' :: 'o' :: rest => based? 8 (fun c => '0' ≤ c && c ≤ '7') rest
  | '0' :: 'b' :: rest => based? 2 (fun c => c = '0' || c = '1') rest
  | word =>
    let unsigned := (unsign word).2
    if unsigned = ['i', 'n', 'f'] ∨ unsigned = ['n', 'a', 'n'] then
      some (.float (String.ofList word))
    else if isMoment word then some (.moment (String.ofList word))
    else decimal? word

def isWordChar (c : Char) : Bool :=
  isDecimal c || ('a' ≤ c && c ≤ 'z') || ('A' ≤ c && c ≤ 'Z') ||
    c = '+' || c = '-' || c = '_' || c = '.' || c = ':'

/-- The word at the front of a text. A date and a time may be one word with a space in it. -/
def word (text : List Char) : List Char × List Char :=
  let first := text.takeWhile isWordChar
  match text.dropWhile isWordChar with
  | ' ' :: d :: rest =>
    if date? first = some [] && isDecimal d then
      (first ++ ' ' :: (d :: rest).takeWhile isWordChar, (d :: rest).dropWhile isWordChar)
    else (first, ' ' :: d :: rest)
  | rest => (first, rest)

def scalarValue? (text : List Char) : Option (Value × List Char) :=
  let (first, rest) := word text
  (ofWord? first).map fun value => (value, rest)

end CapabilityGuard.Toml
