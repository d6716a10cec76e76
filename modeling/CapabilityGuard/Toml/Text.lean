import CapabilityGuard.Text.Digit

/-! The small pieces of a TOML text: blanks, comments, line ends and the four kinds of strings.
Every reader takes the text from where it stands and returns what follows the piece. -/
namespace CapabilityGuard.Toml

def isBlank (c : Char) : Bool := c = ' ' || c = '\t'

def blanks (text : List Char) : List Char := text.dropWhile isBlank

/-- Characters that may stand in comments and strings: no control character but the tab. -/
def isPrintable (c : Char) : Bool := c = '\t' || (32 ≤ c.toNat && c.toNat ≠ 127)

/-- The rest of a line that holds nothing more but blanks and a comment, and the line's end. -/
def lineEnd? (text : List Char) : Option (List Char) :=
  let ended : List Char → Option (List Char)
    | [] => some []
    | '\n' :: rest => some rest
    | '\r' :: '\n' :: rest => some rest
    | _ => none
  match blanks text with
  | '#' :: comment => ended (comment.dropWhile isPrintable)
  | text => ended text

/-- Passes over blanks, line ends and comments. The flag says whether a comment is open. -/
def space? : Bool → List Char → Option (List Char)
  | false, ' ' :: rest => space? false rest
  | false, '\t' :: rest => space? false rest
  | false, '#' :: rest => space? true rest
  | _, '\n' :: rest => space? false rest
  | _, '\r' :: '\n' :: rest => space? false rest
  | false, text => some text
  | true, c :: rest => if isPrintable c then space? true rest else none
  | true, [] => some []

/-! Escapes. -/

/-- The character whose number the digits spell. -/
def scalar? (digits : List Char) : Option Char :=
  let code := Digit.numeral 16 digits
  if digits.all (fun c => (Digit.value? c).isSome) ∧ code.isValidChar then some (Char.ofNat code)
  else none

def simpleEscape? : Char → Option Char
  | 'b' => some '\x08'
  | 'f' => some '\x0c'
  | 'n' => some '\n'
  | 'r' => some '\r'
  | 't' => some '\t'
  | '"' => some '"'
  | '\\' => some '\\'
  | _ => none

def consTo (c : Char) (read : Option (List Char × List Char)) : Option (List Char × List Char) :=
  read.map fun (chars, rest) => (c :: chars, rest)

/-! Strings on one line, from behind the opening quote. -/

def basic? : List Char → Option (List Char × List Char)
  | [] => none
  | '"' :: rest => some ([], rest)
  | '\\' :: 'u' :: a :: b :: c :: d :: rest => do
    consTo (← scalar? [a, b, c, d]) (basic? rest)
  | '\\' :: 'U' :: a :: b :: c :: d :: e :: f :: g :: h :: rest => do
    consTo (← scalar? [a, b, c, d, e, f, g, h]) (basic? rest)
  | '\\' :: e :: rest => do consTo (← simpleEscape? e) (basic? rest)
  | c :: rest => if isPrintable c && c ≠ '\\' then consTo c (basic? rest) else none

def literal? : List Char → Option (List Char × List Char)
  | [] => none
  | '\'' :: rest => some ([], rest)
  | c :: rest => if isPrintable c then consTo c (literal? rest) else none

/-! Strings on several lines. Up to two quotes may stand before the closing three. -/

/-- Whether only blanks stand before the line's end. -/
def endsLine (text : List Char) : Bool :=
  match blanks text with
  | '\n' :: _ => true
  | '\r' :: '\n' :: _ => true
  | _ => false

/-- The flag says whether blanks and line ends are passed over, as they are behind a backslash
that ends its line. -/
def lines? : Bool → List Char → Option (List Char × List Char)
  | _, [] => none
  | _, '"' :: '"' :: '"' :: '"' :: '"' :: rest => some (['"', '"'], rest)
  | _, '"' :: '"' :: '"' :: '"' :: rest => some (['"'], rest)
  | _, '"' :: '"' :: '"' :: rest => some ([], rest)
  | true, ' ' :: rest => lines? true rest
  | true, '\t' :: rest => lines? true rest
  | true, '\n' :: rest => lines? true rest
  | true, '\r' :: '\n' :: rest => lines? true rest
  | _, '\\' :: 'u' :: a :: b :: c :: d :: rest => do
    consTo (← scalar? [a, b, c, d]) (lines? false rest)
  | _, '\\' :: 'U' :: a :: b :: c :: d :: e :: f :: g :: h :: rest => do
    consTo (← scalar? [a, b, c, d, e, f, g, h]) (lines? false rest)
  | _, '\\' :: e :: rest =>
    if endsLine (e :: rest) then lines? true rest
    else do consTo (← simpleEscape? e) (lines? false rest)
  | _, '\n' :: rest => consTo '\n' (lines? false rest)
  | _, '\r' :: '\n' :: rest => consTo '\n' (lines? false rest)
  | _, c :: rest => if isPrintable c && c ≠ '\\' then consTo c (lines? false rest) else none

def literalLines? : List Char → Option (List Char × List Char)
  | [] => none
  | '\'' :: '\'' :: '\'' :: '\'' :: '\'' :: rest => some (['\'', '\''], rest)
  | '\'' :: '\'' :: '\'' :: '\'' :: rest => some (['\''], rest)
  | '\'' :: '\'' :: '\'' :: rest => some ([], rest)
  | '\n' :: rest => consTo '\n' (literalLines? rest)
  | '\r' :: '\n' :: rest => consTo '\n' (literalLines? rest)
  | c :: rest => if isPrintable c then consTo c (literalLines? rest) else none

/-- A line end behind the opening quotes is not part of the string. -/
def afterOpening : List Char → List Char
  | '\n' :: rest => rest
  | '\r' :: '\n' :: rest => rest
  | text => text

/-- A string of any kind. -/
def string? : List Char → Option (String × List Char)
  | '"' :: '"' :: '"' :: rest => asString (lines? false (afterOpening rest))
  | '"' :: rest => asString (basic? rest)
  | '\'' :: '\'' :: '\'' :: rest => asString (literalLines? (afterOpening rest))
  | '\'' :: rest => asString (literal? rest)
  | _ => none
where
  asString (read : Option (List Char × List Char)) : Option (String × List Char) :=
    read.map fun (chars, rest) => (String.ofList chars, rest)

/-! Keys. -/

def isBare (c : Char) : Bool :=
  ('0' ≤ c && c ≤ '9') || ('a' ≤ c && c ≤ 'z') || ('A' ≤ c && c ≤ 'Z') || c = '-' || c = '_'

def simpleKey? : List Char → Option (String × List Char)
  | '"' :: rest => (basic? rest).map fun (chars, rest) => (String.ofList chars, rest)
  | '\'' :: rest => (literal? rest).map fun (chars, rest) => (String.ofList chars, rest)
  | text =>
    match text.takeWhile isBare with
    | [] => none
    | chars => some (String.ofList chars, text.dropWhile isBare)

/-- The keys before the last of a dotted key, the last one, and the rest of the text. The number
bounds how many keys there may be. -/
def key? : Nat → List Char → Option (List String × String × List Char)
  | 0, _ => none
  | limit + 1, text => do
    let (part, rest) ← simpleKey? (blanks text)
    match blanks rest with
    | '.' :: rest => do
      let (path, last, rest) ← key? limit rest
      return (part :: path, last, rest)
    | rest => return ([], part, rest)

/-- A dotted key may have up to 79 parts. -/
def maxParts : Nat := 79

end CapabilityGuard.Toml
