import CapabilityGuard.Text.Digit

/-! JSON texts as trees. A number keeps its spelling. A string that has no meaning as Unicode text,
because an escape names half of a pair alone, is kept as `none`: such a string is well formed,
but nothing can be read from it. -/
namespace CapabilityGuard.Json

inductive Value
  | null
  | bool (value : Bool)
  | number (spelling : List Char)
  | string (text : Option String)
  | array (items : List Value)
  | object (entries : List (Option String × Value))

/-- Space, tab, line feed and carriage return. -/
def isBlank (c : Char) : Bool := c = ' ' || c = '\t' || c = '\n' || c = '\r'

def skip (text : List Char) : List Char := text.dropWhile isBlank

/-! Strings. -/

/-- What a string is made of: characters and escaped 16-bit units. -/
inductive Piece
  | char (c : Char)
  | unit (code : Nat)

/-- The unit that four digits spell. -/
def unitOf? (digits : List Char) : Option Nat :=
  if digits.all (fun c => (Digit.value? c).isSome) then some (Digit.numeral 16 digits) else none

def simpleEscape? : Char → Option Char
  | '"' => some '"'
  | '\\' => some '\\'
  | '/' => some '/'
  | 'b' => some '\x08'
  | 'f' => some '\x0c'
  | 'n' => some '\n'
  | 'r' => some '\r'
  | 't' => some '\t'
  | _ => none

/-- The pieces up to the closing quote, and what follows it. -/
def pieces? : List Char → Option (List Piece × List Char)
  | [] => none
  | '"' :: rest => some ([], rest)
  | '\\' :: 'u' :: a :: b :: c :: d :: rest => do
    let unit ← unitOf? [a, b, c, d]
    let (pieces, rest) ← pieces? rest
    return (.unit unit :: pieces, rest)
  | '\\' :: e :: rest => do
    let c ← simpleEscape? e
    let (pieces, rest) ← pieces? rest
    return (.char c :: pieces, rest)
  | c :: rest => do
    if c.toNat < 32 then none
    let (pieces, rest) ← pieces? rest
    return (.char c :: pieces, rest)

def isLead (code : Nat) : Bool := 0xD800 ≤ code && code < 0xDC00

def isTrail (code : Nat) : Bool := 0xDC00 ≤ code && code < 0xE000

/-- The characters of the pieces. A leading half and a trailing half next to it are one
character; no other half is any. -/
def assemble? : List Piece → Option (List Char)
  | [] => some []
  | .char c :: rest => (assemble? rest).map (c :: ·)
  | .unit lead :: .unit trail :: rest =>
    if isLead lead && isTrail trail then
      (assemble? rest).map
        (Char.ofNat (0x10000 + (lead - 0xD800) * 0x400 + (trail - 0xDC00)) :: ·)
    else if isLead lead || isTrail lead then none
    else (assemble? (.unit trail :: rest)).map (Char.ofNat lead :: ·)
  | .unit code :: rest =>
    if isLead code || isTrail code then none
    else (assemble? rest).map (Char.ofNat code :: ·)

def string? (text : List Char) : Option (Option String × List Char) := do
  let (pieces, rest) ← pieces? text
  return ((assemble? pieces).map String.ofList, rest)

/-! Numbers. -/

/-- One or more digits. -/
def digits? (text : List Char) : Option (List Char × List Char) :=
  match text.takeWhile Digit.isDecimal with
  | [] => none
  | digits => some (digits, text.dropWhile Digit.isDecimal)

/-- A fraction, or nothing. -/
def fraction? : List Char → Option (List Char × List Char)
  | '.' :: rest => do
    let (digits, rest) ← digits? rest
    return ('.' :: digits, rest)
  | text => some ([], text)

/-- An exponent, or nothing. -/
def exponent? : List Char → Option (List Char × List Char)
  | e :: rest =>
    if e = 'e' || e = 'E' then
      let (sign, rest) : List Char × List Char := match rest with
        | '+' :: rest => (['+'], rest)
        | '-' :: rest => (['-'], rest)
        | rest => ([], rest)
      do
        let (digits, rest) ← digits? rest
        return (e :: sign ++ digits, rest)
    else some ([], e :: rest)
  | [] => some ([], [])

/-- A number whose whole part has no leading zero. -/
def number? (text : List Char) : Option (List Char × List Char) := do
  let (sign, rest) : List Char × List Char := match text with
    | '-' :: rest => (['-'], rest)
    | rest => ([], rest)
  let (whole, rest) ← digits? rest
  if whole.head? = some '0' ∧ whole ≠ ['0'] then none
  let (fraction, rest) ← fraction? rest
  let (exponent, rest) ← exponent? rest
  return (sign ++ whole ++ fraction ++ exponent, rest)

/-! Values. The number bounds how often the three readers call each other. -/

mutual

def value? : Nat → List Char → Option (Value × List Char)
  | 0, _ => none
  | fuel + 1, text =>
    match text with
    | 'n' :: 'u' :: 'l' :: 'l' :: rest => some (.null, rest)
    | 't' :: 'r' :: 'u' :: 'e' :: rest => some (.bool true, rest)
    | 'f' :: 'a' :: 'l' :: 's' :: 'e' :: rest => some (.bool false, rest)
    | '"' :: rest => do
      let (text, rest) ← string? rest
      return (.string text, rest)
    | '[' :: rest =>
      match skip rest with
      | ']' :: rest => some (.array [], rest)
      | rest => do
        let (items, rest) ← items? fuel rest
        return (.array items, rest)
    | '{' :: rest =>
      match skip rest with
      | '}' :: rest => some (.object [], rest)
      | rest => do
        let (entries, rest) ← entries? fuel rest
        return (.object entries, rest)
    | text => do
      let (spelling, rest) ← number? text
      return (.number spelling, rest)

/-- One or more values and the closing bracket. -/
def items? : Nat → List Char → Option (List Value × List Char)
  | 0, _ => none
  | fuel + 1, text => do
    let (item, rest) ← value? fuel text
    match skip rest with
    | ']' :: rest => return ([item], rest)
    | ',' :: rest =>
      let (items, rest) ← items? fuel (skip rest)
      return (item :: items, rest)
    | _ => none

/-- One or more entries and the closing brace. -/
def entries? : Nat → List Char → Option (List (Option String × Value) × List Char)
  | 0, _ => none
  | fuel + 1, text => do
    let '"' :: rest := text | none
    let (key, rest) ← string? rest
    let ':' :: rest := skip rest | none
    let (value, rest) ← value? fuel (skip rest)
    match skip rest with
    | '}' :: rest => return ([(key, value)], rest)
    | ',' :: rest =>
      let (entries, rest) ← entries? fuel (skip rest)
      return ((key, value) :: entries, rest)
    | _ => none

end

/-- The value of a text that holds nothing else but blanks. -/
def ofText? (text : String) : Option Value :=
  let chars := skip text.toList
  match value? (2 * chars.length + 1) chars with
  | some (value, rest) => if (skip rest).isEmpty then some value else none
  | none => none

end CapabilityGuard.Json
