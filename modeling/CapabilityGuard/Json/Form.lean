import CapabilityGuard.Json.Value
import CapabilityGuard.Octets.Basic

/-! How values look in JSON. A form reads a value of a type from a tree and writes it as compact
text. Numbers are whole and without a sign. A record is an object or the array of its fields in
order; unknown fields are passed over and repeated ones refused. -/
namespace CapabilityGuard.Json

structure Form (α : Type) where
  read : Value → Option α
  write : α → String

def quotedChar (c : Char) : String :=
  if c = '"' then "\\\"" else if c = '\\' then "\\\\"
  else if c = '\x08' then "\\b" else if c = '\x0c' then "\\f"
  else if c = '\n' then "\\n" else if c = '\r' then "\\r" else if c = '\t' then "\\t"
  else if c.toNat < 16 then "\\u000" ++ String.ofList (Nat.toDigits 16 c.toNat)
  else if c.toNat < 32 then "\\u00" ++ String.ofList (Nat.toDigits 16 c.toNat)
  else String.singleton c

def quoted (text : String) : String := "\"" ++ String.join (text.toList.map quotedChar) ++ "\""

def bracketed (items : List String) : String := "[" ++ String.intercalate "," items ++ "]"

def record (entries : List (String × String)) : String :=
  let written := entries.map fun (name, value) => quoted name ++ ":" ++ value
  "\x7b" ++ String.intercalate "," written ++ "\x7d"

/-- The number spelled by digits without a leading zero. -/
def natural? (spelling : List Char) : Option Nat :=
  if spelling ≠ [] ∧ spelling.all Digit.isDecimal ∧
      (spelling.head? ≠ some '0' ∨ spelling = ['0']) then
    some (Digit.numeral 10 spelling)
  else none

/-- The fields of a record that are there, each in its place. -/
def fields? (names : List String) : Value → Option (List (Option Value))
  | .array items =>
    if items.length ≤ names.length then
      some (items.map some ++ List.replicate (names.length - items.length) none)
    else none
  | .object entries =>
    let named (name : String) := entries.filter fun entry => entry.1 = some name
    if entries.all (fun entry => entry.1.isSome) ∧
        names.all (fun name => (named name).length ≤ 1) then
      some (names.map fun name => (named name).head?.map Prod.snd)
    else none
  | _ => none

namespace Form

variable {α β : Type}

def map (form : Form α) (make : α → β) (view : β → α) : Form β where
  read value := (form.read value).map make
  write b := form.write (view b)

/-- Whole numbers from zero that are less than `bound`. -/
def below (bound : Nat) : Form Nat where
  read
    | .number spelling => do
      let n ← natural? spelling
      if n < bound then return n else none
    | _ => none
  write := toString

def byte : Form UInt8 := (below UInt8.size).map Nat.toUInt8 UInt8.toNat

def word : Form UInt32 := (below UInt32.size).map Nat.toUInt32 UInt32.toNat

def hyper : Form UInt64 := (below UInt64.size).map Nat.toUInt64 UInt64.toNat

def text : Form String where
  read
    | .string text => text
    | _ => none
  write := quoted

def list (form : Form α) : Form (List α) where
  read
    | .array items => items.mapM form.read
    | _ => none
  write values := bracketed (values.map form.write)

def octets (n : Nat) : Form (Octets n) where
  read value := do Octets.ofList? n (← (list byte).read value)
  write o := (list byte).write o.toList

end Form

end CapabilityGuard.Json
