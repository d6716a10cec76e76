import CapabilityGuard.Toml.Scalar
import CapabilityGuard.Toml.Text

/-! TOML documents. Lines are read from the top, each adds to the table that the last header
opened, and the result is the table of the whole document. -/
namespace CapabilityGuard.Toml

/-- Arrays and tables in braces may stand in each other up to 79 deep. -/
def maxDepth : Nat := 79

/-! The first number bounds how often the readers call each other, the second how deep arrays
and tables may still go. -/

mutual

def value? : Nat → Nat → List Char → Option (Value × List Char)
  | 0, _, _ => none
  | fuel + 1, depth, text =>
    match text with
    | '"' :: _ | '\'' :: _ => do
      let (text, rest) ← string? text
      return (.string text, rest)
    | '[' :: rest =>
      match depth with
      | 0 => none
      | depth + 1 => do
        let (items, rest) ← items? fuel depth rest
        return (.array items, rest)
    | '{' :: rest =>
      match depth with
      | 0 => none
      | depth + 1 =>
        match blanks rest with
        | '}' :: rest => some (.table .inline [], rest)
        | rest => do
          let (entries, rest) ← entries? fuel depth [] rest
          return (.table .inline entries, rest)
    | text => scalarValue? text

/-- The items up to the closing bracket. -/
def items? : Nat → Nat → List Char → Option (List Value × List Char)
  | 0, _, _ => none
  | fuel + 1, depth, text => do
    match ← space? false text with
    | ']' :: rest => return ([], rest)
    | text =>
      let (item, rest) ← value? fuel depth text
      match ← space? false rest with
      | ']' :: rest => return ([item], rest)
      | ',' :: rest =>
        let (items, rest) ← items? fuel depth rest
        return (item :: items, rest)
      | _ => none

/-- One or more entries and the closing brace. -/
def entries? : Nat → Nat → Entries → List Char → Option (Entries × List Char)
  | 0, _, _, _ => none
  | fuel + 1, depth, entries, text => do
    let (path, key, rest) ← key? maxParts text
    let '=' :: rest := rest | none
    let (value, rest) ← value? fuel depth (blanks rest)
    let entries ← entries.add path key value .inline
    match blanks rest with
    | '}' :: rest => return (entries, rest)
    | ',' :: rest => entries? fuel depth entries rest
    | _ => none

end

/-- Reads the remaining lines. `current` is the path of the table that the last header opened. -/
def lines : Nat → List String → Entries → List Char → Option Entries
  | 0, _, _, _ => none
  | fuel + 1, current, root, text =>
    match blanks text with
    | [] => some root
    | '[' :: '[' :: rest => do
      let (path, key, rest) ← key? maxParts rest
      let ']' :: ']' :: rest := rest | none
      lines fuel (path ++ [key]) (← root.openElement path key) (← lineEnd? rest)
    | '[' :: rest => do
      let (path, key, rest) ← key? maxParts rest
      let ']' :: rest := rest | none
      lines fuel (path ++ [key]) (← root.openTable path key) (← lineEnd? rest)
    | text =>
      match lineEnd? text with
      | some rest => lines fuel current root rest
      | none => do
        let (path, key, rest) ← key? maxParts text
        let '=' :: rest := rest | none
        let rest := blanks rest
        let (value, rest) ← value? (2 * rest.length + 1) maxDepth rest
        let root ← root.update .implied (Entries.add path key value) current .header
        lines fuel current root (← lineEnd? rest)

/-- The table of a document. One byte order mark in front is passed over. -/
def ofText? (text : String) : Option Entries :=
  let chars := match text.toList with
    | '\ufeff' :: rest => rest
    | chars => chars
  lines (chars.length + 1) [] [] chars

end CapabilityGuard.Toml
