/-! TOML values and tables. A table remembers how it came to be, because that decides which later
lines may still add to it. Of floats and dates only their spelling is kept. -/
namespace CapabilityGuard.Toml

/-- How a table came to be: by a header, on the way to the table of a header, on the way to a
dotted key, or written in braces. -/
inductive Origin
  | header
  | implied
  | dotted
  | inline
deriving DecidableEq

inductive Value
  | string (text : String)
  | integer (value : Int)
  | float (spelling : String)
  | boolean (value : Bool)
  | moment (spelling : String)
  | array (items : List Value)
  | table (origin : Origin) (entries : List (String × Value))
  /-- An array of tables: those before the last, and the last, which is still open. -/
  | tables (earlier : List (List (String × Value))) (last : List (String × Value))

abbrev Entries := List (String × Value)

namespace Entries

def get? (entries : Entries) (key : String) : Option Value := List.lookup key entries

/-- Puts a value where the key stands, or behind all others. -/
def set (entries : Entries) (key : String) (value : Value) : Entries :=
  match entries with
  | [] => [(key, value)]
  | (k, v) :: rest => if k = key then (key, value) :: rest else (k, v) :: set rest key value

/-- Changes the table at a path of keys. Tables that are missing on the way are made with the
origin `way`, and of an array of tables the last one is meant. A header leads through any table
that is not in braces; a dotted key only through tables that no header and no braces made. -/
def update (way : Origin) (change : Origin → Entries → Option Entries) :
    List String → Origin → Entries → Option Entries
  | [], origin, entries => change origin entries
  | key :: path, _, entries =>
    match entries.get? key with
    | none => do
      let inner ← update way change path way []
      return entries.set key (.table way inner)
    | some (.table origin inner) =>
      if origin = .inline ∨ (way = .dotted ∧ origin = .header) then none
      else do
        let inner ← update way change path origin inner
        return entries.set key (.table origin inner)
    | some (.tables earlier last) => do
      let last ← update way change path .header last
      return entries.set key (.tables earlier last)
    | some _ => none

/-- Adds a new key to a table. Dotted keys end in tables that dotted keys made, and plain keys do
not. -/
def add (path : List String) (key : String) (value : Value) (origin : Origin)
    (entries : Entries) : Option Entries :=
  update .dotted
    (fun origin entries =>
      if path.isEmpty == decide (origin = .dotted) then none
      else if (entries.get? key).isSome then none
      else some (entries.set key value))
    path origin entries

/-- Opens the table that a header names. It is new, or has only been implied so far. -/
def openTable (path : List String) (key : String) (entries : Entries) : Option Entries :=
  update .implied
    (fun _ entries =>
      match entries.get? key with
      | none => some (entries.set key (.table .header []))
      | some (.table .implied inner) => some (entries.set key (.table .header inner))
      | some _ => none)
    path .header entries

/-- Opens a new table at the end of an array of tables. -/
def openElement (path : List String) (key : String) (entries : Entries) : Option Entries :=
  update .implied
    (fun _ entries =>
      match entries.get? key with
      | none => some (entries.set key (.tables [] []))
      | some (.tables earlier last) => some (entries.set key (.tables (earlier ++ [last]) []))
      | some _ => none)
    path .header entries

end Entries

end CapabilityGuard.Toml
