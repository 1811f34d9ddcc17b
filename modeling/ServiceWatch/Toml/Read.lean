import ServiceWatch.Toml.Key
import ServiceWatch.Toml.Number
import ServiceWatch.Toml.Tree

/-!
# Reading values

The value at the beginning of a text, and what follows it. The first character decides what kind
of value it is. Arrays may run over several lines and end with a comma; inline tables may not.
-/

namespace ServiceWatch.Toml

/-- Reads something at the beginning of a text; gives what follows it as well. -/
abbrev Reader (α : Type) := List Char → Option (α × List Char)

/-- A value without parts. -/
def readScalar : Reader Value
  | '"' :: r => (Quote.read ('"' :: r)).map fun (s, rest) => (.string (String.ofList s), rest)
  | '\'' :: r => (Quote.read ('\'' :: r)).map fun (s, rest) => (.string (String.ofList s), rest)
  | 't' :: 'r' :: 'u' :: 'e' :: r => some (.boolean true, r)
  | 'f' :: 'a' :: 'l' :: 's' :: 'e' :: r => some (.boolean false, r)
  | cs =>
    match DateTime.read cs with
    | some (d, rest) => some (.dateTime d, rest)
    | none => readNumber cs

/-- The rest of an array in which at most so many items follow. -/
def readItems (read : Reader Value) : Nat → Reader (List Value)
  | 0, _ => none
  | count + 1, cs => do
    match ← skipFiller false cs with
    | ']' :: r => some ([], r)
    | cs =>
      let (v, r) ← read cs
      match ← skipFiller false r with
      | ',' :: r =>
        let (vs, r) ← readItems read count r
        some (v :: vs, r)
      | ']' :: r => some ([v], r)
      | _ => none

/-- A key with its value, and what follows them. -/
def readPair (read : Reader Value) : Reader (List String × Value)
  | cs => do
    let (path, r) ← readKey cs
    let r ← expect '=' r
    let (v, r) ← read (skipSpaces r)
    some ((path, v), r)

/-- The rest of an inline table that has entries, in which at most so many follow. -/
def readPairs (read : Reader Value) : Nat → Reader (List (List String × Value))
  | 0, _ => none
  | count + 1, cs => do
    let (pair, r) ← readPair read cs
    match skipSpaces r with
    | ',' :: r =>
      let (pairs, r) ← readPairs read count r
      some (pair :: pairs, r)
    | '\x7d' :: r => some ([pair], r)
    | _ => none

/-- Adds a value under a dotted key. -/
def Branch.assign (b : Branch) (path : List String) (v : Value) : Option Branch :=
  match path.getLast? with
  | some key => b.define path.dropLast key v
  | none => none

/-- The table of an inline table's pairs. -/
def tableOfPairs (pairs : List (List String × Value)) : Option Value :=
  (pairs.foldlM (fun b p => Branch.assign b p.1 p.2) []).map fun b => .table (Tree.toEntries b)

/-- The rest of an inline table. -/
def readInline (read : Reader Value) : Reader Value
  | cs =>
    match skipSpaces cs with
    | '\x7d' :: r => some (.table [], r)
    | cs => do
      let (pairs, r) ← readPairs read cs.length cs
      some (← tableOfPairs pairs, r)

/-- A value in which arrays and inline tables are nested no deeper than so many. -/
def readValue : Nat → Reader Value
  | 0 => readScalar
  | depth + 1 => fun cs =>
    match cs with
    | '[' :: r => (readItems (readValue depth) (r.length + 1) r).map fun (vs, rest) =>
      (.array vs, rest)
    | '\x7b' :: r => readInline (readValue depth) r
    | cs => readScalar cs

end ServiceWatch.Toml
