import ServiceWatch.Toml.Read

/-!
# Statements

A document is a sequence of statements, one a line: an assignment, the header of a table, or the
header of a new row in an array of tables. Blank lines and comments say nothing. Reading them is a
matter of the text alone; what they amount to is said in `ServiceWatch.Toml.Document`.
-/

namespace ServiceWatch.Toml

/-- A line that says something. -/
inductive Statement
  | assign (path : List String) (v : Value)
  | table (path : List String)
  | row (path : List String)

/-- A statement at the beginning of a line, and what follows it on the line. -/
def Statement.read : Reader Statement
  | '[' :: '[' :: r => do
    let (path, r) ← readKey r
    some (row path, ← expect ']' (← expect ']' r))
  | '[' :: r => do
    let (path, r) ← readKey r
    some (table path, ← expect ']' r)
  | cs => do
    let ((path, v), r) ← readPair (readValue nestingLimit) cs
    some (assign path v, r)

/-- The statements of a text of at most so many lines. -/
def Statement.readAll : Nat → List Char → Option (List Statement)
  | 0, _ => none
  | count + 1, cs =>
    match skipSpaces cs with
    | [] => some []
    | c :: r =>
      if c = '#' ∨ c = '\n' ∨ c = '\r' then do
        Statement.readAll count (← lineEnd? (c :: r))
      else do
        let (s, r) ← Statement.read (c :: r)
        let ss ← Statement.readAll count (← lineEnd? r)
        some (s :: ss)

/-- A text without a byte order mark at its beginning. -/
def withoutMark : List Char → List Char
  | '\ufeff' :: r => r
  | cs => cs

/-- The statements of a text. -/
def Statement.ofText (s : String) : Option (List Statement) :=
  Statement.readAll (s.length + 1) (withoutMark s.toList)

end ServiceWatch.Toml
