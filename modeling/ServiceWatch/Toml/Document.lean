import ServiceWatch.Toml.Statement

/-!
# Documents

What statements amount to. Assignments go into the table of the last header. A header ends the
table before it and opens a new one: a table header takes over a table that headers have only
passed through so far, which then counts from the new header on, and is refused for any other
table; a row header adds to an array of tables.

This is how the standard reader goes about it. What is proved of configurations rests on the rules of
`ServiceWatch.Toml.Codec` alone.
-/

namespace ServiceWatch.Toml

/-- The table that assignments go into. -/
inductive Place
  | top
  | table (path : List String) (key : String)
  | row (path : List String) (key : String)

/-- A document in the making: what is complete, and the table being filled. -/
structure Draft where
  finished : Branch
  place : Place
  current : Branch

namespace Draft

/-- The draft of an empty document. -/
def empty : Draft := ⟨[], .top, []⟩

/-- Puts a filled table under its key. -/
def close (d : Draft) : Option Branch :=
  match d.place with
  | .top => some d.current
  | .table path key =>
    (Branch.alter .passed (fun _ b =>
      match b.lookup key with
      | none => some ((), b ++ [(key, .table .own d.current)])
      | some _ => none) path .own d.finished).map Prod.snd
  | .row path key =>
    (Branch.alter .passed (fun _ b =>
      match b.lookup key with
      | some (.rows tables) =>
        some ((), b.replace key (.rows (tables ++ [.table .own d.current])))
      | _ => none) path .own d.finished).map Prod.snd

/-- Opens the table of a header. -/
def openTable (finished : Branch) (path : List String) (key : String) : Option Draft :=
  (Branch.alter .passed (fun _ b =>
    match b.lookup key with
    | none => some ([], b)
    | some (.table .passed inner) => some (inner, b.drop key)
    | some _ => none) path .own finished).map fun (current, finished) =>
      ⟨finished, .table path key, current⟩

/-- Opens a row of an array of tables. -/
def openRow (finished : Branch) (path : List String) (key : String) : Option Draft :=
  (Branch.alter .passed (fun _ b =>
    match b.lookup key with
    | none => some ((), b ++ [(key, .rows [])])
    | some (.rows _) => some ((), b)
    | some _ => none) path .own finished).map fun (_, finished) =>
      ⟨finished, .row path key, []⟩

/-- Takes a statement in. -/
def take (d : Draft) : Statement → Option Draft
  | .assign path v => (d.current.assign path v).map fun b => { d with current := b }
  | .table path =>
    match path.getLast?, d.close with
    | some key, some finished => openTable finished path.dropLast key
    | _, _ => none
  | .row path =>
    match path.getLast?, d.close with
    | some key, some finished => openRow finished path.dropLast key
    | _, _ => none

end Draft

/-- The document that statements amount to. -/
def Document.ofStatements? (ss : List Statement) : Option Document := do
  let d ← ss.foldlM Draft.take Draft.empty
  some (Tree.toEntries (← d.close))

/-- The document of a text; nothing if the text is not in order. -/
def Document.parse? (s : String) : Option Document := do
  Document.ofStatements? (← Statement.ofText s)

end ServiceWatch.Toml
