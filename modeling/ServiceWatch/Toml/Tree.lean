import ServiceWatch.Toml.Value

/-!
# Tables in the making

While a document or an inline table is read, its tables are kept in a form that remembers how they
came about, since that decides what may still be added: a table of its own header or an inline
table is complete, one that a header only passes through may still get a header, and one that
dotted keys made may get more dotted keys. `Tree.alter` walks along a path and creates the tables
that are missing; it refuses a path through anything but tables and, for dotted keys, through
complete ones.
-/

namespace ServiceWatch.Toml

/-- How a table came about. -/
inductive Origin
  | own
  | passed
  | dotted
  deriving DecidableEq

/-- What stands behind a key of a table in the making. -/
inductive Tree
  | value (v : Value)
  | table (origin : Origin) (entries : List (String × Tree))
  | rows (tables : List Tree)

/-- The entries of a table in the making. -/
abbrev Branch := List (String × Tree)

/-- The entries with another tree behind a key that is there. -/
def Branch.replace (b : Branch) (key : String) (t : Tree) : Branch :=
  b.map fun e => if e.1 = key then (key, t) else e

/-- The entries without a key. -/
def Branch.drop (b : Branch) (key : String) : Branch := b.filter fun e => e.1 ≠ key

/-- Changes the table at the end of a path and gives what the change answers. Missing tables on
the way are made with the given origin; of rows the last one is meant. -/
def Branch.alter {α : Type} (made : Origin)
    (change : Origin → Branch → Option (α × Branch)) :
    List String → Origin → Branch → Option (α × Branch)
  | [], origin, b => change origin b
  | key :: path, _, b =>
    match b.lookup key with
    | none => do
      let (answer, inner) ← Branch.alter made change path made []
      some (answer, b ++ [(key, .table made inner)])
    | some (.value _) => none
    | some (.table origin inner) =>
      if made = .dotted ∧ origin = .own then none
      else do
        let (answer, inner) ← Branch.alter made change path origin inner
        some (answer, b.replace key (.table origin inner))
    | some (.rows tables) =>
      match tables.getLast? with
      | some (.table origin inner) => do
        let (answer, inner) ← Branch.alter made change path origin inner
        some (answer, b.replace key (.rows (tables.dropLast ++ [.table origin inner])))
      | _ => none

/-- Adds a value under a key whose last part is new; dotted keys do not mix with others in a
table. -/
def Branch.define (b : Branch) (path : List String) (key : String) (v : Value) : Option Branch :=
  (Branch.alter .dotted (fun origin inner =>
    -- A dotted key ends in a table that dotted keys made, a plain one in the table at hand.
    if origin = .dotted ↔ path = [] then none
    else if (inner.lookup key).isSome then none
    else some ((), inner ++ [(key, .value v)])) path .own b).map Prod.snd

mutual

/-- The value that a finished tree stands for. -/
def Tree.toValue : Tree → Value
  | value v => v
  | table _ entries => .table (Tree.toEntries entries)
  | rows tables => .array (Tree.toItems tables)

/-- The entries that finished trees stand for. -/
def Tree.toEntries : List (String × Tree) → List (String × Value)
  | [] => []
  | (key, t) :: rest => (key, t.toValue) :: Tree.toEntries rest

/-- The items that finished trees stand for. -/
def Tree.toItems : List Tree → List Value
  | [] => []
  | t :: rest => t.toValue :: Tree.toItems rest

end

end ServiceWatch.Toml
