import ServiceWatch.Text.Quoted

/-!
# Outlines

An outline is the shape of a value laid out for a reader: names, brackets and parts. It is written
either on one line (`Outline.compact`) or over several, one part a line, indented by four spaces
and each part followed by a comma (`Outline.pretty`). A collection without parts stays `[]` or a
pair of braces, and a record or tuple without parts is its bare name.
-/

namespace ServiceWatch.Text

/-- The brackets around the parts of an outline. -/
inductive Brackets
  | record
  | tuple
  | list
  | set
  deriving DecidableEq

/-- What a value looks like. -/
inductive Outline
  | leaf (text : String)
  | field (name : String) (value : Outline)
  | node (name : String) (brackets : Brackets) (parts : List Outline)

namespace Brackets

/-- What stands for brackets around nothing. -/
def hollow : Brackets → String
  | record => ""
  | tuple => ""
  | list => "[]"
  | set => "\x7b\x7d"

/-- What opens the parts on one line. -/
def opening : Brackets → String
  | record => " \x7b "
  | tuple => "("
  | list => "["
  | set => "\x7b"

/-- What closes the parts on one line. -/
def closing : Brackets → String
  | record => " \x7d"
  | tuple => ")"
  | list => "]"
  | set => "\x7d"

/-- What ends the first line when each part has its own. -/
def head : Brackets → String
  | record => " \x7b"
  | tuple => "("
  | list => "["
  | set => "\x7b"

/-- The last line when each part has its own. -/
def foot : Brackets → String
  | record => "\x7d"
  | tuple => ")"
  | list => "]"
  | set => "\x7d"

end Brackets

namespace Outline

/-- A named record of fields. -/
def record (name : String) (fields : List (String × Outline)) : Outline :=
  node name .record (fields.map fun f => field f.1 f.2)

/-- A name applied to parts. -/
def tuple (name : String) (parts : List Outline) : Outline := node name .tuple parts

/-- A sequence. -/
def list (parts : List Outline) : Outline := node "" .list parts

/-- A set, in the order of its parts. -/
def set (parts : List Outline) : Outline := node "" .set parts

/-- A text in quotes. -/
def text (s : String) : Outline := leaf (quoted s)

/-- A truth value. -/
def truth (b : Bool) : Outline := leaf (if b then "true" else "false")

/-- A whole number. -/
def number (n : Int) : Outline := leaf (toString n)

/-- A value that may be missing. -/
def optional : Option Outline → Outline
  | none => leaf "None"
  | some part => tuple "Some" [part]

mutual

/-- An outline on one line. -/
def compact : Outline → String
  | leaf text => text
  | field name value => name ++ ": " ++ compact value
  | node name brackets [] => name ++ brackets.hollow
  | node name brackets (part :: parts) =>
    name ++ brackets.opening ++ ", ".intercalate (compact part :: compactAll parts)
      ++ brackets.closing

/-- Several outlines, each on one line. -/
def compactAll : List Outline → List String
  | [] => []
  | part :: parts => compact part :: compactAll parts

end

/-- Puts a text before the first line. -/
def labelled (label : String) : List String → List String
  | [] => [label]
  | line :: lines => (label ++ line) :: lines

/-- Indents lines by one level and ends the last one with a comma. -/
def inset : List String → List String
  | [] => []
  | [line] => ["    " ++ line ++ ","]
  | line :: lines => ("    " ++ line) :: inset lines

mutual

/-- The lines of an outline that gives each part lines of its own. -/
def lines : Outline → List String
  | leaf text => [text]
  | field name value => labelled (name ++ ": ") (lines value)
  | node name brackets [] => [name ++ brackets.hollow]
  | node name brackets (part :: parts) =>
    (name ++ brackets.head) :: (inset (lines part) ++ insetAll parts) ++ [brackets.foot]

/-- The indented lines of several outlines, one after the other. -/
def insetAll : List Outline → List String
  | [] => []
  | part :: parts => inset (lines part) ++ insetAll parts

end

/-- An outline over several lines. -/
def pretty (o : Outline) : String := "\n".intercalate o.lines

end Outline

end ServiceWatch.Text
