/-!
# Blanks, comments and line ends

The parts of a TOML text that carry no value. Spaces and tabs may stand around most things; lines
end with a line feed, alone or after a carriage return, or with the text; a comment runs from a
number sign to the end of its line and has no control characters but tabs.
-/

namespace ServiceWatch.Toml

/-- A space or a tab. -/
def isSpace (c : Char) : Bool := c = ' ' || c = '\t'

/-- A control character of ASCII. -/
def isControl (c : Char) : Bool := c.toNat < 0x20 || c.toNat = 0x7F

/-- A character that can stand in a text without being told apart: anything but control
characters, tabs excepted. -/
def isPlain (c : Char) : Bool := c = '\t' || !isControl c

/-- The text after its leading spaces. -/
def skipSpaces (cs : List Char) : List Char := cs.dropWhile isSpace

/-- The text after a line feed or a carriage return and a line feed. -/
def newline? : List Char → Option (List Char)
  | '\n' :: r => some r
  | '\r' :: '\n' :: r => some r
  | _ => none

/-- The text after a line end, if it begins with one. -/
def skipNewline (cs : List Char) : List Char := (newline? cs).getD cs

/-- The text after a comment, if it begins with one. -/
def skipComment : List Char → List Char
  | '#' :: r => r.dropWhile isPlain
  | cs => cs

/-- The text after the rest of a line on which nothing but a comment may follow. -/
def lineEnd? (cs : List Char) : Option (List Char) :=
  match skipComment (skipSpaces cs) with
  | [] => some []
  | rest => newline? rest

/-- The text after spaces, line ends and whole comments, in which `inComment` tells whether it
begins inside a comment. A comment needs a line end behind it. -/
def skipFiller (inComment : Bool) : List Char → Option (List Char)
  | [] => if inComment then none else some []
  | '\n' :: r => skipFiller false r
  | '\r' :: '\n' :: r => skipFiller false r
  | c :: r =>
    if inComment then
      if isPlain c then skipFiller true r else none
    else if c = '#' then skipFiller true r
    else if isSpace c then skipFiller false r
    else some (c :: r)

end ServiceWatch.Toml
