import ServiceWatch.Toml.Blank

/-!
# Quoted texts

The four ways to quote a text in TOML. A *basic* text stands between quotation marks and may have
escapes, a *literal* one stands between apostrophes and is taken as it is; either may also stand
between triple marks and run over several lines. Behind triple marks the first line end is
dropped, line ends read as line feeds, and up to two marks right before the closing three belong
to the text.

`Quote.write` writes a text in one form, and `Quote.best` picks the form: the plainest that needs no
escapes if there is one. `Quote.read` is how the standard reader reads any of them; what they stand
for is said without it in `ServiceWatch.Toml.Spelling`.
-/

namespace ServiceWatch.Toml.Quote

/-- The value of a hexadecimal digit. -/
def hexValue? (c : Char) : Option Nat :=
  if '0' ≤ c ∧ c ≤ '9' then some (c.toNat - '0'.toNat)
  else if 'a' ≤ c ∧ c ≤ 'f' then some (c.toNat - 'a'.toNat + 10)
  else if 'A' ≤ c ∧ c ≤ 'F' then some (c.toNat - 'A'.toNat + 10)
  else none

/-- The number written by hexadecimal digits, the highest first. -/
def hexNumber? (ds : List Char) : Option Nat :=
  ds.foldl (fun n? d => n?.bind fun n => (hexValue? d).map fun v => 16 * n + v) (some 0)

/-- The character with a number, if there is one. -/
def scalar? (n : Nat) : Option Char :=
  if h : n.isValidChar then some (Char.ofNatAux n h) else none

/-- The character written by hexadecimal digits. -/
def hexScalar? (ds : List Char) : Option Char := (hexNumber? ds).bind scalar?

/-- The character behind a backslash that stands for one by a single letter. -/
def letter? (c : Char) : Option Char :=
  match c with
  | 'b' => some '\x08'
  | 't' => some '\t'
  | 'n' => some '\n'
  | 'f' => some '\x0c'
  | 'r' => some '\r'
  | '"' => some '"'
  | '\\' => some '\\'
  | _ => none

/-- Puts a character before what was read. -/
def before (c : Char) : Option (List Char × List Char) → Option (List Char × List Char)
  | some (cs, rest) => some (c :: cs, rest)
  | none => none

/-- The rest of a basic text on one line, and what follows its closing mark. -/
def basic : List Char → Option (List Char × List Char)
  | [] => none
  | '"' :: r => some ([], r)
  | '\\' :: 'u' :: a :: b :: c :: d :: r =>
    match hexScalar? [a, b, c, d] with
    | some x => before x (basic r)
    | none => none
  | '\\' :: 'U' :: a :: b :: c :: d :: e :: f :: g :: h :: r =>
    match hexScalar? [a, b, c, d, e, f, g, h] with
    | some x => before x (basic r)
    | none => none
  | '\\' :: c :: r =>
    match letter? c with
    | some x => before x (basic r)
    | none => none
  | c :: r => if isPlain c && c ≠ '\\' then before c (basic r) else none

/-- The rest of a literal text on one line, and what follows its closing mark. -/
def literal : List Char → Option (List Char × List Char)
  | [] => none
  | '\'' :: r => some ([], r)
  | c :: r => if isPlain c then before c (literal r) else none

/-- Up to two marks at the beginning of a text. -/
def spareMarks (mark : Char) : List Char → List Char × List Char
  | a :: b :: r =>
    if a = mark then if b = mark then ([a, b], r) else ([a], b :: r) else ([], a :: b :: r)
  | [a] => if a = mark then ([a], []) else ([], [a])
  | [] => ([], [])

/-- Whether nothing but spaces stands before the end of the line. -/
def endsLine (cs : List Char) : Bool := (newline? (skipSpaces cs)).isSome

/-- The rest of a basic text over several lines, and what follows its closing marks. Behind a
backslash at the end of a line, `skipping` tells that spaces and line ends are dropped. -/
def basicLines (skipping : Bool) : List Char → Option (List Char × List Char)
  | [] => none
  | '"' :: '"' :: '"' :: r => some (spareMarks '"' r)
  | '\n' :: r => if skipping then basicLines true r else before '\n' (basicLines false r)
  | '\r' :: '\n' :: r => if skipping then basicLines true r else before '\n' (basicLines false r)
  | '\\' :: 'u' :: a :: b :: c :: d :: r =>
    match hexScalar? [a, b, c, d] with
    | some x => before x (basicLines false r)
    | none => none
  | '\\' :: 'U' :: a :: b :: c :: d :: e :: f :: g :: h :: r =>
    match hexScalar? [a, b, c, d, e, f, g, h] with
    | some x => before x (basicLines false r)
    | none => none
  | '\\' :: c :: r =>
    match letter? c with
    | some x => before x (basicLines false r)
    -- Not an escape: the line has to end here, and its end is dropped with what follows it.
    | none => if endsLine (c :: r) then basicLines true (c :: r) else none
  | c :: r =>
    if skipping && isSpace c then basicLines true r
    else if isPlain c && c ≠ '\\' then before c (basicLines false r)
    else none

/-- The rest of a literal text over several lines, and what follows its closing marks. -/
def literalLines : List Char → Option (List Char × List Char)
  | [] => none
  | '\'' :: '\'' :: '\'' :: r => some (spareMarks '\'' r)
  | '\n' :: r => before '\n' (literalLines r)
  | '\r' :: '\n' :: r => before '\n' (literalLines r)
  | c :: r => if isPlain c then before c (literalLines r) else none

/-- A quoted text on one line, and what follows it. -/
def readLine : List Char → Option (List Char × List Char)
  | '"' :: r => basic r
  | '\'' :: r => literal r
  | _ => none

/-- A quoted text, and what follows it. -/
def read : List Char → Option (List Char × List Char)
  | '"' :: '"' :: '"' :: r => basicLines false (skipNewline r)
  | '\'' :: '\'' :: '\'' :: r => literalLines (skipNewline r)
  | cs => readLine cs

/-- The forms of a quoted text. -/
inductive Form
  | basic
  | literal
  | basicLines
  | literalLines
  deriving DecidableEq

/-- The longest run of a character in a text, given the length of the run before it. -/
def longestRun (mark : Char) (run : Nat) : List Char → Nat
  | [] => run
  | c :: r => if c = mark then longestRun mark (run + 1) r else max run (longestRun mark 0 r)

/-- Whether a text has a control character other than tab and line feed. -/
def hasControl (cs : List Char) : Bool := cs.any fun c => isControl c && c ≠ '\t' && c ≠ '\n'

/-- The form in which a text is written. -/
def best (cs : List Char) : Form :=
  let control := hasControl cs
  let lines := cs.contains '\n'
  let slashes := cs.contains '\\'
  let quotes := longestRun '"' 0 cs
  let apostrophes := longestRun '\'' 0 cs
  -- Basic without escapes, then literal, each on one line before several; escapes come last.
  if !control && !slashes && quotes = 0 && !lines then .basic
  else if !control && apostrophes = 0 && !lines then .literal
  else if !control && !slashes && quotes ≤ 2 then .basicLines
  else if !control && apostrophes ≤ 2 then .literalLines
  else if lines then .basicLines
  else .basic

/-- A hexadecimal digit in upper case. -/
def hexDigit (n : Nat) : Char :=
  if n < 10 then Char.ofNat ('0'.toNat + n) else Char.ofNat ('A'.toNat + (n - 10))

/-- How a character other than a quotation mark is written between them. -/
def escape (c : Char) : List Char :=
  match c with
  | '\x08' => ['\\', 'b']
  | '\t' => ['\\', 't']
  | '\n' => ['\\', 'n']
  | '\x0c' => ['\\', 'f']
  | '\r' => ['\\', 'r']
  | '\\' => ['\\', '\\']
  | c =>
    if isControl c then ['\\', 'u', '0', '0', hexDigit (c.toNat / 16), hexDigit (c.toNat % 16)]
    else [c]

/-- The inside of a basic text on one line. -/
def basicBody (cs : List Char) : List Char :=
  cs.flatMap fun c => if c = '"' then ['\\', '"'] else escape c

/-- The inside of a basic text over several lines, given how many marks stand right before it:
line feeds stay, and no three marks follow on one another. -/
def basicLinesBody (run : Nat) : List Char → List Char
  | [] => []
  | c :: r =>
    if c = '"' then
      if run < 2 then '"' :: basicLinesBody (run + 1) r else '\\' :: '"' :: basicLinesBody 0 r
    else if c = '\n' then '\n' :: basicLinesBody 0 r
    else escape c ++ basicLinesBody 0 r

/-- What follows opening marks over several lines: a line end if there is one in the text. -/
def opening (cs : List Char) : List Char := if cs.contains '\n' then ['\n'] else []

/-- A text written in a form. -/
def write (form : Form) (cs : List Char) : List Char :=
  match form with
  | .basic => '"' :: basicBody cs ++ ['"']
  | .literal => '\'' :: cs ++ ['\'']
  | .basicLines => ['"', '"', '"'] ++ opening cs ++ basicLinesBody 0 cs ++ ['"', '"', '"']
  | .literalLines => ['\'', '\'', '\''] ++ opening cs ++ cs ++ ['\'', '\'', '\'']

/-- A text in the form that suits it. -/
def writeBest (cs : List Char) : List Char := write (best cs) cs

end ServiceWatch.Toml.Quote
