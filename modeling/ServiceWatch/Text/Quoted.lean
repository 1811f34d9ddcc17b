import ServiceWatch.Text.Printable

/-!
# Quoted text

A text between double quotes in which every character can be seen: the quote, the backslash and
the common controls have a short escape, every other character that does not print as itself is
written by its number in hexadecimal.
-/

namespace ServiceWatch.Text

/-- How one character is written between quotes. -/
def escaped (c : Char) : List Char :=
  match c with
  | '\x00' => ['\\', '0']
  | '\t' => ['\\', 't']
  | '\r' => ['\\', 'r']
  | '\n' => ['\\', 'n']
  | '"' => ['\\', '"']
  | '\\' => ['\\', '\\']
  | c =>
    if isPrintable c then [c]
    else ['\\', 'u', '\x7b'] ++ Nat.toDigits 16 c.toNat ++ ['\x7d']

/-- A text in quotes. -/
def quoted (s : String) : String :=
  String.ofList ('"' :: s.toList.flatMap escaped ++ ['"'])

end ServiceWatch.Text
