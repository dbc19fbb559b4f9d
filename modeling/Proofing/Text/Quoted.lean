import Proofing.Text.Printable
/-
  Proofing — quoted text in messages.

  `quoted` puts a text between quotes so that every character can be seen:
  quotes, backslashes and the common controls have one-letter escapes, other
  characters that are not shown are named by their code point.  `quotedLetter`
  puts one character between apostrophes.
-/
namespace Proofing.Text

/-- A code point in braces. -/
def named (c : Char) : List Char :=
  ['\\', 'u', '{'] ++ Nat.toDigits 16 c.toNat ++ ['}']

/-- A character inside a quoted text. -/
def quotedChar (c : Char) : List Char :=
  match c with
  | '\x00' => ['\\', '0']
  | '\t' => ['\\', 't']
  | '\n' => ['\\', 'n']
  | '\r' => ['\\', 'r']
  | '"' => ['\\', '"']
  | '\\' => ['\\', '\\']
  | c => if isShown c then [c] else named c

/-- A text between quotes. -/
def quoted (s : String) : String :=
  String.ofList ('"' :: s.toList.flatMap quotedChar ++ ['"'])

/-- A character between apostrophes. -/
def quotedLetter (c : Char) : String :=
  let shown := match c with
    | '\'' => ['\\', '\'']
    | '"' => ['"']
    | c => quotedChar c
  String.ofList ('\'' :: shown ++ ['\''])

end Proofing.Text
