import StyleDoc.Text.Printable

/-!
# Quoted text

A text between double quotes as it is shown to a programmer: the quote, the backslash and the usual
control characters are written with a backslash, and every other unprintable character by its code
point in hexadecimal.
-/

namespace StyleDoc.Text

/-- One character inside double quotes. -/
def quoteChar (c : Char) : List Char :=
  match c with
  | '"' => ['\\', '"']
  | '\\' => ['\\', '\\']
  | '\n' => ['\\', 'n']
  | '\r' => ['\\', 'r']
  | '\t' => ['\\', 't']
  | '\x00' => ['\\', '0']
  | c =>
    if isPrintable c then [c]
    else ['\\', 'u', '{'] ++ Nat.toDigits 16 c.toNat ++ ['}']

def quoted (text : List Char) : List Char := '"' :: text.flatMap quoteChar ++ ['"']

end StyleDoc.Text
