import Gridwalk.Text.Printable

/-!
# Quoted text

Text between quotes with everything unprintable escaped, so that any line of input and any
cell can be shown on one line of a message.
-/
namespace Gridwalk.Quoted

/-- A backslash, `u` and the code point in lower-case hexadecimal between braces. -/
def codePoint (c : Char) : List Char :=
  ['\\', 'u', '\x7b'] ++ Nat.toDigits 16 c.toNat ++ ['\x7d']

/-- Only the quote that encloses the text is escaped; the other kind stands as it is. -/
def escape (quote : Char) (c : Char) : List Char :=
  match c with
  | '\x00' => ['\\', '0']
  | '\t' => ['\\', 't']
  | '\r' => ['\\', 'r']
  | '\n' => ['\\', 'n']
  | '\\' => ['\\', '\\']
  | c =>
    if c = quote then ['\\', c]
    else if Printable.isPrintable c then [c]
    else codePoint c

def text (chars : List Char) : List Char := '"' :: chars.flatMap (escape '"') ++ ['"']

def char (c : Char) : List Char := '\'' :: escape '\'' c ++ ['\'']

end Gridwalk.Quoted
