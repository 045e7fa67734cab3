import HopTrace.Text.Printable

/-!
# Quoted text

Text between double quotes, for messages that show a value. Double quotes, backslashes and
the common control characters are written with a backslash; any other character that is
not plain is written as its code point in hexadecimal between braces. Single quotes stand
for themselves.
-/
namespace HopTrace.Quoted

/-- A code point as a lower case hexadecimal number. -/
def codeText (c : Char) : List Char := Nat.toDigits 16 c.toNat

def escape (c : Char) : List Char :=
  match c with
  | '\x00' => ['\\', '0']
  | '\t' => ['\\', 't']
  | '\n' => ['\\', 'n']
  | '\r' => ['\\', 'r']
  | '"' => ['\\', '"']
  | '\\' => ['\\', '\\']
  | _ =>
    if Printable.isHidden c.toNat then ['\\', 'u', '\x7b'] ++ codeText c ++ ['\x7d'] else [c]

def encode (s : String) : String := String.ofList ('"' :: s.toList.flatMap escape ++ ['"'])

end HopTrace.Quoted
