import NodeFit.Text.Unprintable

/-!
# NodeFit.Text.Quoted

Text between double quotes, as error messages show it.

The quote and the backslash are escaped with a backslash, four control
characters have letters of their own, and every other unprintable character is
written by its code point, `\u{7f}`.  Everything else stands for itself.

This is how a text is shown in a message that has to make its ends visible.  JSON has escapes of its
own, in `NodeFit.Json.Printer`.
-/

namespace NodeFit.Text

/-- The lower-case hexadecimal digits of a code point. -/
def codePointDigits (c : Char) : List Char := Nat.toDigits 16 c.toNat

/-- One character as it stands in quoted text. -/
def escaped (c : Char) : List Char :=
  match c with
  | '"' => ['\\', '"']
  | '\\' => ['\\', '\\']
  | '\t' => ['\\', 't']
  | '\n' => ['\\', 'n']
  | '\r' => ['\\', 'r']
  | '\x00' => ['\\', '0']
  | c =>
    if isUnprintable c then ['\\', 'u', '\x7b'] ++ codePointDigits c ++ ['\x7d'] else [c]

/-- A text between quotes, its unprintable characters escaped. -/
def quoted (s : String) : String :=
  String.ofList ('"' :: s.toList.flatMap escaped ++ ['"'])

end NodeFit.Text
