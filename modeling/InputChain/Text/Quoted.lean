import InputChain.Text.Hidden

/-!
# Quoted text

A text in quotation marks, in a form that shows every character of it: a backslash stands in front of
quotation marks, backslashes and the usual controls, and what cannot be shown is given by number.

* `quote`: the quoted form.
-/

namespace InputChain

/-- The quoted form of a character. -/
def quoteChar (c : Char) : List Char :=
  match c with
  | '\x00' => ['\\', '0']
  | '\t' => ['\\', 't']
  | '\r' => ['\\', 'r']
  | '\n' => ['\\', 'n']
  | '"' => ['\\', '"']
  | '\\' => ['\\', '\\']
  | _ => if isHidden c then ['\\', 'u', '{'] ++ Nat.toDigits 16 c.toNat ++ ['}'] else [c]

/-- The quoted form of a text. -/
def quote (text : String) : String :=
  String.ofList ('"' :: text.toList.flatMap quoteChar ++ ['"'])

end InputChain
