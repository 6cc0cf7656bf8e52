import InputChain.Config.Toml.Table
import InputChain.Text.Reading

/-!
# Blanks, texts and keys of a TOML document

* `Toml.spaces`, `Toml.newline`, `Toml.endOfLine`, `Toml.gap`: what stands between values.
* `Toml.text?`: the four forms of a text.
* `Toml.keyPath`: the keys in front of an equals sign or in a header, of which there is a limit.
-/

namespace InputChain.Toml

open InputChain.Reading (peek advance takeWhile accept bound)

/-- Takes something off the front of the text. -/
abbrev Reading := InputChain.Reading Fault

/-! ## Blanks -/

/-- Whether a character is a blank within a line. -/
def isSpace (c : Char) : Bool :=
  c == ' ' || c == '\t'

/-- Whether a character may stand in a comment, or in a text as itself. -/
def isPrinted (c : Char) : Bool :=
  c == '\t' || (' ' ≤ c && c != '\x7f')

/-- Passes over blanks within a line. -/
def spaces : Reading Unit :=
  discard (takeWhile isSpace)

/-- Takes the end of a line, if it is next. -/
def newline? : Reading (Option (List Char)) := do
  if ← accept ['\n'] then return some ['\n']
  else if ← accept ['\r', '\n'] then return some ['\r', '\n']
  else return none

/-- Passes over a comment, if one is next. -/
def comment : Reading Unit := do
  if (← peek) = some '#' then discard (takeWhile isPrinted)

/-- Passes over what may be left of a line. -/
def endOfLine : Reading Unit := do
  spaces
  comment
  if (← peek).isSome ∧ (← newline?).isNone then throw .malformed

/-- Passes over blanks, ends of lines and comments. -/
def gap : Reading Unit := do
  go (← bound)
where
  /-- Passes over as many lines as `fuel` at most. -/
  go : (fuel : Nat) → Reading Unit
    | 0 => return
    | fuel + 1 => do
      spaces
      comment
      if (← newline?).isSome then go fuel

/-! ## Texts -/

/-- Takes a character. -/
def take : Reading Char := do
  match ← peek with
  | none => throw .malformed
  | some c =>
    advance
    return c

/-- Takes the character of a number with so many hexadecimal digits. -/
def numberedChar (count : Nat) : Reading Char := do
  let left ← get
  let digits := left.take count
  set (left.drop count)
  match if digits.length = count then hexValue? digits >>= charOfNumber? else none with
  | some c => return c
  | none => throw .malformed

/-- Takes the character that is meant behind a backslash. -/
def escapedChar : Reading Char := do
  match ← take with
  | '"' => return '"'
  | '\\' => return '\\'
  | 'b' => return '\x08'
  | 't' => return '\t'
  | 'n' => return '\n'
  | 'f' => return '\x0c'
  | 'r' => return '\r'
  | 'e' => return '\x1b'
  | 'x' => numberedChar 2
  | 'u' => numberedChar 4
  | 'U' => numberedChar 8
  | _ => throw .malformed

/-- Takes what is left of a text on one line, up to its quote. -/
def lineText (quote : Char) (escapes : Bool) : (fuel : Nat) → Reading (List Char)
  | 0 => throw .malformed
  | fuel + 1 => do
    let c ← take
    if c = quote then return []
    else if escapes ∧ c = '\\' then
      return (← escapedChar) :: (← lineText quote escapes fuel)
    else if isPrinted c then return c :: (← lineText quote escapes fuel)
    else throw .malformed

/-- Passes over the blanks and ends of lines that a backslash at the end of a line takes away. -/
def foldedLines : (fuel : Nat) → Reading Unit
  | 0 => return
  | fuel + 1 => do
    spaces
    if (← newline?).isSome then foldedLines fuel

/-- Takes what is left of a text on several lines, up to its three quotes. Up to two more quotes in
front of these belong to the text. -/
def linesText (quote : Char) (escapes : Bool) : (fuel : Nat) → Reading (List Char)
  | 0 => throw .malformed
  | fuel + 1 => do
    if let some line ← newline? then return line ++ (← linesText quote escapes fuel)
    let quotes ← takeWhile (· == quote)
    if 5 < quotes.length then throw .malformed
    if 3 ≤ quotes.length then return quotes.drop 3
    if quotes ≠ [] then return quotes ++ (← linesText quote escapes fuel)
    let c ← take
    if escapes ∧ c = '\\' then
      if (← peek).any fun next => isSpace next || next == '\r' || next == '\n' then
        spaces
        if (← newline?).isNone then throw .malformed
        foldedLines (← bound)
        linesText quote escapes fuel
      else return (← escapedChar) :: (← linesText quote escapes fuel)
    else if isPrinted c then return c :: (← linesText quote escapes fuel)
    else throw .malformed

/-- Takes a text, if one is next. Behind double quotes a backslash changes what follows it. Where a
text on several lines begins with the end of a line, that is not part of it. -/
def text? : Reading (Option String) := do
  match ← peek with
  | some '"' => return String.ofList (← quoted '"' true)
  | some '\'' => return String.ofList (← quoted '\'' false)
  | _ => return none
where
  /-- Takes a text between such quotes. -/
  quoted (quote : Char) (escapes : Bool) : Reading (List Char) := do
    if ← accept [quote, quote, quote] then
      discard newline?
      linesText quote escapes (← bound)
    else
      advance
      lineText quote escapes (← bound)

/-! ## Keys -/

/-- Whether a character may stand in a key without quotes. -/
def isBare (c : Char) : Bool :=
  c.isAlphanum || c == '_' || c == '-'

/-- Takes a single key. -/
def key : Reading String := do
  match ← takeWhile isBare with
  | [] =>
    if (← accept ['"', '"', '"']) ∨ (← accept ['\'', '\'', '\'']) then throw .malformed
    match ← text? with
    | some key => return key
    | none => throw .malformed
  | chars => return String.ofList chars

/-- Takes at most so many keys with points between them: the way to the last, and the last. -/
def keysWithin : (count : Nat) → Reading (List String × String)
  | 0 => throw .tooDeep
  | count + 1 => do
    spaces
    let first ← key
    spaces
    if ← accept ['.'] then
      let (rest, last) ← keysWithin count
      return (first :: rest, last)
    else return ([], first)

/-- Takes keys with points between them. -/
def keyPath : Reading (List String × String) :=
  keysWithin mostDepth

end InputChain.Toml
