/-
# Printing JSON

Two forms: compact, without any blanks, and indented, with two blanks for each level and one member
or element on a line.  In strings the quote, the backslash and the control characters below U+0020
are escaped, and nothing else is.
-/
import Macrostep.Json.Basic

namespace Macrostep.Json

/-- The lower-case hexadecimal digit of a number below 16. -/
def hexDigit (n : Nat) : Char :=
  if n < 10 then Char.ofNat ('0'.toNat + n) else Char.ofNat ('a'.toNat + (n - 10))

/-- A character as it stands in a string literal. -/
def escape (c : Char) : List Char :=
  if c = '"' then ['\\', '"']
  else if c = '\\' then ['\\', '\\']
  else if c = '\x08' then ['\\', 'b']
  else if c = '\x0c' then ['\\', 'f']
  else if c = '\n' then ['\\', 'n']
  else if c = '\r' then ['\\', 'r']
  else if c = '\t' then ['\\', 't']
  else if c.toNat < 0x20 then ['\\', 'u', '0', '0', hexDigit (c.toNat / 16), hexDigit (c.toNat % 16)]
  else [c]

/-- A string literal. -/
def quote (s : String) : List Char := '"' :: s.toList.flatMap escape ++ ['"']

/-- A string literal; one that spells no text is written as the empty one. -/
def quoteContent (content : Option String) : List Char := quote (content.getD "")

mutual

/-- The text of a value without blanks. -/
def compact : Json → List Char
  | .null => "null".toList
  | .bool true => "true".toList
  | .bool false => "false".toList
  | .number value => value.text
  | .string content => quoteContent content
  | .array [] => ['[', ']']
  | .array (value :: rest) => '[' :: compact value ++ compactElements rest
  | .object [] => ['{', '}']
  | .object ((name, value) :: rest) =>
    '{' :: quoteContent name ++ ':' :: compact value ++ compactMembers rest

/-- The further elements of an array, and its end. -/
def compactElements : List Json → List Char
  | [] => [']']
  | value :: rest => ',' :: compact value ++ compactElements rest

/-- The further members of an object, and its end. -/
def compactMembers : List (Option String × Json) → List Char
  | [] => ['}']
  | (name, value) :: rest =>
    ',' :: quoteContent name ++ ':' :: compact value ++ compactMembers rest

end

/-- A new line at a level of indentation. -/
def newline (level : Nat) : List Char := '\n' :: List.replicate (2 * level) ' '

mutual

/-- The text of a value at a level of indentation. -/
def indented (level : Nat) : Json → List Char
  | .null => "null".toList
  | .bool true => "true".toList
  | .bool false => "false".toList
  | .number value => value.text
  | .string content => quoteContent content
  | .array [] => ['[', ']']
  | .array (value :: rest) =>
    '[' :: newline (level + 1) ++ indented (level + 1) value ++ indentedElements level rest
  | .object [] => ['{', '}']
  | .object ((name, value) :: rest) =>
    '{' :: newline (level + 1) ++ quoteContent name ++ ':' :: ' ' :: indented (level + 1) value ++
      indentedMembers level rest

/-- The further elements of an array that begins at a level, and its end. -/
def indentedElements (level : Nat) : List Json → List Char
  | [] => newline level ++ [']']
  | value :: rest =>
    ',' :: newline (level + 1) ++ indented (level + 1) value ++ indentedElements level rest

/-- The further members of an object that begins at a level, and its end. -/
def indentedMembers (level : Nat) : List (Option String × Json) → List Char
  | [] => newline level ++ ['}']
  | (name, value) :: rest =>
    ',' :: newline (level + 1) ++ quoteContent name ++ ':' :: ' ' :: indented (level + 1) value ++
      indentedMembers level rest

end

/-- The text of a value on one line, without blanks. -/
def render (value : Json) : String := String.ofList value.compact

/-- The text of a value on several lines. -/
def pretty (value : Json) : String := String.ofList (value.indented 0)

end Macrostep.Json
