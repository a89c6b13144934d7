import Holdem.Json.Basic
import Holdem.Text.Hex

/-!
# Writing JSON text

The compact form: no gaps, members in their order, and in strings only the escapes that JSON
demands. A quote, a backslash and the five control characters with a short name are written by that
name, other control characters as `\u00XX`, and everything else as it is.
-/

namespace Holdem.Json

/-- A character as it stands in a string literal. -/
def escape (c : Char) : List Char :=
  if c = '"' then ['\\', '"']
  else if c = '\\' then ['\\', '\\']
  else if c = '\x08' then ['\\', 'b']
  else if c = '\x0c' then ['\\', 'f']
  else if c = '\n' then ['\\', 'n']
  else if c = '\r' then ['\\', 'r']
  else if c = '\t' then ['\\', 't']
  else if c.toNat < 0x20 then
    ['\\', 'u', '0', '0', Text.hexDigit (c.toNat / 16), Text.hexDigit (c.toNat % 16)]
  else [c]

def quoted (content : String) : List Char :=
  '"' :: content.toList.flatMap escape ++ ['"']

def digitLetters (digits : List Nat) : List Char :=
  digits.map fun digit => Char.ofNat (48 + digit)

/-- A numeral as it was written; the exponent's sign is written when it is negative. -/
def numeralLetters (numeral : Numeral) : List Char :=
  (if numeral.negative then ['-'] else []) ++ digitLetters numeral.whole ++
    (match numeral.fraction with
      | none => []
      | some digits => '.' :: digitLetters digits) ++
    (match numeral.exponent with
      | none => []
      | some exponent => 'e' :: (toString exponent).toList)

mutual

/-- The compact form of a tree. A literal without text is written as the empty string. -/
def letters : Json → List Char
  | .null => ['n', 'u', 'l', 'l']
  | .bool true => ['t', 'r', 'u', 'e']
  | .bool false => ['f', 'a', 'l', 's', 'e']
  | .number numeral => numeralLetters numeral
  | .string content => quoted (content.getD "")
  | .array [] => ['[', ']']
  | .array (first :: rest) => '[' :: letters first ++ itemLetters rest
  | .object [] => ['\x7b', '\x7d']
  | .object ((key, first) :: rest) =>
    '\x7b' :: quoted (key.getD "") ++ ':' :: letters first ++ memberLetters rest

/-- The items after the first one, and the closing bracket. -/
def itemLetters : List Json → List Char
  | [] => [']']
  | item :: rest => ',' :: letters item ++ itemLetters rest

/-- The members after the first one, and the closing brace. -/
def memberLetters : List (Option String × Json) → List Char
  | [] => ['\x7d']
  | (key, value) :: rest =>
    ',' :: quoted (key.getD "") ++ ':' :: letters value ++ memberLetters rest

end

def print (json : Json) : String :=
  String.ofList json.letters

end Holdem.Json
