import SpanSearch.Json.Basic

/-! The written form of documents, on one line and indented. -/

namespace SpanSearch
namespace Json

/-- The hexadecimal digit of a number below sixteen. -/
def hexDigit (n : Nat) : Char :=
  Nat.digitChar n

/-- A character inside a string: only quotes, backslashes and the characters below U+0020 are escaped. -/
def escape (c : Char) : List Char :=
  if c == '"' then ['\\', '"']
  else if c == '\\' then ['\\', '\\']
  else if c == '\n' then ['\\', 'n']
  else if c == '\r' then ['\\', 'r']
  else if c == '\t' then ['\\', 't']
  else if c == '\x08' then ['\\', 'b']
  else if c == '\x0c' then ['\\', 'f']
  else if c.toNat < 0x20 then ['\\', 'u', '0', '0', hexDigit (c.toNat / 16), hexDigit (c.toNat % 16)]
  else [c]

/-- A string in quotes. -/
def quoted (s : String) : List Char :=
  '"' :: (s.toList.flatMap escape ++ ['"'])

mutual

/-- A document on one line without spaces. -/
def compact : Json → List Char
  | null => ['n', 'u', 'l', 'l']
  | bool true => ['t', 'r', 'u', 'e']
  | bool false => ['f', 'a', 'l', 's', 'e']
  | number n => n.text
  | string s => quoted s
  | array [] => ['[', ']']
  | array (j :: rest) => '[' :: (compact j ++ compactItems rest)
  | object [] => ['{', '}']
  | object ((name, j) :: rest) => '{' :: (quoted name ++ ':' :: (compact j ++ compactMembers rest))

/-- The items after the first one, and the closing bracket. -/
def compactItems : List Json → List Char
  | [] => [']']
  | j :: rest => ',' :: (compact j ++ compactItems rest)

/-- The members after the first one, and the closing brace. -/
def compactMembers : List (String × Json) → List Char
  | [] => ['}']
  | (name, j) :: rest => ',' :: (quoted name ++ ':' :: (compact j ++ compactMembers rest))

end

/-- A new line, indented by two spaces for each level. -/
def newLine (level : Nat) : List Char :=
  '\n' :: List.replicate (2 * level) ' '

mutual

/-- A document with each item and member on a line of its own. -/
def indented (level : Nat) : Json → List Char
  | array [] => ['[', ']']
  | array (j :: rest) => '[' :: (newLine (level + 1) ++ indented (level + 1) j ++ indentedItems level rest)
  | object [] => ['{', '}']
  | object ((name, j) :: rest) =>
    '{' :: (newLine (level + 1) ++ quoted name ++ ':' :: ' ' ::
      (indented (level + 1) j ++ indentedMembers level rest))
  | j => compact j

/-- The items after the first one, each on its line, and the closing bracket. -/
def indentedItems (level : Nat) : List Json → List Char
  | [] => newLine level ++ [']']
  | j :: rest => ',' :: (newLine (level + 1) ++ indented (level + 1) j ++ indentedItems level rest)

/-- The members after the first one, each on its line, and the closing brace. -/
def indentedMembers (level : Nat) : List (String × Json) → List Char
  | [] => newLine level ++ ['}']
  | (name, j) :: rest =>
    ',' :: (newLine (level + 1) ++ quoted name ++ ':' :: ' ' ::
      (indented (level + 1) j ++ indentedMembers level rest))

end

/-- The text of a document on one line. -/
def text (j : Json) : String :=
  String.ofList j.compact

/-- The text of a document over several lines. -/
def prettyText (j : Json) : String :=
  String.ofList (indented 0 j)

end Json
end SpanSearch
