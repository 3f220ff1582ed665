import SpanSearch.Text.Shapeless

/-! Strings as notices show them: in quotes, with escapes for whatever would not be seen. -/

namespace SpanSearch
namespace Text

/-- A character as it is shown: by itself, by a letter after a backslash, or by its number. -/
def shownChar (c : Char) : List Char :=
  if c == '\x00' then ['\\', '0']
  else if c == '\t' then ['\\', 't']
  else if c == '\r' then ['\\', 'r']
  else if c == '\n' then ['\\', 'n']
  else if c == '"' then ['\\', '"']
  else if c == '\\' then ['\\', '\\']
  else if isShapeless c then '\\' :: 'u' :: '\x7b' :: (Nat.toDigits 16 c.toNat ++ ['\x7d'])
  else [c]

/-- A string as it is shown. -/
def shown (s : String) : String :=
  String.ofList ('"' :: (s.toList.flatMap shownChar ++ ['"']))

end Text
end SpanSearch
