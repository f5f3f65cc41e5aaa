import RasterText.Text.Combining

/-!
# Quoted text

A quoted text stands between double quotes.  Quotes and backslashes inside are
preceded by a backslash, four control characters have short escapes, and a
character that would not show by itself is written by its code point.
-/

namespace RasterText.Text

/-- The escape that names a character by its code point in hexadecimal. -/
def codeEscape (c : Char) : List Char :=
  ['\\', 'u', '\x7b'] ++ Nat.toDigits 16 c.toNat ++ ['\x7d']

def quoteChar (c : Char) : List Char :=
  if c = '"' then ['\\', '"']
  else if c = '\\' then ['\\', '\\']
  else if c = '\t' then ['\\', 't']
  else if c = '\n' then ['\\', 'n']
  else if c = '\r' then ['\\', 'r']
  else if c = '\x00' then ['\\', '0']
  else if isCombining c || isUnprintable c then codeEscape c
  else [c]

def quote (text : String) : String :=
  String.ofList ('"' :: text.toList.flatMap quoteChar ++ ['"'])

end RasterText.Text
