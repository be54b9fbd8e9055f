import Troupe.Unicode.Visible

/-!
# Quoted text

The form in which diagnostics show a string: between double quotes, with a
backslash before quotes and backslashes, the short escapes for the common
control characters, and a braced code point for every other character that would
not be visible by itself.
-/

namespace Troupe
namespace Text

/-- A code point between braces, in hexadecimal without leading zeros. -/
def bracedCodePoint (c : Char) : List Char :=
  '\\' :: 'u' :: '\x7b' :: (Nat.toDigits 16 c.toNat ++ ['\x7d'])

def quoteChar (c : Char) : List Char :=
  if c == '\x00' then ['\\', '0']
  else if c == '\t' then ['\\', 't']
  else if c == '\r' then ['\\', 'r']
  else if c == '\n' then ['\\', 'n']
  else if c == '"' then ['\\', '"']
  else if c == '\\' then ['\\', '\\']
  else if Unicode.isVisible c then [c]
  else bracedCodePoint c

def quote (s : String) : String :=
  String.ofList ('"' :: (s.toList.flatMap quoteChar ++ ['"']))

end Text
end Troupe
