import HeaderAudit.Text.Hex
import HeaderAudit.Text.Printable
/-!
Double-quoted text as error messages show an offending value: backslash and quote are escaped,
printable code points stand as they are, the usual control characters take their one-letter escapes,
and every other code point is written as `\x`, `\u` or `\U` with lower-case hex digits.
-/
namespace HeaderAudit.Text

def quoteChar (c : Char) : List Char :=
  if c = '"' ∨ c = '\\' then ['\\', c]
  else if isPrintable c then [c]
  else if c = '\x07' then ['\\', 'a']
  else if c = '\x08' then ['\\', 'b']
  else if c = '\x0c' then ['\\', 'f']
  else if c = '\n' then ['\\', 'n']
  else if c = '\r' then ['\\', 'r']
  else if c = '\t' then ['\\', 't']
  else if c = '\x0b' then ['\\', 'v']
  else if c.toNat < 32 ∨ c.toNat = 127 then '\\' :: 'x' :: hexPadded false 2 c.toNat
  else if c.toNat < 0x10000 then '\\' :: 'u' :: hexPadded false 4 c.toNat
  else '\\' :: 'U' :: hexPadded false 8 c.toNat

def quote (s : String) : String :=
  String.ofList ('"' :: (s.toList.flatMap quoteChar ++ ['"']))

end HeaderAudit.Text
