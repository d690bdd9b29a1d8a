import MetricPipeline.Text.Unprintable
import MetricPipeline.Text.Combining

/-!
Quoted text, as error messages show a piece of input.

The text stands between double quotes. A quote, a backslash, a tab, a line break, a carriage
return and a NUL have a letter of their own after a backslash; any other character that is not
printable, or that would attach to its neighbour, is written as its code point in braces.
-/

namespace MetricPipeline.Text

/-- The code point of a character in lower-case hexadecimal, without leading zeros. -/
def codePoint (c : Char) : List Char := Nat.toDigits 16 c.toNat

/-- One character as it stands between the quotes. -/
def quoteChar (c : Char) : List Char :=
  if c = '"' then ['\\', '"']
  else if c = '\\' then ['\\', '\\']
  else if c = '\t' then ['\\', 't']
  else if c = '\n' then ['\\', 'n']
  else if c = '\r' then ['\\', 'r']
  else if c.toNat = 0 then ['\\', '0']
  else if c = ' ' then [c]
  else if isUnprintable c || isCombining c then
    ['\\', 'u', '\x7b'] ++ codePoint c ++ ['\x7d']
  else [c]

/-- A text between double quotes, with everything that is not plainly visible written out. -/
def quoted (text : String) : String :=
  String.ofList ('"' :: text.toList.flatMap quoteChar ++ ['"'])

end MetricPipeline.Text
