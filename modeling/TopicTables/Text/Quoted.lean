import TopicTables.Text.LoneHalf
import TopicTables.Text.Padding
import TopicTables.Text.Printable

/-! # Quoted text

A quoted text stands between single quotes, or between double quotes when it holds single quotes
only. The chosen quote, the backslash and every character without a shape are escaped.
-/

namespace TopicTables.Text

/-- A code point in a fixed number of hexadecimal digits. -/
def hexDigits (width : Nat) (code : Nat) : List Char :=
  padLeft '0' width (Nat.toDigits 16 code)

/-- A character inside a quoted text. -/
def escaped (quote c : Char) : List Char :=
  if c == quote || c == '\\' then ['\\', c]
  else if c == '\n' then ['\\', 'n']
  else if c == '\r' then ['\\', 'r']
  else if c == '\t' then ['\\', 't']
  else if isPrintable c then [c]
  else if c.toNat < 0x100 then '\\' :: 'x' :: hexDigits 2 c.toNat
  else if codeOf c < 0x10000 then '\\' :: 'u' :: hexDigits 4 (codeOf c)
  else '\\' :: 'U' :: hexDigits 8 c.toNat

def quoteFor (cs : List Char) : Char :=
  if cs.contains '\'' && !cs.contains '"' then '"' else '\''

def quoted (s : String) : String :=
  let quote := quoteFor s.toList
  String.ofList (quote :: s.toList.flatMap (escaped quote) ++ [quote])

end TopicTables.Text
