/-
Text as it is shown inside a message: in double quotes, with everything
that would not show spelled out. A line feed, a tab and a few others have
short spellings; any other character that does not show is given by its
number.
-/
import InstrumentBus.Flags
import InstrumentBus.Text.Hidden

namespace InstrumentBus.Text.Printable

/-- A character that would not show by itself. -/
def isHidden (c : Char) : Bool :=
  let n := c.toNat
  n < 0x20 || (0x7F ≤ n && Hidden.within (if n < 0x10000 then Hidden.low else Hidden.high) n)

/-- A character as it is shown. -/
def shown (c : Char) : String :=
  if c = '"' then "\\\""
  else if c = '\\' then "\\\\"
  else if c = '\x00' then "\\0"
  else if c = '\t' then "\\t"
  else if c = '\n' then "\\n"
  else if c = '\r' then "\\r"
  else if isHidden c then "\\u\x7b" ++ Flags.hex c.toNat ++ "\x7d"
  else c.toString

/-- A text as it is shown. -/
def quote (s : String) : String := "\"" ++ String.join (s.toList.map shown) ++ "\""

end InstrumentBus.Text.Printable
