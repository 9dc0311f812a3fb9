import EventRelay.Text.Decimal
import EventRelay.Text.Printable

namespace EventRelay.Text

def escapedByNumber (c : Char) : String :=
  "\\u\x7b" ++ hexText c.toNat ++ "\x7d"

/-- How one character is written between double quotes: quotes, backslashes and the common controls
    by a backslash, whatever would not show on its own by its number. -/
def quotedChar (c : Char) : String :=
  if c = '\x00' then "\\0"
  else if c = '\t' then "\\t"
  else if c = '\r' then "\\r"
  else if c = '\n' then "\\n"
  else if c = '\\' then "\\\\"
  else if c = '"' then "\\\""
  else if extendsGrapheme c || !isPrintable c then escapedByNumber c
  else c.toString

/-- A text between double quotes, so that every character of it can be told from the output. -/
def quoted (text : List Char) : String :=
  "\"" ++ String.join (text.map quotedChar) ++ "\""

end EventRelay.Text
