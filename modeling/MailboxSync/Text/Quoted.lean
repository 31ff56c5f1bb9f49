import MailboxSync.Text.Hex
import MailboxSync.Text.Printable

/-!
# Quoted text

A quoted text stands between single quotes, or between double quotes if it holds a single and no double one.  The
backslash and the quote are escaped with a backslash, line feed, carriage return and tab as `\n`, `\r`, `\t`, every
other unprintable character by its number with two, four or eight hexadecimal digits.
-/

namespace MailboxSync.Text

def quoteFor (s : String) : Char :=
  if s.contains '\'' && !s.contains '"' then '"' else '\''

def quotedChar (quote c : Char) : String :=
  if c = quote || c = '\\' then "\\" ++ String.singleton c
  else if c = '\n' then "\\n"
  else if c = '\r' then "\\r"
  else if c = '\t' then "\\t"
  else if isPrintable c then String.singleton c
  else
    let n := c.toNat
    if n < 0x100 then "\\x" ++ hexDigits 2 n
    else if n < 0x10000 then "\\u" ++ hexDigits 4 n
    else "\\U" ++ hexDigits 8 n

def quoted (s : String) : String :=
  let quote := quoteFor s
  let body := s.toList.foldl (fun acc c => acc ++ quotedChar quote c) ""
  String.singleton quote ++ body ++ String.singleton quote

end MailboxSync.Text
