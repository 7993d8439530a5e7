import Sinkhole.Text.Visible

/-! # Quoted text

Text in messages stands between double quotes. Quotes and backslashes are escaped by a backslash,
the common controls have a letter, and any other character that does not show is written by its
hexadecimal code in braces.
-/
namespace Sinkhole.Text

def escape (c : Char) : List Char :=
  if c = '\x00' then ['\\', '0']
  else if c = '\t' then ['\\', 't']
  else if c = '\r' then ['\\', 'r']
  else if c = '\n' then ['\\', 'n']
  else if c = '"' then ['\\', '"']
  else if c = '\\' then ['\\', '\\']
  else if shows c then [c]
  else ['\\', 'u', '\x7b'] ++ Nat.toDigits 16 c.toNat ++ ['\x7d']

def quoted (text : String) : String :=
  String.ofList (['"'] ++ text.toList.flatMap escape ++ ['"'])

end Sinkhole.Text
