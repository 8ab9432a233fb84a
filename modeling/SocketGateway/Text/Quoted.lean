import SocketGateway.Text.Visible

/-!
Contract: texts between double quotes, such that every character can be seen.

Owns:
- the escapes: short ones for the double quote, the backslash, NUL, tab and line breaks, and the
  code point for every other character that cannot be shown by itself.

Does not own: the strings of JSON and TOML, which have escapes of their own.
-/

namespace SocketGateway.Text

/-- The escape that names a character by its code point in hexadecimal. -/
def codePointEscape (c : Char) : List Char :=
  ['\\', 'u', '{'] ++ Nat.toDigits 16 c.toNat ++ ['}']

/-- What stands for a character between the quotes. -/
def quotedChar (c : Char) : List Char :=
  if c = '"' then ['\\', '"']
  else if c = '\\' then ['\\', '\\']
  else if c = Char.ofNat 0 then ['\\', '0']
  else if c = '\t' then ['\\', 't']
  else if c = '\n' then ['\\', 'n']
  else if c = '\r' then ['\\', 'r']
  else if isVisible c then [c]
  else codePointEscape c

def quoted (text : String) : String :=
  String.ofList ('"' :: text.toList.flatMap quotedChar ++ ['"'])

example : quoted "a\"b\\\t\x7f" = "\"a\\\"b\\\\\\t\\u\x7b7f\x7d\"" := by decide +kernel

end SocketGateway.Text
