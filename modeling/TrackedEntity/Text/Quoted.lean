import TrackedEntity.Text.Hexadecimal
import TrackedEntity.Text.Printable

/-!
# Quoted text

A text is quoted with single quotes, or with double quotes when it holds single quotes and no
double ones. Inside, the backslash and the quote in use are escaped, line feed, carriage return and
tabulator have short escapes, and every other character that is not printable is written by its
code: two hexadecimal digits after `\x`, four after `\u`, eight after `\U`. Bytes are quoted in
the same way; outside the range from blank to tilde they are written by their code. Bytes that can
be changed in place have one rule of their own: their single quotes are escaped in any case.
-/

namespace TrackedEntity.Text

/-- The quote for a text: double when that saves an escape. -/
def quoteFor (cs : List Char) : Char :=
  if cs.contains '\'' && !cs.contains '"' then '"' else '\''

/-- The escape of a character by its code. -/
def codeEscape (n : Nat) : List Char :=
  if n < 0x100 then ['\\', 'x'] ++ hexDigits 2 n
  else if n < 0x10000 then ['\\', 'u'] ++ hexDigits 4 n
  else ['\\', 'U'] ++ hexDigits 8 n

/-- A character between quotes; `plain` says which characters stand as they are. -/
def quotedChar (escaped : Char) (plain : Char → Bool) (c : Char) : List Char :=
  if c = escaped || c = '\\' then ['\\', c]
  else if c = '\n' then ['\\', 'n']
  else if c = '\r' then ['\\', 'r']
  else if c = '\t' then ['\\', 't']
  else if plain c then [c]
  else codeEscape c.toNat

/-- Characters between the quotes that suit them; `escaped` tells which quote has an escape when
the given one is around. -/
def quotedChars (escaped : Char → Char) (plain : Char → Bool) (cs : List Char) : List Char :=
  let quote := quoteFor cs
  quote :: cs.flatMap (quotedChar (escaped quote) plain) ++ [quote]

/-- A text between quotes. -/
def quoted (s : String) : String :=
  String.ofList (quotedChars id isPrintable s.toList)

/-- Whether a character that stands for a byte is written as it is. -/
def isPlainByte (c : Char) : Bool := 0x20 ≤ c.toNat && c.toNat < 0x7f

/-- The characters that stand for bytes. -/
def charsOfBytes (data : List UInt8) : List Char := data.map fun b => Char.ofNat b.toNat

/-- Bytes between quotes, with the mark of bytes in front. -/
def quotedBytes (data : List UInt8) : String :=
  String.ofList ('b' :: quotedChars id isPlainByte (charsOfBytes data))

/-- Bytes that can be changed in place, between quotes and with the mark of bytes in front. -/
def quotedBuffer (data : List UInt8) : String :=
  String.ofList ('b' :: quotedChars (fun _ => '\'') isPlainByte (charsOfBytes data))

end TrackedEntity.Text
