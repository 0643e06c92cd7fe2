import ValuePaths.Text.Extend

/-!
# Quoting text

Two quoted forms of text appear in answers.

* The *debug* form, used when a value is shown inside a message: text between double
  quotes (a character between single quotes), with the quote, the backslash, NUL, tab,
  line feed and carriage return written as `\"`, `\\`, `\0`, `\t`, `\n`, `\r`, and every
  character that is not printable, or that only extends the character before it, written
  as `\u{hex}` with lower-case digits and no leading zeros.
* The *compact data* form: text between double quotes with `"` and `\` escaped by a
  backslash, the control characters below U+0020 written as `\b`, `\t`, `\n`, `\f`, `\r`
  or `\u00xx`, and everything else left as it is.

Which characters are printable, and which extend the character before them, is decided
by the tables of `Text.Printable` and `Text.Extend`.

## Main definitions

* `Text.debugQuote`, `Text.debugQuoteChar` — the debug forms.
* `Text.dataQuote` — the compact data form.
-/

namespace ValuePaths

namespace Text

/-- Lower-case hexadecimal digits of a number, without leading zeros. -/
def hexDigits (n : Nat) : String := String.ofList (Nat.toDigits 16 n)

/-- The debug form of one character inside a quoted text whose quote is `quote`. -/
def debugChar (quote : Char) (c : Char) : String :=
  if c = '\x00' then "\\0"
  else if c = '\t' then "\\t"
  else if c = '\r' then "\\r"
  else if c = '\n' then "\\n"
  else if c = '\\' then "\\\\"
  else if c = quote then "\\" ++ String.singleton c
  else if isExtending c || !isPrintable c then "\\u\x7b" ++ hexDigits c.toNat ++ "\x7d"
  else String.singleton c

/-- Text between double quotes, in the debug form. -/
def debugQuote (s : String) : String :=
  "\"" ++ String.join (s.toList.map (debugChar '"')) ++ "\""

/-- A character between single quotes, in the debug form. -/
def debugQuoteChar (c : Char) : String :=
  "'" ++ debugChar '\'' c ++ "'"

/-- One character inside a quoted text of the compact data form. -/
def dataChar (c : Char) : String :=
  if c = '"' then "\\\""
  else if c = '\\' then "\\\\"
  else if c = '\x08' then "\\b"
  else if c = '\t' then "\\t"
  else if c = '\n' then "\\n"
  else if c = '\x0c' then "\\f"
  else if c = '\r' then "\\r"
  else if c.toNat < 0x20 then
    "\\u00" ++ String.ofList [Nat.digitChar (c.toNat / 16), Nat.digitChar (c.toNat % 16)]
  else String.singleton c

/-- Text between double quotes, in the compact data form. -/
def dataQuote (s : String) : String :=
  "\"" ++ String.join (s.toList.map dataChar) ++ "\""

end Text

end ValuePaths
