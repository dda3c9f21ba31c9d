import InteropGlue.Text.Printable
/-!
# Quoted text

The form in which a diagnostic shows a text that may hold anything: between double quotes, with
escapes for what would not be seen.

* a double quote and a backslash are written after a backslash, an apostrophe is left alone;
* line feed, carriage return, tab and the null character are `\n`, `\r`, `\t` and `\0`;
* any other character without a visible form of its own is its code point in lower-case hexadecimal
  digits between braces, after `\u`.

## Main Definitions

* `escape` — the characters that stand for one character.
* `quote` — a text between quotes.
-/

namespace InteropGlue.Text

/-- The code point of a character between braces, after `\u`. -/
def escapeCode (c : Char) : List Char :=
  ['\\', 'u', '\x7b'] ++ Nat.toDigits 16 c.toNat ++ ['\x7d']

/-- The characters that stand for one character inside quotes. -/
def escape (c : Char) : List Char :=
  if c = '"' then ['\\', '"']
  else if c = '\\' then ['\\', '\\']
  else if c = '\n' then ['\\', 'n']
  else if c = '\r' then ['\\', 'r']
  else if c = '\t' then ['\\', 't']
  else if c.toNat = 0 then ['\\', '0']
  else if isPrintable c && !extendsGrapheme c then [c]
  else escapeCode c

/-- A text between double quotes. -/
def quote (text : String) : String :=
  String.ofList ('"' :: text.toList.flatMap escape ++ ['"'])

end InteropGlue.Text
