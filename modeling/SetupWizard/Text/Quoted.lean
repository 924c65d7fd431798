/-
# Quoted texts

In messages and in descriptions of values a text stands between double quotes, and what would
be mistaken or not be seen is replaced: a quote and a backslash get a backslash in front, tab,
line feed, carriage return and the null character have letters of their own, and any other
unprintable character is shown by its number in lower-case hexadecimal.
-/
import SetupWizard.Text.Printable

namespace SetupWizard.Text

/-- A character as it is shown between double quotes. -/
def quotedChar (c : Char) : List Char :=
  if c = '\x00' then ['\\', '0']
  else if c = '\t' then ['\\', 't']
  else if c = '\r' then ['\\', 'r']
  else if c = '\n' then ['\\', 'n']
  else if c = '"' then ['\\', '"']
  else if c = '\\' then ['\\', '\\']
  else if isUnprintable c then
    '\\' :: 'u' :: '{' :: (Nat.toDigits 16 c.toNat ++ ['}'])
  else [c]

/-- A text between double quotes. -/
def quoted (s : String) : String :=
  String.ofList ('"' :: (s.toList.flatMap quotedChar ++ ['"']))

/-- Texts between brackets, separated by commas. -/
def bracketed (opening closing : String) (texts : List String) : String :=
  opening ++ String.intercalate ", " texts ++ closing

end SetupWizard.Text
