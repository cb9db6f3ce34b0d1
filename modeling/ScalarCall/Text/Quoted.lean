import ScalarCall.Text.Extending
import ScalarCall.Text.Hex
import ScalarCall.Text.Ignorable

/-!
Quoted text: a text between double quotes in which quotes, backslashes and every character that
cannot be seen on its own are written as escapes.
-/

namespace ScalarCall.Text

def shortEscape? (c : Char) : Option Char :=
  if c = '\x00' then some '0'
  else if c = '\t' then some 't'
  else if c = '\r' then some 'r'
  else if c = '\n' then some 'n'
  else if c = '"' then some '"'
  else if c = '\\' then some '\\'
  else none

/-- A short escape, the character itself, or its number in hexadecimal. -/
def quoteChar (c : Char) : List Char :=
  match shortEscape? c with
  | some e => ['\\', e]
  | none =>
    if isExtendingMark c || isIgnorable c || !isPrintable c then
      "\\u\x7b".toList ++ hex c.toNat ++ ['}']
    else [c]

def quote (s : String) : String :=
  .ofList ('"' :: (s.toList.flatMap quoteChar ++ ['"']))

end ScalarCall.Text
