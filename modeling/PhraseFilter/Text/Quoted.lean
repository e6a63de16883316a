import PhraseFilter.Text.Printable

/-!
# Quoted texts

`quoted` puts a text between double quotes for messages. Backslashes, double quotes and the common
control characters are escaped by a backslash and one character. Any other character without a shape of
its own is written as its code point in braces.

* `quoted`: for names.
* `quotedPath`: for paths, where a single quote is escaped as well.
-/

namespace PhraseFilter.Text

/-- The code point of a character in hexadecimal digits, between braces and after `\u`. -/
def escapeCodePoint (c : Char) : List Char :=
  '\\' :: 'u' :: '\x7b' :: Nat.toDigits 16 c.toNat ++ ['\x7d']

/-- One character of a quoted text; `also` is escaped besides the characters that always are. -/
def escapeQuoted (also : Option Char) (c : Char) : List Char :=
  match c with
  | '\x00' => ['\\', '0']
  | '\t' => ['\\', 't']
  | '\r' => ['\\', 'r']
  | '\n' => ['\\', 'n']
  | '\\' => ['\\', '\\']
  | '"' => ['\\', '"']
  | c =>
    if also = some c then ['\\', c]
    else if extendsGrapheme c || !isPrintable c then escapeCodePoint c
    else [c]

def quoted (s : String) : String :=
  String.ofList ('"' :: s.toList.flatMap (escapeQuoted none) ++ ['"'])

def quotedPath (s : String) : String :=
  String.ofList ('"' :: s.toList.flatMap (escapeQuoted (some '\x27')) ++ ['"'])

end PhraseFilter.Text
