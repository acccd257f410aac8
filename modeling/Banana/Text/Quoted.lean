/-
This file shows a text in double quotes, so that every character of it can be told: quotes,
backslashes and the usual controls are written behind a backslash, and what can not be seen as its
code point.
-/

import Banana.Text.Unseen

namespace Banana.Text

/-- How one character is shown inside quotes. -/
def shownChar (c : Char) : List Char :=
  match c with
  | '\x00' => ['\\', '0']
  | '\t' => ['\\', 't']
  | '\r' => ['\\', 'r']
  | '\n' => ['\\', 'n']
  | '"' => ['\\', '"']
  | '\\' => ['\\', '\\']
  | c =>
    if isUnseen c then
      ['\\', 'u', '\x7b'] ++ Nat.toDigits 16 c.toNat ++ ['\x7d']
    else
      [c]

/-- A text in quotes. -/
def quoted (text : List Char) : List Char :=
  '"' :: text.flatMap shownChar ++ ['"']

/-- A text with blanks behind it up to a width. -/
def padRight (width : Nat) (text : List Char) : List Char :=
  text ++ List.replicate (width - text.length) ' '

/-- A text with blanks before it up to a width. -/
def padLeft (width : Nat) (text : List Char) : List Char :=
  List.replicate (width - text.length) ' ' ++ text

end Banana.Text
