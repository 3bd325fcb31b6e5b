import ShaderBinding.Text.Utf8

/-! What a plain output shows of a text that was meant for a terminal. Control sequences and control
characters are left out, while white space stays. Main statement: a text without control characters
is shown as it is. -/

namespace ShaderBinding

namespace Visible

/-- A point inside a control sequence, or outside of all. -/
inductive Position where
  | plain
  /-- Behind the escape character. -/
  | escape
  /-- Behind an escape character and what stands between it and the last character. -/
  | escapeMiddle
  /-- In a sequence that a letter ends. -/
  | control
  /-- In the parts of a string to a device that stand before its text. -/
  | deviceStart
  | deviceParameters
  | deviceMiddle
  /-- In a string that its terminator ends. -/
  | string
  /-- In a command to the system, which the bell ends. -/
  | command
  deriving DecidableEq, Repr

/-- White space other than the space itself, which is no control character. -/
def isLayout (char : Char) : Bool := ['\t', '\n', '\x0c', '\r'].contains char

def isShown (char : Char) : Bool := isLayout char || (' ' ≤ char && char != '\x7f')

def between (first last char : Char) : Bool := first ≤ char && char ≤ last

/-- Whether the bytes of a character hold the one that ends a string. -/
def endsString (char : Char) : Bool := (Utf8.encode [char]).contains 0x9C

namespace Position

/-- White space inside the short sequences is shown. -/
def shows : Position → Char → Bool
  | plain, char => isShown char
  | escape, char | escapeMiddle, char | control, char => isLayout char
  | _, _ => false

/-- The point behind a character. Two characters break off any sequence, and the escape character
begins a new one. -/
def next (position : Position) (char : Char) : Position :=
  if char = '\x18' || char = '\x1a' then plain
  else if char = '\x1b' then escape
  else
    match position with
    | plain => plain
    | escape =>
      if between ' ' '/' char then escapeMiddle
      else if char = '[' then control
      else if char = ']' then command
      else if char = 'P' then deviceStart
      else if char = 'X' || char = '^' || char = '_' then string
      else if between '0' '~' char then plain
      else escape
    | escapeMiddle => if between '0' '~' char then plain else escapeMiddle
    | control => if between '@' '~' char then plain else control
    | deviceStart =>
      if between ' ' '/' char then deviceMiddle
      else if between '0' '?' char then deviceParameters
      else if between '@' '~' char then string
      else deviceStart
    | deviceParameters =>
      if between ' ' '/' char then deviceMiddle
      else if between '<' '~' char then string
      else deviceParameters
    | deviceMiddle => if between '0' '~' char then string else deviceMiddle
    | string => if endsString char then plain else string
    | command => if char = '\x07' then plain else command

end Position

/-- The characters shown. What follows a character that is shown is shown up to the next control
character, which takes an unfinished sequence up again; a character beyond ASCII finishes it. -/
def shown (position : Position) (showing : Bool) : List Char → List Char
  | [] => []
  | char :: rest =>
    if if showing then isShown char else position.shows char then
      char :: shown (if char ≤ '\x7f' then position else .plain) true rest
    else shown (position.next char) false rest

end Visible

def visible (text : String) : String := String.ofList (Visible.shown .plain false text.toList)

example : visible "a\x1b[31mb\x1b[0m\x07\n\tc\x1b]0;title\x07d" = "ab\n\tcd" := by decide +kernel

/-- A break in a sequence shows the rest of it. -/
example : visible "\x1b[31;\nm!" = "\nm!" := by decide +kernel

end ShaderBinding
