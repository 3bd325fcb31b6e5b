/-! What can be wrong with the text of a pattern, where, and the report of it: the text, with marks
under the part at fault. -/

namespace ShaderBinding

namespace Pattern

/-- A place in the text of a pattern. Lines and columns count from one, columns in characters. -/
structure Mark where
  line : Nat
  column : Nat
  deriving DecidableEq, Repr

namespace Mark

def start : Mark := ⟨1, 1⟩

def behind (mark : Mark) (char : Char) : Mark :=
  if char = '\n' then ⟨mark.line + 1, 1⟩ else ⟨mark.line, mark.column + 1⟩

end Mark

structure Span where
  start : Mark
  stop : Mark
  deriving DecidableEq, Repr

inductive Flaw where
  | badClassItem
  | badClassRange
  | badClassRangeEnd
  | openClass
  | badNumber
  | noHexDigits
  | badCodePoint
  | badHexDigit
  | openEscape
  | unknownEscape
  | danglingNegation
  | repeatedFlag
  | repeatedNegation
  | openFlags
  | unknownFlag
  | repeatedName
  | emptyName
  | badName
  | openName
  | openGroup
  | strayGroupEnd
  | badCount
  | noCount
  | openCount
  | nothingToRepeat
  | openWordEdge
  | unknownWordEdge
  | openBrace
  | badProperty
  | backreference
  | lookAround
  | tooNested
  | notBeyondAscii
  | unknownProperty
  | unknownPropertyValue
  | noClassOfAllScripts
  | noCaseOfAllScripts
  | partOfCharacter
  deriving DecidableEq, Repr

def Flaw.text : Flaw → String
  | badClassItem => "invalid escape sequence found in character class"
  | badClassRange => "invalid character class range, the start must be <= the end"
  | badClassRangeEnd => "invalid range boundary, must be a literal"
  | openClass => "unclosed character class"
  | badNumber => "decimal literal invalid"
  | noHexDigits => "hexadecimal literal empty"
  | badCodePoint => "hexadecimal literal is not a Unicode scalar value"
  | badHexDigit => "invalid hexadecimal digit"
  | openEscape => "incomplete escape sequence, reached end of pattern prematurely"
  | unknownEscape => "unrecognized escape sequence"
  | danglingNegation => "dangling flag negation operator"
  | repeatedFlag => "duplicate flag"
  | repeatedNegation => "flag negation operator repeated"
  | openFlags => "expected flag but got end of regex"
  | unknownFlag => "unrecognized flag"
  | repeatedName => "duplicate capture group name"
  | emptyName => "empty capture group name"
  | badName => "invalid capture group character"
  | openName => "unclosed capture group name"
  | openGroup => "unclosed group"
  | strayGroupEnd => "unopened group"
  | badCount => "invalid repetition count range, the start must be <= the end"
  | noCount => "repetition quantifier expects a valid decimal"
  | openCount => "unclosed counted repetition"
  | nothingToRepeat => "repetition operator missing expression"
  | openWordEdge =>
    "special word boundary assertion is either unclosed or contains an invalid character"
  | unknownWordEdge =>
    "unrecognized special word boundary assertion, valid choices are: " ++
      "start, end, start-half or end-half"
  | openBrace =>
    "found either the beginning of a special word boundary or a bounded repetition on a \\b " ++
      "with an opening brace, but no closing brace"
  | badProperty => "invalid Unicode character class"
  | backreference => "backreferences are not supported"
  | lookAround => "look-around, including look-ahead and look-behind, is not supported"
  | tooNested => "exceed the maximum number of nested parentheses/brackets (250)"
  | notBeyondAscii => "Unicode not allowed here"
  | unknownProperty => "Unicode property not found"
  | unknownPropertyValue => "Unicode property value not found"
  | noClassOfAllScripts =>
    "Unicode-aware Perl class not found (make sure the unicode-perl feature is enabled)"
  | noCaseOfAllScripts =>
    "Unicode-aware case insensitivity matching is not available " ++
      "(make sure the unicode-case feature is enabled)"
  | partOfCharacter => "pattern can match invalid UTF-8"

/-- A flaw, and the parts of the text that show it. -/
structure Fault where
  flaw : Flaw
  spans : List Span
  deriving DecidableEq, Repr

namespace Fault

def withoutReturn (line : List Char) : List Char :=
  if line.getLast? = some '\r' then line.dropLast else line

/-- The lines of a text. Only a line that a line feed ends loses the return before it, and behind
the last line feed an empty line is none. -/
def linesOf (chars : List Char) : List (List Char) :=
  let lines := chars.splitOn '\n'
  lines.dropLast.map withoutReturn ++ (lines.getLast?.toList.filter (! ·.isEmpty))

/-- Marks under the columns of spans that lie on one line, from left to right. -/
def marksFrom (column : Nat) : List Span → List Char
  | [] => []
  | span :: rest =>
    let width := max 1 (span.stop.column - span.start.column)
    List.replicate (span.start.column - column) ' ' ++ List.replicate width '^' ++
      marksFrom (max column span.start.column + width) rest

def spansOn (line : Nat) (fault : Fault) : List Span :=
  (fault.spans.filter fun s => s.start.line = line && s.stop.line = line).mergeSort
    fun a b => a.start.column ≤ b.start.column

def label (width number : Nat) : List Char :=
  if width = 0 then List.replicate 4 ' '
  else
    let digits := Nat.toDigits 10 number
    List.replicate (width - digits.length) ' ' ++ digits ++ [':', ' ']

def marked (fault : Fault) (text : List Char) : List (List Char) :=
  let lines := linesOf text
  let count := lines.length + if text.getLast? = some '\n' then 1 else 0
  let width := if count ≤ 1 then 0 else (Nat.toDigits 10 count).length
  lines.zipIdx.flatMap fun (line, index) =>
    let written := label width (index + 1) ++ line
    match fault.spansOn (index + 1) with
    | [] => [written]
    | spans =>
      let margin := if width = 0 then 4 else width + 2
      [written, List.replicate margin ' ' ++ marksFrom 1 spans]

/-- What is said of a part that begins on one line and ends on another. -/
def spanText (span : Span) : String :=
  "on line " ++ toString span.start.line ++ " (column " ++ toString span.start.column ++
    ") through line " ++ toString span.stop.line ++
    " (column " ++ toString (span.stop.column - 1) ++ ")"

/-- The report of a fault in a text. A text of several lines stands between two rules. -/
def report (fault : Fault) (text : List Char) : List String :=
  let shown := (fault.marked text).map String.ofList
  let verdict := "error: " ++ fault.flaw.text
  if text.contains '\n' then
    let rule := String.ofList (List.replicate 79 '~')
    let long := fault.spans.filter fun s => s.start.line ≠ s.stop.line
    "regex parse error:" :: rule :: shown ++ rule :: long.map spanText ++ [verdict]
  else "regex parse error:" :: shown ++ [verdict]

example : (Fault.mk .openGroup [⟨⟨1, 2⟩, ⟨1, 3⟩⟩]).report ['a', '(', 'b'] =
    ["regex parse error:", "    a(b", "     ^", "error: unclosed group"] := by decide +kernel

end Fault

end Pattern

end ShaderBinding
