/-
A text written in quotes. Of the forms that can hold it without an escape
the first in this order is taken: basic on one line where it has neither
quotes nor backslashes, literal on one line, basic between triple quotes,
literal between triple quotes. Where none can, the text is written as a
basic one with escapes, between triple quotes if it spans lines. A tab is
always escaped in a basic text, and never a reason not to use one.
-/
import InstrumentBus.Toml.Quoted

namespace InstrumentBus.Toml.Quoted

/-- The longest run of a character in a text. `run` is the length of the
run that ends where the text starts. -/
def longestRun (q : Char) (run : Nat) : List Char → Nat
  | [] => run
  | c :: rest => if c = q then longestRun q (run + 1) rest else max run (longestRun q 0 rest)

/-- A character that only an escape can stand for. -/
def needsEscape (c : Char) : Bool := !isPlain c && c ≠ '\n'

/-- The forms a text can be written in. -/
inductive Form where
  | basic | literal | basicLines | literalLines
  deriving DecidableEq, Repr

/-- The form a text is written in. -/
def formOf (s : List Char) : Form :=
  let control := s.any needsEscape
  let slash := s.contains '\\'
  let lines := s.contains '\n'
  let single := longestRun '\'' 0 s
  let double := longestRun '"' 0 s
  if !control && !slash && double = 0 && !lines then .basic
  else if !control && single = 0 && !lines then .literal
  else if !control && !slash && double ≤ 2 then .basicLines
  else if !control && single ≤ 2 then .literalLines
  else if lines then .basicLines
  else .basic

/-- A number below 2^16 as four hexadecimal digits, in upper case. -/
def hexDigits (n : Nat) : List Char :=
  [n / 4096 % 16, n / 256 % 16, n / 16 % 16, n % 16].map fun d => (Nat.digitChar d).toUpper

/-- A character of a basic text as it is written. `run` quotes of the text
have been written directly in front of it, and `allowed` may be. -/
def writeChar (lines : Bool) (run : Nat) (c : Char) : List Char :=
  if c = '"' then if run < (if lines then 2 else 0) then ['"'] else ['\\', '"']
  else if c = '\\' then ['\\', '\\']
  else if c = '\n' then if lines then ['\n'] else ['\\', 'n']
  else if c = '\t' then ['\\', 't']
  else if c = '\x08' then ['\\', 'b']
  else if c = '\x0c' then ['\\', 'f']
  else if c = '\r' then ['\\', 'r']
  else if isPlain c then [c]
  else '\\' :: 'u' :: hexDigits c.toNat

/-- The run of bare quotes that ends with a character. -/
def nextRun (lines : Bool) (run : Nat) (c : Char) : Nat :=
  if c = '"' ∧ run < (if lines then 2 else 0) then run + 1 else 0

/-- A basic text without its quotes. -/
def writeBasic (lines : Bool) : Nat → List Char → List Char
  | _, [] => []
  | run, c :: rest => writeChar lines run c ++ writeBasic lines (nextRun lines run c) rest

/-- Three quotes. -/
def triple (q : Char) : List Char := [q, q, q]

/-- A text in quotes. Between triple quotes, a text that spans lines
starts on a line of its own. -/
def write (s : List Char) : List Char :=
  let start := if s.contains '\n' then ['\n'] else []
  match formOf s with
  | .basic => '"' :: writeBasic false 0 s ++ ['"']
  | .literal => '\'' :: s ++ ['\'']
  | .basicLines => triple '"' ++ start ++ writeBasic true 0 s ++ triple '"'
  | .literalLines => triple '\'' ++ start ++ s ++ triple '\''

end InstrumentBus.Toml.Quoted
