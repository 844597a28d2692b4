/-
Texts in quotes. There are four forms: basic, between double quotes, in
which a backslash starts an escape, and literal, between single quotes,
in which nothing does; and each of them also between triple quotes, which
may span lines.

A reader is given what follows the opening quotes and hands back the text
and what follows the closing ones. In the triple forms up to two quotes
directly in front of the closing ones belong to the text. Line breaks
have been made line feeds before any of this is read, so a carriage
return is a character like any other that may not stand for itself.
-/
namespace InstrumentBus.Toml.Quoted

/-- A character that stands for itself within a line: no control
character other than the tab. -/
def isPlain (c : Char) : Bool := c == '\t' || (' ' ≤ c && c ≠ '\x7f')

/-- A blank within a line. -/
def isBlank (c : Char) : Bool := c == ' ' || c == '\t'

/-- The value of a hexadecimal digit. -/
def hexDigit? (c : Char) : Option Nat :=
  if '0' ≤ c ∧ c ≤ '9' then some (c.toNat - 48)
  else if 'a' ≤ c ∧ c ≤ 'f' then some (c.toNat - 87)
  else if 'A' ≤ c ∧ c ≤ 'F' then some (c.toNat - 55)
  else none

/-- The character of a number, if there is one. -/
def scalar? (n : Nat) : Option Char := if n.isValidChar then some (Char.ofNat n) else none

/-- The character that an escape of one letter stands for. -/
def escaped? (c : Char) : Option Char :=
  match c with
  | 'b' => some '\x08'
  | 't' => some '\t'
  | 'n' => some '\n'
  | 'f' => some '\x0c'
  | 'r' => some '\r'
  | '"' => some '"'
  | '\\' => some '\\'
  | _ => none

-- ======================================================== basic texts

/-- Where the reader of a basic text stands. -/
inductive Mode where
  | text
  -- behind a backslash
  | escape
  -- in a numeric escape: the digits to come, and the number so far
  | digits (left : Nat) (n : Nat)
  -- behind a backslash and a blank, on a line that has to end
  | dangling
  -- behind a backslash that ended a line: line breaks and blanks are
  -- swallowed
  | swallowing
  deriving DecidableEq, Repr

/-- One character of a basic text: where it leads, and what it adds to
the text. `lines` is said of a text that may span lines. -/
def advance (lines : Bool) (m : Mode) (c : Char) : Option (Mode × List Char) :=
  let plain : Option (Mode × List Char) :=
    if c = '\\' then some (.escape, [])
    else if isPlain c ∨ (lines ∧ c = '\n') then some (.text, [c])
    else none
  match m with
  | .text => plain
  | .escape =>
    match escaped? c with
    | some x => some (.text, [x])
    | none =>
      if c = 'u' then some (.digits 4 0, [])
      else if c = 'U' then some (.digits 8 0, [])
      else if lines ∧ isBlank c then some (.dangling, [])
      else if lines ∧ c = '\n' then some (.swallowing, [])
      else none
  | .digits left n =>
    (hexDigit? c).bind fun d =>
      let n := n * 16 + d
      if 1 < left then some (.digits (left - 1) n, [])
      else (scalar? n).map fun x => (.text, [x])
  | .dangling =>
    if isBlank c then some (.dangling, [])
    else if c = '\n' then some (.swallowing, [])
    else none
  | .swallowing => if isBlank c ∨ c = '\n' then some (.swallowing, []) else plain

/-- A basic text on one line. -/
def basic : Mode → List Char → Option (List Char × List Char)
  | _, [] => none
  | m, c :: rest =>
    if m = .text ∧ c = '"' then some ([], rest)
    else do
      let (m, out) ← advance false m c
      let (s, rest) ← basic m rest
      return (out ++ s, rest)

/-- What follows three closing quotes: up to two more belong to the
text. -/
def closing (quote : Char) (rest : List Char) : List Char × List Char :=
  let more := (rest.take 2).takeWhile (· == quote)
  (more, rest.drop more.length)

/-- The text starts with three quotes. -/
def isTriple (quote : Char) (s : List Char) : Bool := s.take 3 == [quote, quote, quote]

/-- A basic text that may span lines. -/
def basicLines : Mode → List Char → Option (List Char × List Char)
  | _, [] => none
  | m, c :: rest =>
    if (m = .text ∨ m = .swallowing) ∧ isTriple '"' (c :: rest) then
      some (closing '"' (rest.drop 2))
    else do
      let (m, out) ← advance true m c
      let (s, rest) ← basicLines m rest
      return (out ++ s, rest)

-- ====================================================== literal texts

/-- A literal text on one line. -/
def literal : List Char → Option (List Char × List Char)
  | [] => none
  | c :: rest =>
    if c = '\'' then some ([], rest)
    else if isPlain c then (literal rest).map fun (s, rest) => (c :: s, rest)
    else none

/-- A literal text that may span lines. -/
def literalLines : List Char → Option (List Char × List Char)
  | [] => none
  | c :: rest =>
    if isTriple '\'' (c :: rest) then some (closing '\'' (rest.drop 2))
    else if isPlain c ∨ c = '\n' then (literalLines rest).map fun (s, rest) => (c :: s, rest)
    else none

-- ============================================================ any form

/-- What follows opening quotes, less the line break right behind them. -/
def dropBreak (s : List Char) : List Char :=
  match s with
  | '\n' :: rest => rest
  | s => s

/-- A text in quotes of any form. -/
def read (s : List Char) : Option (List Char × List Char) :=
  match s with
  | '"' :: rest =>
    if isTriple '"' s then basicLines .text (dropBreak (rest.drop 2)) else basic .text rest
  | '\'' :: rest =>
    if isTriple '\'' s then literalLines (dropBreak (rest.drop 2)) else literal rest
  | _ => none

/-- A text in quotes of a form that stays on one line. -/
def readLine (s : List Char) : Option (List Char × List Char) :=
  match s with
  | '"' :: rest => basic .text rest
  | '\'' :: rest => literal rest
  | _ => none

end InstrumentBus.Toml.Quoted
