/-
The lines of a TOML document. Each is a key with a value, the header of a
table, the header of a further table of an array, or empty; blanks and a
comment may stand around what it says. Only a value in brackets and a
text in triple quotes go on over the end of a line.

Two limits are part of the format as it is read here: a key has fewer
than eighty parts, and values are nested in brackets and braces less than
eighty deep.
-/
import InstrumentBus.Keyed
import InstrumentBus.Toml.Plain

namespace InstrumentBus.Toml

/-- What a line of a document says. -/
inductive Line where
  | pair (key : List String) (value : Value)
  | table (key : List String)
  | element (key : List String)
  deriving Repr, Inhabited

namespace Line

-- ============================================================ layout

/-- Line breaks of two characters made line feeds. -/
def joinBreaks : List Char → List Char
  | [] => []
  | '\r' :: '\n' :: rest => '\n' :: joinBreaks rest
  | c :: rest => c :: joinBreaks rest

/-- A text without the blanks in front of it. -/
def skipBlanks (s : List Char) : List Char := s.dropWhile Quoted.isBlank

/-- A text without the blanks, comments and line breaks in front of it.
`comment` is said inside a comment. -/
def skipLayout (comment : Bool) : List Char → List Char
  | [] => []
  | c :: rest =>
    if c = '\n' then skipLayout false rest
    else if comment then if Quoted.isPlain c then skipLayout true rest else c :: rest
    else if Quoted.isBlank c then skipLayout false rest
    else if c = '#' then skipLayout true rest
    else c :: rest

/-- What follows the end of a line: blanks and perhaps a comment, and then
a line break or the end of the document. -/
def finish? (s : List Char) : Option (List Char) :=
  let rest :=
    match skipBlanks s with
    | '#' :: rest => rest.dropWhile Quoted.isPlain
    | rest => rest
  match rest with
  | [] => some []
  | '\n' :: rest => some rest
  | _ => none

-- ============================================================== keys

/-- A key may have at most this many parts, and brackets may be nested at
most this deep. -/
def limit : Nat := 79

/-- A character of a part of a key that needs no quotes. -/
def isBare (c : Char) : Bool := c.isAlphanum || c == '_' || c == '-'

/-- One part of a key. -/
def part? (s : List Char) : Option (String × List Char) :=
  match Quoted.readLine s with
  | some (t, rest) => some (String.ofList t, rest)
  | none =>
    let bare := s.takeWhile isBare
    if bare.isEmpty then none else some (String.ofList bare, s.dropWhile isBare)

/-- A key: parts joined by points, with blanks around them; at most `n`
parts. What follows the blanks behind it is handed back. -/
def key? : Nat → List Char → Option (List String × List Char)
  | 0, _ => none
  | n + 1, s => do
    let (part, rest) ← part? (skipBlanks s)
    match skipBlanks rest with
    | '.' :: rest =>
      let (parts, rest) ← key? n rest
      return (part :: parts, rest)
    | rest => return ([part], rest)

-- ============================================================ values

/-- A change made under a key whose parts lead through tables. `under` is
given the contents of the last of them. Tables on the way that are not
there come about; those that are there must have come about in the same
way. -/
def throughDots (under : Fields → Option Fields) : List String → Fields → Option Fields
  | [], fs => under fs
  | k :: rest, fs =>
    match Keyed.get? fs k with
    | none => (throughDots under rest []).map fun sub => Keyed.set fs k (.table .dotted sub)
    | some (.table .dotted sub) =>
      (throughDots under rest sub).map fun sub => Keyed.set fs k (.table .dotted sub)
    | some (.table .implied sub) =>
      if rest.isEmpty then none
      else (throughDots under rest sub).map fun sub => Keyed.set fs k (.table .implied sub)
    | some (.tables elements) =>
      if rest.isEmpty then none
      else do
        let last ← elements.getLast?
        let sub ← throughDots under rest last
        return Keyed.set fs k (.tables (elements.dropLast ++ [sub]))
    | some _ => none

/-- A value put under a key in a table. The key must be new. -/
def put (key : List String) (v : Value) (fs : Fields) : Option Fields := do
  let name ← key.getLast?
  throughDots
    (fun fs => if (Keyed.get? fs name).isSome then none else some (Keyed.set fs name v))
    key.dropLast fs

/-- The items of a list and what follows its closing bracket. Items are
read by `item`, and there are fewer than `n` of them. -/
def items (item : List Char → Option (Value × List Char)) :
    Nat → List Char → Option (List Value × List Char)
  | 0, _ => none
  | n + 1, s =>
    match skipLayout false s with
    | ']' :: rest => some ([], rest)
    | s => do
      let (v, rest) ← item s
      match skipLayout false rest with
      | ',' :: rest =>
        let (vs, rest) ← items item n rest
        return (v :: vs, rest)
      | ']' :: rest => return ([v], rest)
      | _ => none

/-- A key, an equals sign and a value. -/
def pair? (item : List Char → Option (Value × List Char)) (s : List Char) :
    Option ((List String × Value) × List Char) := do
  let (key, rest) ← key? limit s
  match rest with
  | '=' :: rest =>
    let (v, rest) ← item (skipBlanks rest)
    return ((key, v), rest)
  | _ => none

/-- The contents of an inline table, from its first key on, and what
follows its closing brace. Fewer than `n` keys are read, into `fs`. -/
def inlineFields (item : List Char → Option (Value × List Char)) :
    Nat → Fields → List Char → Option (Fields × List Char)
  | 0, _, _ => none
  | n + 1, fs, s => do
    let ((key, v), rest) ← pair? item s
    let fs ← put key v fs
    match skipBlanks rest with
    | ',' :: rest => inlineFields item n fs rest
    | '\x7d' :: rest => return (fs, rest)
    | _ => none

/-- A value with no brackets around it. -/
def simple? (s : List Char) : Option (Value × List Char) :=
  match s with
  | '"' :: _ | '\'' :: _ => (Quoted.read s).map fun (t, rest) => (.text (String.ofList t), rest)
  | s => Plain.read s

/-- A value with brackets nested at most `n` deep. -/
def value? : Nat → List Char → Option (Value × List Char)
  | 0, s => simple? s
  | n + 1, s =>
    match s with
    | '[' :: rest =>
      (items (value? n) (rest.length + 1) rest).map fun (vs, rest) => (.list vs, rest)
    | '\x7b' :: rest =>
      match skipBlanks rest with
      | '\x7d' :: rest => some (.table .inline [], rest)
      | rest =>
        (inlineFields (value? n) (rest.length + 1) [] rest).map fun (fs, rest) =>
          (.table .inline fs, rest)
    | s => simple? s

-- ============================================================= lines

/-- What follows a character at the front of a text. -/
def expect (c : Char) (s : List Char) : Option (List Char) := Moment.after? c s

/-- A line that says something, and what follows it. -/
def line? (s : List Char) : Option (Line × List Char) :=
  match s with
  | '[' :: '[' :: rest => do
    let (key, rest) ← key? limit rest
    let rest ← expect ']' rest
    let rest ← expect ']' rest
    let rest ← finish? rest
    return (.element key, rest)
  | '[' :: rest => do
    let (key, rest) ← key? limit rest
    let rest ← expect ']' rest
    let rest ← finish? rest
    return (.table key, rest)
  | s => do
    let ((key, v), rest) ← pair? (value? limit) s
    let rest ← finish? rest
    return (.pair key v, rest)

/-- The lines of a document, at most `n` of them. -/
def readAll : Nat → List Char → Option (List Line)
  | 0, _ => none
  | n + 1, s =>
    match skipBlanks s with
    | [] => some []
    | '\n' :: rest => readAll n rest
    | '#' :: rest => do
      let rest ← finish? ('#' :: rest)
      readAll n rest
    | s => do
      let (line, rest) ← line? s
      let lines ← readAll n rest
      return line :: lines

/-- The lines of a document. A byte order mark in front of it is no part
of it. -/
def ofText? (s : List Char) : Option (List Line) :=
  let s := match s with
    | '\ufeff' :: rest => rest
    | s => s
  let s := joinBreaks s
  readAll (s.length + 1) s

end Line

end InstrumentBus.Toml
