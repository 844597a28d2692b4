/-
Settings from environment variables. A variable whose name starts with
`RUST_GPIB_` sets one key; two underscores in the rest of the name, or a
point, lead into a table. Neither letter case nor blanks at either end
matter in a name, and a name with nothing on one side of a separator sets
nothing.

The value of a variable is read as a value if all of it is one: a truth
value, a number, a text in double quotes, a character in single quotes, a
list in brackets or a table in braces. Otherwise it is a text as it
stands.
-/
import InstrumentBus.Config.Setting
import InstrumentBus.Text.Trim

namespace InstrumentBus

/-- The variables of an environment with their values, in order. -/
abbrev Environment := List (String × String)

namespace Environment

/-- What the name of a variable starts with. -/
def marker : List Char := "RUST_GPIB_".toList

-- ============================================================= values

/-- A character that may stand around a value. -/
def isSpace (c : Char) : Bool := c == ' ' || c == '\t' || c == '\n' || c == '\x0c' || c == '\r'

/-- A text without the blanks in front of it. -/
def skipSpace (s : List Char) : List Char := s.dropWhile isSpace

/-- A character that ends a word. -/
def isSeparator (c : Char) : Bool :=
  c == ',' || c == '\x7b' || c == '\x7d' || c == '[' || c == ']'

/-- A word as a value: a number if it is one, and else a text. Only a word
with a point in it is a number with a fraction. -/
def ofWord (word : List Char) : Setting :=
  let whole : Setting :=
    match Numeral.ofKind? .u64 word with
    | some n => .integer .environment false n
    | none =>
      match Numeral.ofKind? .i64 word with
      | some n => .integer .environment true n
      | none => .text .environment (String.ofList word)
  if word.contains '.' then
    match Decimal.parse? word with
    | some d => .float .environment (Binary.double.round d)
    | none => whole
  else whole

/-- A truth value in front of a text. -/
def truth? (s : List Char) : Option (Bool × List Char) :=
  if "true".toList.isPrefixOf s then some (true, s.drop 4)
  else if "false".toList.isPrefixOf s then some (false, s.drop 5)
  else none

/-- Items with commas between them up to a closing bracket, fewer than `n`
of them. A comma may stand in front of the bracket. -/
def items {α : Type} (item : List Char → Option (α × List Char)) (close : Char) :
    Nat → List Char → Option (List α × List Char)
  | 0, _ => none
  | n + 1, s =>
    if s.head? = some close then some ([], s.drop 1)
    else do
      let (v, rest) ← item s
      match rest with
      | [] => none
      | c :: rest =>
        if c = ',' then
          let (vs, rest) ← items item close n rest
          return (v :: vs, rest)
        else if c = close then return ([v], rest)
        else none

/-- The characters at the start of a text that `n` bytes hold. -/
def withinBytes : Nat → List Char → List Char
  | _, [] => []
  | n, c :: rest => if c.utf8Size ≤ n then c :: withinBytes (n - c.utf8Size) rest else []

/-- A text in double quotes, from behind the opening one, and what follows
it. Where it has an escape, what stands in front of the first one is cut
to as many bytes as it has characters. -/
def quoted? (s : List Char) : Option (List Char × List Char) :=
  (Toml.Quoted.basic .text s).map fun (t, rest) =>
    let front := s.takeWhile fun c => c != '\\' && c != '"'
    if (s.drop front.length).head? = some '\\' then
      (withinBytes front.length front ++ t.drop front.length, rest)
    else (t, rest)

/-- A key of a table in braces, with blanks around it. -/
def key? (s : List Char) : Option (String × List Char) :=
  let s := skipSpace s
  match s with
  | '"' :: rest =>
    (quoted? rest).map fun (k, rest) => (String.ofList k, skipSpace rest)
  | s =>
    let bare := s.takeWhile Toml.Line.isBare
    if bare.isEmpty then none
    else some (String.ofList bare, skipSpace (s.dropWhile Toml.Line.isBare))

/-- A key, an equals sign and a value. -/
def pair? (item : List Char → Option (Setting × List Char)) (s : List Char) :
    Option ((String × Setting) × List Char) := do
  let (k, rest) ← key? s
  match rest with
  | '=' :: rest =>
    let (v, rest) ← item rest
    return ((k, v), rest)
  | _ => none

/-- A value in front of a text, with brackets nested less than `n` deep,
and what follows it and the blanks behind it. -/
def value? : Nat → List Char → Option (Setting × List Char)
  | 0, _ => none
  | n + 1, s => do
    let s := skipSpace s
    let (v, rest) ←
      match truth? s with
      | some (b, rest) => some (.boolean .environment b, rest)
      | none =>
        match s with
        | '\x7b' :: rest =>
          (items (pair? (value? n)) '\x7d' (rest.length + 1) rest).map fun (ps, rest) =>
            (.table .environment (ps.foldl (fun fs p => Setting.put p.1 p.2 fs) []), rest)
        | '[' :: rest =>
          (items (value? n) ']' (rest.length + 1) rest).map fun (vs, rest) =>
            (.list .environment vs, rest)
        | '"' :: rest =>
          (quoted? rest).map fun (t, rest) => (.text .environment (String.ofList t), rest)
        | '\'' :: rest =>
          match rest with
          | c :: '\'' :: rest => some (.letter .environment c, rest)
          | _ => none
        | s =>
          some (ofWord (Text.trim Text.isBlank (s.takeWhile (!isSeparator ·))),
            s.dropWhile (!isSeparator ·))
    return (v, skipSpace rest)

/-- The value of a variable. -/
def ofValue (s : String) : Setting :=
  match value? (s.toList.length + 1) s.toList with
  | some (v, []) => v
  | _ => .text .environment s

-- ============================================================== names

/-- Two underscores made a point, from left to right. -/
def joinPoints : List Char → List Char
  | '_' :: '_' :: rest => '.' :: joinPoints rest
  | c :: rest => c :: joinPoints rest
  | [] => []

/-- A text cut at its points. -/
def splitPoints (s : List Char) : List (List Char) :=
  match s with
  | [] => [[]]
  | c :: rest =>
    match splitPoints rest with
    | [] => [[c]]
    | part :: parts => if c = '.' then [] :: part :: parts else (c :: part) :: parts

/-- The keys that the name of a variable leads through; none if it is not
the name of a setting. -/
def path? (name : String) : Option (List String) :=
  let s := Text.trim Text.isBlank name.toList
  if (s.take marker.length).map Char.toUpper = marker then
    let rest := Text.trim Text.isBlank (s.drop marker.length)
    let parts := splitPoints (joinPoints rest)
    if parts.any (·.isEmpty) then none
    else some (parts.map fun p => String.ofList (p.map Char.toLower))
  else none

/-- A value under a path of keys. -/
def nest : List String → Setting → Setting
  | [], v => v
  | k :: rest, v => .table .environment [(k, nest rest v)]

/-- The settings that the environment makes. A variable that is set twice
has the later value, in the earlier place; of variables that set the same
key the later wins. -/
def settings (env : Environment) : Setting :=
  let distinct := env.foldl (fun vs v => Keyed.set vs v.1 v.2) []
  distinct.foldl
    (fun acc (name, value) =>
      match path? name with
      | some path => acc.merge (nest path (ofValue value))
      | none => acc)
    (.table .environment [])

end Environment

end InstrumentBus
