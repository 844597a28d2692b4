/-
Documents of one level, read as they are written.

A sheet is a document of keys with their values, some in front of any
header and the others under headers, each on a line of its own. It is
written line by line, and read the same way: a key line is read as its
pair and a header as its table, whatever follows (`Reads`). The lines put
together again are the fields that were written, in their order
(`Sheet.ofText?_write`), as long as no key stands twice where it would
mean the same.

How a value is written does not matter here, only that it is read back at
the end of a line (`Entry.Fair`).
-/
import InstrumentBus.Config.Rendered
import InstrumentBus.Toml.Document
import Mathlib.Logic.Basic

namespace InstrumentBus.Toml

open InstrumentBus.Configuration (keyLine headerLine)

/-- A key and its value, with the text that it is written as. -/
structure Entry where
  key : String
  text : List Char
  value : Value

namespace Entry

/-- The line of an entry. -/
def write (e : Entry) : List Char := keyLine e.key e.text

/-- What the line says. -/
def line (e : Entry) : Line := .pair [e.key] e.value

/-- What it comes to. -/
def field (e : Entry) : String × Value := (e.key, e.value)

end Entry

/-- A key that needs no quotes. -/
def IsBareKey (key : String) : Prop := key.toList ≠ [] ∧ ∀ c ∈ key.toList, Line.isBare c = true

instance (key : String) : Decidable (IsBareKey key) :=
  decidable_of_iff (key.toList ≠ [] ∧ key.toList.all Line.isBare = true)
    (and_congr_right' List.all_eq_true)

/-- The key needs no quotes, and the text is read as the value at the end
of a line. No carriage return is in it: one in front of a line feed would
be lost. -/
structure Entry.Fair (e : Entry) : Prop where
  key : IsBareKey e.key
  noReturn : '\r' ∉ e.text
  text : ∀ rest, Line.value? Line.limit (Line.skipBlanks (' ' :: (e.text ++ '\n' :: rest))) =
    some (e.value, '\n' :: rest)

/-- A document with one level of headers. -/
structure Sheet where
  lead : List Entry
  parts : List (String × List Entry)

namespace Line

-- =============================================================== keys

theorem ne_of_isBare {c d : Char} (hc : isBare c = true) (hd : isBare d = false) : c ≠ d := by
  rintro rfl
  rw [hc] at hd
  cases hd

theorem skipBlanks_of_not_isBlank {c : Char} (h : Quoted.isBlank c = false) (rest : List Char) :
    skipBlanks (c :: rest) = c :: rest :=
  List.dropWhile_cons_of_neg (by rw [h]; decide)

theorem isBlank_of_isBare {c : Char} (h : isBare c = true) : Quoted.isBlank c = false := by
  simp [Quoted.isBlank, ne_of_isBare h (d := ' ') (by decide),
    ne_of_isBare h (d := '\t') (by decide)]

/-- A key that needs no quotes, in front of something that is no part of
it and no point. -/
theorem key?_bare {key : String} (hkey : IsBareKey key) {d : Char} (hd : isBare d = false)
    {rest : List Char} (hpoint : (skipBlanks (d :: rest)).head? ≠ some '.') (n : Nat) :
    key? (n + 1) (key.toList ++ d :: rest) = some ([key], skipBlanks (d :: rest)) := by
  obtain ⟨hne, hbare⟩ := hkey
  have htake : (key.toList ++ d :: rest).takeWhile isBare = key.toList := by
    rw [List.takeWhile_append_of_pos hbare]
    simp [hd]
  have hdrop : (key.toList ++ d :: rest).dropWhile isBare = d :: rest := by
    rw [List.dropWhile_append_of_pos hbare]
    simp [hd]
  have hpart : part? (skipBlanks (key.toList ++ d :: rest)) = some (key, d :: rest) := by
    obtain ⟨c, cs, hcons⟩ := List.exists_cons_of_ne_nil hne
    have hc : isBare c = true := hbare c (hcons ▸ List.mem_cons_self)
    have hline : Quoted.readLine (key.toList ++ d :: rest) = none := by
      rw [hcons]
      unfold Quoted.readLine
      split
      next heq => exact absurd (List.cons.inj heq).1 (ne_of_isBare hc (by decide))
      next heq => exact absurd (List.cons.inj heq).1 (ne_of_isBare hc (by decide))
      next => rfl
    have hskip : skipBlanks (key.toList ++ d :: rest) = key.toList ++ d :: rest := by
      rw [hcons]
      exact skipBlanks_of_not_isBlank (isBlank_of_isBare hc) _
    have hsome : key.toList.isEmpty = false := by
      rw [hcons]
      rfl
    unfold part?
    simp only [hskip, hline, htake, hdrop, hsome, String.ofList_toList]
    rfl
  unfold key?
  rw [hpart]
  simp only [Option.bind_eq_bind, Option.bind_some]
  split
  next heq => exact absurd (by rw [heq]; rfl) hpoint
  next => rfl

-- ============================================================== lines

/-- What the line of an entry starts with. -/
theorem write_cons {e : Entry} (he : e.Fair) :
    ∃ c tail, e.write = c :: tail ∧ isBare c = true := by
  obtain ⟨c, cs, hcons⟩ := List.exists_cons_of_ne_nil he.key.1
  exact ⟨c, _, by rw [Entry.write, Configuration.keyLine, hcons]; rfl,
    he.key.2 c (hcons ▸ List.mem_cons_self)⟩

/-- A line that sets a key. -/
theorem line?_entry {e : Entry} (he : e.Fair) (rest : List Char) :
    line? (e.write ++ rest) = some (e.line, rest) := by
  have hwrite : e.write ++ rest =
      e.key.toList ++ ' ' :: '=' :: ' ' :: (e.text ++ '\n' :: rest) := by
    simp [Entry.write, Configuration.keyLine]
  have hkey : key? limit (e.write ++ rest) =
      some ([e.key], '=' :: ' ' :: (e.text ++ '\n' :: rest)) := by
    rw [hwrite]
    refine key?_bare he.key (by decide) ?_ _
    exact fun h => absurd (Option.some.inj h) (by decide)
  have hpair : pair? (value? limit) (e.write ++ rest) =
      some (([e.key], e.value), '\n' :: rest) := by
    unfold pair?
    rw [hkey]
    simp only [Option.bind_eq_bind, Option.bind_some, he.text rest]
    rfl
  obtain ⟨c, tail, htail, hc⟩ := write_cons he
  have hfirst : ∀ tail, e.write ++ rest ≠ '[' :: tail := fun _ heq => by
    rw [htail] at heq
    exact ne_of_isBare hc (by decide) (List.cons.inj heq).1
  unfold line?
  split
  next heq => exact absurd heq (hfirst _)
  next heq => exact absurd heq (hfirst _)
  next =>
    rw [hpair]
    rfl

/-- A header. -/
theorem line?_header {key : String} (hkey : IsBareKey key) (rest : List Char) :
    line? ('[' :: (key.toList ++ ']' :: '\n' :: rest)) = some (.table [key], rest) := by
  have hread : key? limit (key.toList ++ ']' :: '\n' :: rest) =
      some ([key], ']' :: '\n' :: rest) := by
    refine key?_bare hkey (by decide) ?_ _
    exact fun h => absurd (Option.some.inj h) (by decide)
  obtain ⟨c, cs, hcons⟩ := List.exists_cons_of_ne_nil hkey.1
  have hc : isBare c = true := hkey.2 c (hcons ▸ List.mem_cons_self)
  unfold line?
  split
  next heq =>
    rw [hcons] at heq
    exact absurd (List.cons.inj (List.cons.inj heq).2).1 (ne_of_isBare hc (by decide))
  next heq =>
    rw [← (List.cons.inj heq).2, hread]
    rfl
  next hnot => exact absurd rfl (hnot _)

/-- The lines of a text, however many of them there may be. -/
def Reads (s : List Char) (ls : List Line) : Prop := ∀ n, s.length < n → readAll n s = some ls

theorem reads_nil : Reads [] [] := fun n hn => by
  cases n with
  | zero => exact absurd hn (Nat.not_lt_zero _)
  | succ n => rfl

/-- A line that says something is the first of the lines. -/
theorem Reads.line {c : Char} {tail rest : List Char} {l : Line} {ls : List Line}
    (h : Reads rest ls) (hc : Quoted.isBlank c = false ∧ c ≠ '\n' ∧ c ≠ '#')
    (hl : line? (c :: tail) = some (l, rest)) (hlength : rest.length < (c :: tail).length) :
    Reads (c :: tail) (l :: ls) := fun n hn => by
  cases n with
  | zero => exact absurd hn (Nat.not_lt_zero _)
  | succ n =>
      have hrest : readAll n rest = some ls := h n (by omega)
      unfold readAll
      rw [skipBlanks_of_not_isBlank hc.1]
      split
      next heq => cases heq
      next heq => exact absurd (List.cons.inj heq).1 hc.2.1
      next heq => exact absurd (List.cons.inj heq).1 hc.2.2
      next =>
        rw [hl]
        simp only [Option.bind_eq_bind, Option.bind_some, hrest]
        rfl

theorem Reads.entry {rest : List Char} {ls : List Line} (h : Reads rest ls) {e : Entry}
    (he : e.Fair) : Reads (e.write ++ rest) (e.line :: ls) := by
  obtain ⟨c, tail, htail, hc⟩ := write_cons he
  have hline := line?_entry he rest
  rw [htail, List.cons_append] at hline ⊢
  refine h.line ⟨isBlank_of_isBare hc, ne_of_isBare hc (by decide), ne_of_isBare hc (by decide)⟩
    hline ?_
  simp only [List.length_cons, List.length_append]
  omega

theorem Reads.header {rest : List Char} {ls : List Line} (h : Reads rest ls) {key : String}
    (hkey : IsBareKey key) : Reads (Configuration.headerLine key ++ rest) (.table [key] :: ls) := by
  have hwrite : Configuration.headerLine key ++ rest =
      '\n' :: '[' :: (key.toList ++ ']' :: '\n' :: rest) := by
    simp [Configuration.headerLine]
  have hrest : Reads ('[' :: (key.toList ++ ']' :: '\n' :: rest)) (.table [key] :: ls) := by
    refine h.line (by decide) (line?_header hkey rest) ?_
    simp only [List.length_cons, List.length_append]
    omega
  intro n hn
  rw [hwrite] at hn ⊢
  cases n with
  | zero => exact absurd hn (Nat.not_lt_zero _)
  | succ n => exact hrest n (Nat.lt_of_succ_lt_succ hn)

theorem Reads.entries {rest : List Char} {ls : List Line} (h : Reads rest ls) {es : List Entry}
    (hes : ∀ e ∈ es, e.Fair) :
    Reads (es.flatMap Entry.write ++ rest) (es.map Entry.line ++ ls) := by
  induction es with
  | nil => exact h
  | cons e es ih =>
      obtain ⟨he, hes⟩ := List.forall_mem_cons.mp hes
      rw [List.flatMap_cons, List.append_assoc]
      exact (ih hes).entry he

end Line

-- ============================================================= sheets

namespace Sheet

/-- A part: its header, and its entries. -/
def writePart (p : String × List Entry) : List Char :=
  Configuration.headerLine p.1 ++ p.2.flatMap Entry.write

/-- The text of a sheet. -/
def write (s : Sheet) : List Char := s.lead.flatMap Entry.write ++ s.parts.flatMap writePart

/-- What the lines of a part say. -/
def partLines (p : String × List Entry) : List Line := .table [p.1] :: p.2.map Entry.line

/-- What the lines of a sheet say. -/
def lines (s : Sheet) : List Line := s.lead.map Entry.line ++ s.parts.flatMap partLines

/-- A part as a field of the document. -/
def partField (p : String × List Entry) : String × Value :=
  (p.1, .table .header (p.2.map Entry.field))

/-- What a sheet comes to. -/
def fields (s : Sheet) : Fields := s.lead.map Entry.field ++ s.parts.map partField

/-- The keys need no quotes, the values are read as they are written, and
no key stands twice at one level. -/
structure Fair (s : Sheet) : Prop where
  lead : ∀ e ∈ s.lead, e.Fair
  names : ∀ p ∈ s.parts, IsBareKey p.1
  entries : ∀ p ∈ s.parts, ∀ e ∈ p.2, e.Fair
  distinct : (s.fields.map (·.1)).Nodup
  within : ∀ p ∈ s.parts, (p.2.map Entry.key).Nodup

theorem reads {s : Sheet} (h : s.Fair) : Line.Reads s.write s.lines := by
  have hparts : ∀ ps : List (String × List Entry), (∀ p ∈ ps, IsBareKey p.1) →
      (∀ p ∈ ps, ∀ e ∈ p.2, e.Fair) →
      Line.Reads (ps.flatMap writePart) (ps.flatMap partLines) := by
    intro ps
    induction ps with
    | nil => exact fun _ _ => Line.reads_nil
    | cons p ps ih =>
        intro hnames hentries
        obtain ⟨hname, hnames⟩ := List.forall_mem_cons.mp hnames
        obtain ⟨hentry, hentries⟩ := List.forall_mem_cons.mp hentries
        have hpart := ((ih hnames hentries).entries hentry).header hname
        rw [List.flatMap_cons, List.flatMap_cons, writePart, List.append_assoc]
        exact hpart
  exact (hparts s.parts h.names h.entries).entries h.lead

-- ===================================================== put together

/-- A new key of a table comes last. -/
theorem put_new {fs : Fields} {key : String} (h : key ∉ fs.map (·.1)) (v : Value) :
    Line.put [key] v fs = some (fs ++ [(key, v)]) := by
  show (if (Keyed.get? fs key).isSome then none else some (Keyed.set fs key v)) = _
  have hget := Keyed.get?_eq_none_of_not_mem h
  rw [hget, Keyed.set_of_get?_eq_none hget]
  rfl

/-- The first of the keys to come is new, and the others are new behind
it. -/
theorem nodup_step {fs : Fields} {key : String} {keys : List String} {v : Value}
    (h : (fs.map (·.1) ++ key :: keys).Nodup) :
    key ∉ fs.map (·.1) ∧ ((fs ++ [(key, v)]).map (·.1) ++ keys).Nodup := by
  refine ⟨fun hmem => ?_, ?_⟩
  · exact (List.nodup_append.mp h).2.2 key hmem key List.mem_cons_self rfl
  · rw [List.map_append, List.append_assoc]
    exact h

/-- Entries added one after the other, in front of any header. -/
theorem foldlM_lead (es : List Entry) (fs : Fields)
    (h : (fs.map (·.1) ++ es.map Entry.key).Nodup) :
    (es.map Entry.line).foldlM Document.add ⟨[], fs⟩ =
      some ⟨[], fs ++ es.map Entry.field⟩ := by
  induction es generalizing fs with
  | nil => simp
  | cons e es ih =>
      obtain ⟨hnew, hrest⟩ := nodup_step (v := e.value) h
      have hadd : Document.add ⟨[], fs⟩ e.line = some ⟨[], fs ++ [e.field]⟩ := by
        show (Line.put [e.key] e.value fs).bind _ = _
        rw [put_new hnew]
        rfl
      rw [List.map_cons, List.foldlM_cons, hadd]
      refine (ih _ hrest).trans ?_
      simp [Entry.field]

/-- Entries added one after the other under a header. -/
theorem foldlM_entries (es : List Entry) (front : Fields) (name : String) (sub : Fields)
    (h : (sub.map (·.1) ++ es.map Entry.key).Nodup) :
    (es.map Entry.line).foldlM Document.add
        ⟨[name], Keyed.set front name (.table .header sub)⟩ =
      some ⟨[name], Keyed.set front name (.table .header (sub ++ es.map Entry.field))⟩ := by
  induction es generalizing sub with
  | nil => simp
  | cons e es ih =>
      obtain ⟨hnew, hrest⟩ := nodup_step (v := e.value) h
      have hopen : Keyed.get? (Keyed.set front name (.table .header sub)) name =
          some (.table .header sub) := by
        rw [Keyed.get?_set, if_pos rfl]
      have hadd : Document.add ⟨[name], Keyed.set front name (.table .header sub)⟩ e.line =
          some ⟨[name], Keyed.set front name (.table .header (sub ++ [e.field]))⟩ := by
        show (Document.atHeader (Line.put [e.key] e.value) [name] _).bind _ = _
        simp only [Document.atHeader, hopen, put_new hnew, Option.map_some, Keyed.set_set]
        rfl
      rw [List.map_cons, List.foldlM_cons, hadd]
      refine (ih _ hrest).trans ?_
      simp [Entry.field]

/-- Parts added one after the other. -/
theorem foldlM_parts (ps : List (String × List Entry)) (header : List String) (fs : Fields)
    (h : (fs.map (·.1) ++ ps.map (·.1)).Nodup) (hwithin : ∀ p ∈ ps, (p.2.map Entry.key).Nodup) :
    ∃ last, (ps.flatMap partLines).foldlM Document.add ⟨header, fs⟩ =
      some ⟨last, fs ++ ps.map partField⟩ := by
  induction ps generalizing fs header with
  | nil => exact ⟨header, by simp⟩
  | cons p ps ih =>
      obtain ⟨name, es⟩ := p
      obtain ⟨hp, hwithin⟩ := List.forall_mem_cons.mp hwithin
      obtain ⟨hnew, hrest⟩ := nodup_step (v := (partField (name, es)).2) h
      have hget := Keyed.get?_eq_none_of_not_mem hnew
      have hopen : Document.add ⟨header, fs⟩ (.table [name]) =
          some ⟨[name], Keyed.set fs name (.table .header [])⟩ := by
        show (Document.openTable name fs).bind _ = _
        unfold Document.openTable
        rw [hget]
        rfl
      have hentries := foldlM_entries es fs name [] hp
      obtain ⟨last, hparts⟩ := ih [name] _ hrest hwithin
      refine ⟨last, ?_⟩
      rw [List.flatMap_cons, partLines, List.cons_append, List.foldlM_cons, hopen]
      show List.foldlM _ _ _ = _
      rw [List.foldlM_append, hentries, Keyed.set_of_get?_eq_none hget]
      refine hparts.trans ?_
      simp [partField]

theorem ofLines?_lines {s : Sheet} (h : s.Fair) :
    Document.ofLines? s.lines = some s.fields := by
  have hdistinct : (s.lead.map Entry.key ++ s.parts.map (·.1)).Nodup := by
    have hd := h.distinct
    simp only [fields, List.map_append, List.map_map] at hd
    exact hd
  have hlead := foldlM_lead s.lead [] (List.nodup_append.mp hdistinct).1
  obtain ⟨last, hparts⟩ := foldlM_parts s.parts [] (s.lead.map Entry.field)
    (by rw [List.map_map]; exact hdistinct) h.within
  unfold Document.ofLines? lines
  rw [List.foldlM_append, hlead]
  show Option.map _ (List.foldlM _ _ _) = _
  rw [List.nil_append, hparts]
  rfl

-- ============================================================= reading

theorem joinBreaks_eq_self {s : List Char} (h : '\r' ∉ s) : Line.joinBreaks s = s := by
  induction s with
  | nil => rfl
  | cons c s ih =>
      simp only [List.mem_cons, not_or] at h
      obtain ⟨hc, hs⟩ := h
      unfold Line.joinBreaks
      split
      next heq => cases heq
      next heq => exact absurd (List.cons.inj heq).1.symm hc
      next heq =>
        obtain ⟨rfl, rfl⟩ := List.cons.inj heq
        rw [ih hs]

theorem noReturn_of_bare {key : String} (h : IsBareKey key) : '\r' ∉ key.toList := fun hmem =>
  absurd (h.2 _ hmem) (by decide)

theorem Fair.noReturn {s : Sheet} (h : s.Fair) : '\r' ∉ s.write := by
  have entries {es : List Entry} (hes : ∀ e ∈ es, e.Fair) : '\r' ∉ es.flatMap Entry.write := by
    intro hmem
    obtain ⟨e, he, hmem⟩ := List.mem_flatMap.mp hmem
    have hkey := noReturn_of_bare (hes e he).key
    simp [Entry.write, Configuration.keyLine, hkey, (hes e he).noReturn] at hmem
  intro hmem
  rcases List.mem_append.mp hmem with hmem | hmem
  · exact entries h.lead hmem
  · obtain ⟨p, hp, hmem⟩ := List.mem_flatMap.mp hmem
    rcases List.mem_append.mp hmem with hmem | hmem
    · have hkey := noReturn_of_bare (h.names p hp)
      simp [Configuration.headerLine, hkey] at hmem
    · exact entries (h.entries p hp) hmem

/-- A sheet does not start with a byte order mark. -/
theorem Fair.head?_ne {s : Sheet} (h : s.Fair) : s.write.head? ≠ some '\ufeff' := by
  unfold write
  cases hlead : s.lead with
  | nil =>
      cases s.parts with
      | nil => exact nofun
      | cons p ps => exact fun hmark => absurd (Option.some.inj hmark) (by decide)
  | cons e es =>
      obtain ⟨c, tail, htail, hc⟩ := Line.write_cons (h.lead e (hlead ▸ List.mem_cons_self))
      rw [List.flatMap_cons, htail]
      exact fun hmark => Line.ne_of_isBare hc (by decide) (Option.some.inj hmark)

/-- A sheet is read as it was written. -/
theorem ofText?_write {s : Sheet} (h : s.Fair) :
    Document.ofText? (String.ofList s.write) = some s.fields := by
  have hread : Line.readAll (s.write.length + 1) s.write = some s.lines :=
    reads h _ (Nat.lt_succ_self _)
  have hlines : Line.ofText? s.write = some s.lines := by
    unfold Line.ofText?
    split
    next heq => exact absurd (by rw [heq]; rfl) h.head?_ne
    next => simp only [joinBreaks_eq_self h.noReturn, hread]
  unfold Document.ofText?
  rw [String.toList_ofList, hlines]
  exact ofLines?_lines h

end Sheet

end InstrumentBus.Toml
