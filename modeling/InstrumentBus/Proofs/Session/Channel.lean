/-
Text on its way to an instrument and back.

A session sends a byte for each character of a command and reads a
character for each byte of a message. So a message of any bytes at all can
be read, and sending the text again sends the same bytes, but for the CR,
LF and NUL at its end, which are no part of a text; and what a command
arrives as is known character by character.

An instrument that answers from a table takes a command apart the same way,
a character for each byte. Its answers it sends differently: as UTF-8. The
two agree on the characters below U+0080 and on no others, since every
other character is sent as several bytes, each of which is read as a
character of its own. So an answer arrives as it stands in the table,
freed of its line ending, just when all of it is ASCII
(`decode_encode_iff`); of any other answer the session returns the
characters its UTF-8 bytes are (`Meets.query`).
-/
import InstrumentBus.Proofs.Session.Meeting

namespace InstrumentBus

-- ============================================================ the codes

namespace Text

/-- What is no part of a message is CR, LF or NUL. -/
theorem isMessageEnd_iff (c : Char) : isMessageEnd c = true ↔ c.toNat ∈ [13, 10, 0] := by
  have hcode : ∀ d : Char, c = d ↔ c.toNat = d.toNat := fun d => Char.toNat_inj.symm
  unfold isMessageEnd
  simp only [Bool.or_eq_true, beq_iff_eq, hcode, List.mem_cons, List.not_mem_nil, or_false,
    or_assoc]
  exact Iff.rfl

/-- A text and its end, taken apart by `trimEnd`. -/
theorem exists_end (s : List Char) :
    ∃ t, s = trimEnd isMessageEnd s ++ t ∧ ∀ c ∈ t, isMessageEnd c = true := by
  refine ⟨_, (trimEnd_append_removed isMessageEnd s).symm, fun c hc => ?_⟩
  exact List.all_eq_true.mp List.all_takeWhile c (List.mem_reverse.mp hc)

theorem ascii_of_isMessageEnd {c : Char} (h : isMessageEnd c = true) : c.toNat < 128 := by
  have hcode := (isMessageEnd_iff c).mp h
  simp only [List.mem_cons, List.not_mem_nil, or_false] at hcode
  omega

/-- What a message ends with is ASCII in any case. -/
theorem ascii_trimEnd (s : List Char) :
    (∀ c ∈ trimEnd isMessageEnd s, c.toNat < 128) ↔ ∀ c ∈ s, c.toNat < 128 := by
  obtain ⟨t, hsplit, ht⟩ := exists_end s
  conv => rhs; rw [hsplit]
  rw [List.forall_mem_append]
  exact (and_iff_left fun c hc => ascii_of_isMessageEnd (ht c hc)).symm

/-- A text whose last character is known. -/
theorem forall_getLast? {p : Char → Bool} {s : List Char} {d : Char} (h : s.getLast? = some d)
    (hd : p d = false) : ∀ c ∈ s.getLast?, p c = false := by
  intro c hc
  rw [h] at hc
  cases hc
  exact hd

namespace Latin

theorem map_toNat_decode (bs : List UInt8) :
    (decode bs).map (·.toNat) = bs.map (·.toNat) := by
  unfold decode
  rw [List.map_map]
  exact List.map_congr_left fun b _ => charOf_toNat b

/-- The byte a character is sent as is its code, or that of a question
mark. -/
theorem toNat_byteOf (c : Char) :
    (byteOf c).toNat = if c.toNat ≤ 0xFF then c.toNat else '?'.toNat := by
  unfold byteOf
  by_cases h : c.toNat < 256
  · rw [if_pos h, if_pos (Nat.le_of_lt_succ h), UInt8.toNat_ofNat', Nat.mod_eq_of_lt h]
  · rw [if_neg h, if_neg fun hle => h (Nat.lt_succ_of_le hle)]
    rfl

/-- A character that UTF-8 has one byte for is read as what it was. -/
theorem decode_encodeChar {c : Char} (h : c.toNat < 128) :
    decode (String.utf8EncodeChar c) = [c] := by
  have hbyte : UInt8.ofNat c.toNat = byteOf c := (if_pos (by omega)).symm
  rw [Unicode.encodeChar_of_lt h, hbyte]
  exact congrArg (· :: []) (charOf_byteOf (by omega))

/-- A text in UTF-8 is read as what it was just when all of it is ASCII:
everything else comes out longer. -/
theorem decode_encode_iff (s : List Char) :
    decode (Unicode.encode s) = s ↔ ∀ c ∈ s, c.toNat < 128 := by
  induction s with
  | nil => exact iff_of_true rfl nofun
  | cons c s ih =>
      have hcons : decode (Unicode.encode (c :: s)) =
          decode (String.utf8EncodeChar c) ++ decode (Unicode.encode s) := decode_append _ _
      rw [hcons, List.forall_mem_cons]
      by_cases hc : c.toNat < 128
      · rw [decode_encodeChar hc, List.singleton_append, List.cons_inj_right, ih]
        exact (and_iff_right hc).symm
      · refine iff_of_false (fun heq => ?_) fun h => hc h.1
        have hlong := Unicode.one_lt_length_encodeChar (Nat.le_of_not_lt hc)
        have hrest := Unicode.length_le_length_encode s
        have hlen := congrArg List.length heq
        rw [List.length_append, length_decode, length_decode, List.length_cons] at hlen
        omega

/-- Nor does UTF-8 bring a line ending where there was none. -/
theorem getLast?_decode_encode {s : List Char} (h : ∀ c ∈ s.getLast?, isMessageEnd c = false) :
    ∀ c ∈ (decode (Unicode.encode s)).getLast?, isMessageEnd c = false := by
  intro c hc
  rcases List.eq_nil_or_concat s with rfl | ⟨front, d, rfl⟩
  · cases hc
  · rw [List.concat_eq_append] at h hc
    have hd : isMessageEnd d = false := h d List.getLast?_concat
    have hlast : c ∈ (decode (String.utf8EncodeChar d)).getLast? := by
      have hsome : decode (String.utf8EncodeChar d) ≠ [] := fun hnil =>
        String.utf8EncodeChar_ne_nil (List.map_eq_nil_iff.mp hnil)
      rw [Unicode.encode_append, decode_append] at hc
      rwa [show Unicode.encode [d] = String.utf8EncodeChar d from List.append_nil _,
        List.getLast?_append, Option.or_of_isSome (List.getLast?_isSome.mpr hsome)] at hc
    by_cases hascii : d.toNat < 128
    · rw [decode_encodeChar hascii] at hlast
      cases hlast
      exact hd
    · obtain ⟨x, hx, rfl⟩ := List.mem_map.mp (List.mem_of_getLast? hlast)
      have hbig := Unicode.le_of_mem_encodeChar (Nat.le_of_not_lt hascii) hx
      refine Bool.eq_false_iff.mpr fun hend => ?_
      have hsmall := ascii_of_isMessageEnd hend
      rw [charOf_toNat] at hsmall
      omega

end Latin

end Text

-- ==================================================== what is delivered

/-- A write reaches the instrument at an address, and what it brings are
these bytes. -/
def Session.Delivers (s : Session) (b : Recorded Simulated) (a : Address) (text : String)
    (data : List UInt8) : Prop :=
  ∃ b', (s.write text).run b = (.ok (), b') ∧
    b'.bus.writtenAt a = b.bus.writtenAt a ++ [data]

/-- The bus after bytes were put into the output queue of the instrument at
an address. -/
def Recorded.pushed (b : Recorded Simulated) (a : Address) (bytes : List UInt8) :
    Recorded Simulated :=
  { b with bus := b.bus.pushOutput a bytes }

/-- An instrument keeps what it receives, whether or not it answers. -/
theorem Instrument.written_receive (i : Instrument) (data : List UInt8) :
    (i.receive data).written = i.written ++ [data] := by
  unfold receive
  simp only
  split <;> rfl

namespace Session

theorem toList_textOf (bytes : List UInt8) :
    (textOf bytes).toList = Text.trimEnd Text.isMessageEnd (Text.Latin.decode bytes) :=
  String.toList_ofList

/-- The bytes of a message are the codes of its text, and then those of the
characters it ends with. -/
theorem exists_codes (bytes : List UInt8) :
    ∃ tail : List Nat, bytes.map (·.toNat) = (textOf bytes).toList.map (·.toNat) ++ tail ∧
      ∀ n ∈ tail, n ∈ [13, 10, 0] := by
  obtain ⟨rest, hsplit, hrest⟩ := Text.exists_end (Text.Latin.decode bytes)
  refine ⟨rest.map (·.toNat), ?_, fun n hn => ?_⟩
  · rw [← Text.Latin.map_toNat_decode, ← List.map_append, toList_textOf, ← hsplit]
  · obtain ⟨c, hc, rfl⟩ := List.mem_map.mp hn
    exact (Text.isMessageEnd_iff c).mp (hrest c hc)

theorem textOf_last (bytes : List UInt8) :
    ∀ c ∈ (textOf bytes).toList.getLast?, c.toNat ∉ [13, 10, 0] := by
  intro c hc hcode
  rw [toList_textOf] at hc
  have hend := Text.trimEnd_last _ _ c hc
  rw [(Text.isMessageEnd_iff c).mpr hcode] at hend
  cases hend

/-- The text of a message is sent as the bytes it was read from. -/
theorem encode_textOf (bytes : List UInt8) :
    Text.Latin.encode (textOf bytes).toList = bytes.take (textOf bytes).toList.length := by
  obtain ⟨rest, hsplit, -⟩ := Text.exists_end (Text.Latin.decode bytes)
  rw [← toList_textOf] at hsplit
  have hbytes := congrArg Text.Latin.encode hsplit
  rw [Text.Latin.encode_decode, Text.Latin.encode_append] at hbytes
  calc Text.Latin.encode (textOf bytes).toList
      = (Text.Latin.encode (textOf bytes).toList ++ Text.Latin.encode rest).take
          (textOf bytes).toList.length := (List.take_left' (Text.Latin.length_encode _)).symm
    _ = bytes.take (textOf bytes).toList.length := by rw [← hbytes]

/-- What an answer in UTF-8 and the line feed after it are read as. -/
theorem textOf_answer (response : List Char) :
    (textOf (Text.Unicode.encode response ++ [10])).toList =
      Text.Latin.decode (Text.Unicode.encode (Text.trimEnd Text.isMessageEnd response)) := by
  obtain ⟨rest, hsplit, hrest⟩ := Text.exists_end response
  have hascii : ∀ c ∈ rest, c.toNat < 128 := fun c hc =>
    Text.ascii_of_isMessageEnd (hrest c hc)
  have hparts : Text.Latin.decode (Text.Unicode.encode response ++ [10]) =
      Text.Latin.decode (Text.Unicode.encode (Text.trimEnd Text.isMessageEnd response)) ++
        (rest ++ ['\n']) := by
    conv => lhs; rw [hsplit]
    rw [Text.Unicode.encode_append, Text.Latin.decode_append, Text.Latin.decode_append,
      (Text.Latin.decode_encode_iff rest).mpr hascii, List.append_assoc]
    rfl
  rw [toList_textOf, hparts]
  refine Text.trimEnd_append (Text.Latin.getLast?_decode_encode (Text.trimEnd_last _ response)) ?_
  intro c hc
  rcases List.mem_append.mp hc with hc | hc
  · exact hrest c hc
  · cases List.mem_singleton.mp hc
    rfl

/-- It is the answer as it was just when all of it is ASCII. -/
theorem textOf_answer_iff (response : List Char) :
    (textOf (Text.Unicode.encode response ++ [10])).toList =
        Text.trimEnd Text.isMessageEnd response ↔
      ∀ c ∈ response, c.toNat < 128 := by
  rw [textOf_answer, Text.Latin.decode_encode_iff]
  exact Text.ascii_trimEnd response

variable {s : Session} {b : Recorded Simulated} {a : Address} {i : Instrument}
  {command response : String}

namespace Meets

theorem writtenAt (h : s.Meets b a i) : b.bus.writtenAt a = i.written := by
  have hi : Keyed.get? b.bus.instruments a = some i := h.there
  unfold Simulated.writtenAt
  rw [hi]

theorem delivers (h : s.Meets b a i) (hne : command ≠ "") :
    s.Delivers b a command (s.payload command) := by
  obtain ⟨b', hwrite, hmeets, -⟩ := h.write hne
  refine ⟨b', hwrite, ?_⟩
  rw [hmeets.writtenAt, Instrument.written_receive, h.writtenAt]

/-- A session with another terminator meets the instrument all the same. -/
theorem setTerminator (h : s.Meets b a i) (t : Terminator) : (s.setTerminator t).Meets b a i :=
  ⟨h.opened, h.calm, h.online, h.there⟩

theorem pushed (h : s.Meets b a i) (bytes : List UInt8) :
    s.Meets (b.pushed a bytes) a (i.queue bytes) where
  opened := h.opened
  calm := h.calm
  online := h.online
  there := by
    refine (Simulated.instrument?_modify b.bus a a _).trans ?_
    rw [if_pos rfl, h.there]
    rfl

/-- An instrument that knows a command answers it in UTF-8. -/
theorem query (h : s.Meets b a i) (ho : i.output = []) (hne : command ≠ "")
    (hk : i.answer? (s.payload command) = some response) :
    ∃ b' j, (s.query command .text).run b =
        (.ok (.text (textOf (Text.Unicode.encode response.toList ++ [10]))), b') ∧
      s.Meets b' a j ∧ j.output = [] := by
  obtain ⟨b₁, hwrite, hmeets, -⟩ := h.write hne
  rw [Instrument.receive_of_answer hk, ho, List.nil_append] at hmeets
  obtain ⟨b₂, hread, hmeets₂, -⟩ := hmeets.readAs
  exact ⟨b₂, _, (run_query_ok hwrite).trans hread, hmeets₂, rfl⟩

end Meets

/-- A command that fits and has no line ending of its own is taken apart as
what it was. -/
theorem commandOf_payload (s : Session) (hfit : Text.Latin.Fits command.toList)
    (hend : ∀ c ∈ command.toList.getLast?, Text.isLineEnd c = false) :
    Instrument.commandOf (s.payload command) = command := by
  unfold payload
  rw [Instrument.commandOf_append]
  unfold Instrument.commandOf
  rw [Text.Latin.decode_encode hfit, ← List.append_nil command.toList,
    Text.trimEnd_append hend fun c hc => absurd hc List.not_mem_nil,
    String.ofList_toList]

/-- An instrument that has been told an answer knows it. -/
theorem get?_respond (i : Instrument) (command response : String) :
    Keyed.get? (i.respond command response).responses command = some response :=
  (Keyed.get?_set _ _ _ _).trans (if_pos rfl)

-- ============================================================== the echo

/-- A message of any bytes that is read and sent again. What is read has one
character for each byte, of the same code, up to the CR, LF and NUL at the
end of the message; what is sent are the bytes it was read from, with the
terminator after them. And any text is sent as one byte for each character,
a question mark for one that has no byte. -/
theorem echo_lossless (h : s.Meets b a i) (ho : i.output = []) (bytes : List UInt8) :
    (∃ text tail b', s.read.run (b.pushed a bytes) = (.ok text, b') ∧
      bytes.map (·.toNat) = text.toList.map (·.toNat) ++ tail ∧
      (∀ n ∈ tail, n ∈ [13, 10, 0]) ∧ (∀ c ∈ text.toList.getLast?, c.toNat ∉ [13, 10, 0]) ∧
      (text ≠ "" → ∀ t : Terminator, (s.setTerminator t).Delivers b' a text
        (bytes.take text.toList.length ++ t.bytes))) ∧
    ∀ (text : String) (t : Terminator), text ≠ "" → ∃ data : List UInt8,
      (s.setTerminator t).Delivers b a text (data ++ t.bytes) ∧
      data.map (·.toNat) =
        text.toList.map fun c => if c.toNat ≤ 0xFF then c.toNat else '?'.toNat := by
  refine ⟨?_, fun text t hne => ?_⟩
  · have hqueue : (i.queue bytes).output = bytes := by
      show i.output ++ bytes = bytes
      rw [ho, List.nil_append]
    obtain ⟨b', hread, hmeets, -⟩ := (h.pushed bytes).read
    rw [hqueue] at hread
    obtain ⟨tail, hcodes, htail⟩ := exists_codes bytes
    refine ⟨textOf bytes, tail, b', hread, hcodes, htail, textOf_last bytes, fun hne t => ?_⟩
    rw [← encode_textOf]
    exact (hmeets.setTerminator t).delivers hne
  · refine ⟨Text.Latin.encode text.toList, (h.setTerminator t).delivers hne, ?_⟩
    unfold Text.Latin.encode
    rw [List.map_map]
    exact List.map_congr_left fun c _ => Text.Latin.toNat_byteOf c

/-- Among the bytes are a NUL in the middle and one at the end, and one
byte above those of ASCII; the instrument never asserts END. -/
theorem echo_lossless_binary :
    ∃ text tail b', (benched .lf).read.run
        ((Recorded.fresh (bench { Instrument.silent with suppressEnd := true })).pushed ⟨5, 0⟩
          [0x41, 0xE9, 0x00, 0x42, 0x0D, 0x00]) = (.ok text, b') ∧
      [0x41, 0xE9, 0x00, 0x42, 0x0D, 0x00] = text.toList.map (·.toNat) ++ tail ∧
      (∀ n ∈ tail, n ∈ [13, 10, 0]) ∧ (∀ c ∈ text.toList.getLast?, c.toNat ∉ [13, 10, 0]) := by
  obtain ⟨text, tail, b', hread, hcodes, htail, hlast, -⟩ :=
    (echo_lossless (benched_meets .lf { Instrument.silent with suppressEnd := true }) rfl
      [0x41, 0xE9, 0x00, 0x42, 0x0D, 0x00]).1
  exact ⟨text, tail, b', hread, hcodes, htail, hlast⟩

-- ============================================================ the answer

/-- A query of an instrument that knows the command and has nothing in its
queue. The answer in its table, freed of the CR, LF and NUL at its end, is
sent as UTF-8 and read byte by byte, so it is returned as it stands just
when all of it is ASCII. -/
theorem query_answers_own_text (h : s.Meets b a i) (ho : i.output = []) (hne : command ≠ "")
    (hfit : Text.Latin.Fits command.toList)
    (hend : ∀ c ∈ command.toList.getLast?, Text.isLineEnd c = false)
    (hk : Keyed.get? i.responses command = some response) :
    ∃ text b' j, (s.query command .text).run b = (.ok (.text text), b') ∧
      s.Meets b' a j ∧ j.output = [] ∧
      text.toList = Text.Latin.decode
        (Text.Unicode.encode (Text.trimEnd Text.isMessageEnd response.toList)) ∧
      (text.toList = Text.trimEnd Text.isMessageEnd response.toList ↔
        ∀ c ∈ response.toList, c.toNat < 128) := by
  have hanswer : i.answer? (s.payload command) = some response := by
    unfold Instrument.answer?
    rw [s.commandOf_payload hfit hend]
    exact hk
  obtain ⟨b', j, hquery, hmeets, hj⟩ := h.query ho hne hanswer
  refine ⟨_, b', j, hquery, hmeets, hj, textOf_answer _, textOf_answer_iff _⟩

/-- An answer with a line ending of its own, and a terminator of two bytes. -/
theorem query_answers_own_text_trimmed :
    ∃ text b', ((benched .crlf).query "*IDN?" .text).run
        (Recorded.fresh (bench (Instrument.silent.respond "*IDN?" "ACME 1\r\n"))) =
          (.ok (.text text), b') ∧
      text.toList = "ACME 1".toList := by
  obtain ⟨text, b', j, hquery, -, -, -, hiff⟩ := query_answers_own_text
    (benched_meets .crlf (Instrument.silent.respond "*IDN?" "ACME 1\r\n")) rfl
    (by decide) (by decide +kernel)
    (Text.forall_getLast? (show "*IDN?".toList.getLast? = some '?' by decide +kernel) rfl)
    (get?_respond Instrument.silent "*IDN?" "ACME 1\r\n")
  have hascii : ("ACME 1\r\n".toList.all (·.toNat < 128)) = true := by decide +kernel
  have htext := hiff.mpr fun c hc => of_decide_eq_true (List.all_eq_true.mp hascii c hc)
  exact ⟨text, b', hquery, htext.trans (by decide +kernel)⟩

/-- It is not so for an answer that has a byte for each of its characters
but is not ASCII. -/
theorem query_answers_own_text_otherwise :
    ¬ ∀ (s : Session) (b : Recorded Simulated) (a : Address) (i : Instrument)
        (command response : String), s.Meets b a i → i.output = [] → command ≠ "" →
      Text.Latin.Fits command.toList → Text.Latin.Fits response.toList →
      (∀ c ∈ command.toList.getLast?, Text.isLineEnd c = false) →
      Keyed.get? i.responses command = some response →
      ∃ b', (s.query command .text).run b =
        (.ok (.text (String.ofList (Text.trimEnd Text.isMessageEnd response.toList))), b') := by
  intro hall
  have hfit : Text.Latin.Fits "TEMP?".toList := by decide +kernel
  have hend := Text.forall_getLast? (p := Text.isLineEnd)
    (show "TEMP?".toList.getLast? = some '?' by decide +kernel) rfl
  have hk := get?_respond Instrument.silent "TEMP?" "21 °C"
  have hmeets := benched_meets .lf (Instrument.silent.respond "TEMP?" "21 °C")
  obtain ⟨b', hclaim⟩ := hall _ _ _ _ "TEMP?" "21 °C" hmeets rfl (by decide) hfit
    (by decide +kernel) hend hk
  have hanswer : (Instrument.silent.respond "TEMP?" "21 °C").answer?
      ((benched .lf).payload "TEMP?") = some "21 °C" := by
    unfold Instrument.answer?
    rw [commandOf_payload _ hfit hend]
    exact hk
  obtain ⟨b₂, j, hquery, -⟩ := hmeets.query rfl (by decide) hanswer
  rw [hquery] at hclaim
  have htext := Response.text.inj (Except.ok.inj (Prod.mk.inj hclaim).1)
  have hlist := (congrArg String.toList htext).trans String.toList_ofList
  -- what is read has the two characters of a degree sign in UTF-8
  exact absurd ((textOf_answer_iff _).mp hlist '°' (by decide +kernel)) (by decide)

end Session

end InstrumentBus
