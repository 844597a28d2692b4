/-
Text on the wire, one byte per character. A character that has no byte of
its own — everything above U+00FF — is sent as a question mark; a byte is
read back as the character of the same number. So reading undoes writing
exactly for text that fits, and writing undoes reading always.
-/
namespace InstrumentBus.Text.Latin

/-- The byte a character is sent as. -/
def byteOf (c : Char) : UInt8 :=
  if c.toNat < 256 then .ofNat c.toNat else 63

/-- The character a byte is read as. -/
def charOf (b : UInt8) : Char := Char.ofNat b.toNat

/-- The bytes a text is sent as. -/
def encode (s : List Char) : List UInt8 := s.map byteOf

/-- The text a run of bytes is read as. -/
def decode (bs : List UInt8) : List Char := bs.map charOf

/-- Every character has a byte of its own. -/
def Fits (s : List Char) : Prop := ∀ c ∈ s, c.toNat < 256

instance (s : List Char) : Decidable (Fits s) :=
  decidable_of_iff (s.all (·.toNat < 256) = true) (by simp [Fits])

theorem charOf_toNat (b : UInt8) : (charOf b).toNat = b.toNat := by
  have h : b.toNat < 256 := b.toNat_lt
  have hv : b.toNat.isValidChar := Or.inl (by omega)
  show (Char.ofNat b.toNat).toNat = b.toNat
  rw [Char.ofNat, dif_pos hv]
  rfl

theorem byteOf_charOf (b : UInt8) : byteOf (charOf b) = b := by
  have h : b.toNat < 256 := b.toNat_lt
  simp [byteOf, charOf_toNat, h]

theorem charOf_byteOf {c : Char} (h : c.toNat < 256) : charOf (byteOf c) = c := by
  apply Char.toNat_inj.1
  rw [charOf_toNat]
  simp only [byteOf, h, if_true, UInt8.toNat_ofNat']
  omega

@[simp] theorem encode_decode (bs : List UInt8) : encode (decode bs) = bs := by
  simp [encode, decode, Function.comp_def, byteOf_charOf]

theorem decode_encode {s : List Char} (h : Fits s) : decode (encode s) = s := by
  induction s with
  | nil => rfl
  | cons c s ih =>
    have hc := charOf_byteOf (h c List.mem_cons_self)
    have hs := ih fun d hd => h d (List.mem_cons_of_mem _ hd)
    simp only [encode, decode, List.map_cons, hc] at hs ⊢
    rw [hs]

@[simp] theorem length_encode (s : List Char) : (encode s).length = s.length := by
  simp [encode]

@[simp] theorem length_decode (bs : List UInt8) : (decode bs).length = bs.length := by
  simp [decode]

@[simp] theorem encode_append (s t : List Char) : encode (s ++ t) = encode s ++ encode t := by
  simp [encode]

@[simp] theorem decode_append (s t : List UInt8) : decode (s ++ t) = decode s ++ decode t := by
  simp [decode]

end InstrumentBus.Text.Latin
