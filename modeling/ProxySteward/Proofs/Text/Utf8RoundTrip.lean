import ProxySteward.Text.Utf8

/-!
# Texts written as bytes and read back

`decode?_encode` and `decodeLossy_encode`: the bytes of a text read as the text.  One character at a
time, `leading` finds in front of the remaining bytes the character that they were written for
(`leading_encodeChar`).  The proof goes by the number of bytes of the character, and within three
and four bytes by the first of them: the smallest first byte excludes overlong forms, and one first
byte each excludes the surrogates and what lies beyond the last character, so the second byte has
bounds of its own there.
-/

namespace ProxySteward
namespace Text

/-! ## Bytes by their numbers -/

theorem toNat_byte {n : Nat} (h : n < 256) : (UInt8.ofNat n).toNat = n :=
  UInt8.toNat_ofNat_of_lt h

theorem not_lt_of_toNat {b m : UInt8} (h : m.toNat ≤ b.toNat) : ¬ b < m :=
  fun hlt => absurd (UInt8.lt_iff_toNat_lt.1 hlt) (by omega)

theorem not_le_of_toNat {b m : UInt8} (h : m.toNat < b.toNat) : ¬ b ≤ m :=
  fun hle => absurd (UInt8.le_iff_toNat_le.1 hle) (by omega)

theorem beq_eq_false_of_toNat {b m : UInt8} (h : b.toNat ≠ m.toNat) : (b == m) = false := by
  rw [beq_eq_false_iff_ne]
  rintro rfl
  exact h rfl

/-- The byte that continues a character with six bits. -/
def tailByte (n : Nat) : UInt8 := UInt8.ofNat (n % 0x40 + 0x80)

theorem toNat_tailByte (n : Nat) : (tailByte n).toNat = n % 0x40 + 0x80 := toNat_byte (by omega)

theorem tailBits_tailByte (n : Nat) : tailBits (tailByte n) = n % 0x40 := by
  rw [tailBits, toNat_tailByte]
  omega

theorem le_tailByte {m : UInt8} {n : Nat} (h : m.toNat ≤ n % 0x40 + 0x80) : m ≤ tailByte n := by
  rwa [UInt8.le_iff_toNat_le, toNat_tailByte]

theorem tailByte_le {m : UInt8} {n : Nat} (h : n % 0x40 + 0x80 ≤ m.toNat) : tailByte n ≤ m := by
  rwa [UInt8.le_iff_toNat_le, toNat_tailByte]

theorem isTail_tailByte (n : Nat) : isTail (tailByte n) = true := by
  have h1 : 0x80 ≤ tailByte n := le_tailByte (Nat.le_add_left 0x80 _)
  have h2 : tailByte n ≤ 0xBF := tailByte_le (m := 0xBF) (by show n % 0x40 + 0x80 ≤ 0xBF; omega)
  rw [isTail, Bool.and_eq_true, decide_eq_true_iff, decide_eq_true_iff]
  exact ⟨h1, h2⟩

/-! ## What stands in front -/

theorem leading_one {b : UInt8} (h : b.toNat < 0x80) (rest : Bytes) :
    leading b rest = .scalar (Char.ofNat b.toNat) 0 := by
  have hlt : b < 0x80 := UInt8.lt_iff_toNat_lt.2 h
  unfold leading
  rw [if_pos hlt]

theorem leading_two {b c : UInt8} (hlow : 0xC2 ≤ b.toNat) (hhigh : b.toNat ≤ 0xDF)
    (hc : isTail c = true) (rest : Bytes) :
    leading b (c :: rest) = .scalar (Char.ofNat (b.toNat % 32 * 64 + tailBits c)) 1 := by
  have hascii : ¬ b < 0x80 := not_lt_of_toNat (Nat.le_trans (by decide) hlow)
  have hfrom : 0xC2 ≤ b := UInt8.le_iff_toNat_le.2 hlow
  have hto : b ≤ 0xDF := UInt8.le_iff_toNat_le.2 hhigh
  simp only [leading, hascii, hfrom, hto, hc, if_false, if_true, decide_true, Bool.and_self]

theorem leading_E0 (rest : Bytes) : leading 0xE0 rest = leading3 0 0xA0 0xBF rest := rfl

theorem leading_ED (rest : Bytes) : leading 0xED rest = leading3 13 0x80 0x9F rest := rfl

theorem leading_three {b : UInt8} (hlow : 0xE1 ≤ b.toNat) (hhigh : b.toNat ≤ 0xEF)
    (hne : b.toNat ≠ 0xED) (rest : Bytes) :
    leading b rest = leading3 (b.toNat % 16) 0x80 0xBF rest := by
  have hascii : ¬ b < 0x80 := not_lt_of_toNat (Nat.le_trans (by decide) hlow)
  have htwo : ¬ b ≤ 0xDF := not_le_of_toNat (Nat.lt_of_lt_of_le (by decide) hlow)
  have hE0 : (b == 0xE0) = false :=
    beq_eq_false_of_toNat (Nat.ne_of_gt (Nat.lt_of_lt_of_le (by decide) hlow))
  have hED : (b == 0xED) = false := beq_eq_false_of_toNat hne
  have hfrom : 0xE1 ≤ b := UInt8.le_iff_toNat_le.2 hlow
  have hto : b ≤ 0xEF := UInt8.le_iff_toNat_le.2 hhigh
  simp [leading, hascii, htwo, hE0, hED, hfrom, hto]

theorem leading_F0 (rest : Bytes) : leading 0xF0 rest = leading4 0 0x90 0xBF rest := rfl

theorem leading_F4 (rest : Bytes) : leading 0xF4 rest = leading4 4 0x80 0x8F rest := rfl

theorem leading_four {b : UInt8} (hlow : 0xF1 ≤ b.toNat) (hhigh : b.toNat ≤ 0xF3)
    (rest : Bytes) : leading b rest = leading4 (b.toNat % 8) 0x80 0xBF rest := by
  have hascii : ¬ b < 0x80 := not_lt_of_toNat (Nat.le_trans (by decide) hlow)
  have htwo : ¬ b ≤ 0xDF := not_le_of_toNat (Nat.lt_of_lt_of_le (by decide) hlow)
  have hthree : ¬ b ≤ 0xEF := not_le_of_toNat (Nat.lt_of_lt_of_le (by decide) hlow)
  have hne : ∀ m : UInt8, m.toNat < 0xF1 → (b == m) = false := fun m hm =>
    beq_eq_false_of_toNat (Nat.ne_of_gt (Nat.lt_of_lt_of_le hm hlow))
  have hfrom : 0xF1 ≤ b := UInt8.le_iff_toNat_le.2 hlow
  have hto : b ≤ 0xF3 := UInt8.le_iff_toNat_le.2 hhigh
  simp [leading, hascii, htwo, hthree, hne 0xE0 (by decide), hne 0xED (by decide),
    hne 0xF0 (by decide), hfrom, hto]

/-- Two more bytes, the first of them within the bounds. -/
theorem leading3_tailBytes {low high : UInt8} {first s t : Nat}
    (hlow : low.toNat ≤ s % 0x40 + 0x80) (hhigh : s % 0x40 + 0x80 ≤ high.toNat) (rest : Bytes) :
    leading3 first low high (tailByte s :: tailByte t :: rest) =
      .scalar (Char.ofNat ((first * 64 + s % 0x40) * 64 + t % 0x40)) 2 := by
  simp only [leading3, le_tailByte hlow, tailByte_le hhigh, isTail_tailByte, tailBits_tailByte,
    if_true, decide_true, Bool.and_self]

/-- Three more bytes, the first of them within the bounds. -/
theorem leading4_tailBytes {low high : UInt8} {first s t u : Nat}
    (hlow : low.toNat ≤ s % 0x40 + 0x80) (hhigh : s % 0x40 + 0x80 ≤ high.toNat) (rest : Bytes) :
    leading4 first low high (tailByte s :: tailByte t :: tailByte u :: rest) =
      .scalar (Char.ofNat (((first * 64 + s % 0x40) * 64 + t % 0x40) * 64 + u % 0x40)) 3 := by
  simp only [leading4, le_tailByte hlow, tailByte_le hhigh, isTail_tailByte, tailBits_tailByte,
    if_true, decide_true, Bool.and_self]

/-! ## The bytes of a character -/

/-- Characters are no surrogates and end at `U+10FFFF`. -/
theorem toNat_bounds (c : Char) : c.toNat < 0xD800 ∨ 0xDFFF < c.toNat ∧ c.toNat < 0x110000 :=
  c.valid

theorem leading_encode_two {v : Nat} (hlow : 0x7F < v) (hhigh : v ≤ 0x7FF) (rest : Bytes) :
    leading (UInt8.ofNat (v / 64 % 0x20 + 0xC0)) (tailByte v :: rest) =
      .scalar (Char.ofNat v) 1 := by
  have hb : (UInt8.ofNat (v / 64 % 0x20 + 0xC0)).toNat = v / 64 % 0x20 + 0xC0 :=
    toNat_byte (by omega)
  have hv : (v / 64 % 0x20 + 0xC0) % 32 * 64 + v % 0x40 = v := by omega
  rw [leading_two (by omega) (by omega) (isTail_tailByte v), hb, tailBits_tailByte, hv]

theorem leading_encode_three {v : Nat} (hlow : 0x7FF < v) (hhigh : v ≤ 0xFFFF)
    (hscalar : v < 0xD800 ∨ 0xDFFF < v) (rest : Bytes) :
    leading (UInt8.ofNat (v / 4096 % 0x10 + 0xE0)) (tailByte (v / 64) :: tailByte v :: rest) =
      .scalar (Char.ofNat v) 2 := by
  have hb : (UInt8.ofNat (v / 4096 % 0x10 + 0xE0)).toNat = v / 4096 % 0x10 + 0xE0 :=
    toNat_byte (by omega)
  by_cases h0 : v / 4096 % 0x10 = 0
  · have hE0 : UInt8.ofNat (v / 4096 % 0x10 + 0xE0) = 0xE0 := by rw [h0]; rfl
    have hv : (0 * 64 + v / 64 % 0x40) * 64 + v % 0x40 = v := by omega
    have hfrom : (0xA0 : UInt8).toNat ≤ v / 64 % 0x40 + 0x80 := by
      show 0xA0 ≤ _
      omega
    have hto : v / 64 % 0x40 + 0x80 ≤ (0xBF : UInt8).toNat := by
      show _ ≤ 0xBF
      omega
    rw [hE0, leading_E0, leading3_tailBytes hfrom hto, hv]
  by_cases h13 : v / 4096 % 0x10 = 13
  · have hED : UInt8.ofNat (v / 4096 % 0x10 + 0xE0) = 0xED := by rw [h13]; rfl
    have hv : (13 * 64 + v / 64 % 0x40) * 64 + v % 0x40 = v := by omega
    have hto : v / 64 % 0x40 + 0x80 ≤ (0x9F : UInt8).toNat := by
      show _ ≤ 0x9F
      omega
    rw [hED, leading_ED, leading3_tailBytes (Nat.le_add_left _ _) hto, hv]
  · have hv : ((v / 4096 % 0x10 + 0xE0) % 16 * 64 + v / 64 % 0x40) * 64 + v % 0x40 = v := by omega
    have hto : v / 64 % 0x40 + 0x80 ≤ (0xBF : UInt8).toNat := by
      show _ ≤ 0xBF
      omega
    rw [leading_three (by omega) (by omega) (by omega),
      leading3_tailBytes (Nat.le_add_left _ _) hto, hb, hv]

theorem leading_encode_four {v : Nat} (hlow : 0xFFFF < v) (hhigh : v < 0x110000) (rest : Bytes) :
    leading (UInt8.ofNat (v / 262144 % 0x08 + 0xF0))
      (tailByte (v / 4096) :: tailByte (v / 64) :: tailByte v :: rest) =
        .scalar (Char.ofNat v) 3 := by
  have hb : (UInt8.ofNat (v / 262144 % 0x08 + 0xF0)).toNat = v / 262144 % 0x08 + 0xF0 :=
    toNat_byte (by omega)
  by_cases h0 : v / 262144 % 0x08 = 0
  · have hF0 : UInt8.ofNat (v / 262144 % 0x08 + 0xF0) = 0xF0 := by rw [h0]; rfl
    have hv : ((0 * 64 + v / 4096 % 0x40) * 64 + v / 64 % 0x40) * 64 + v % 0x40 = v := by omega
    have hfrom : (0x90 : UInt8).toNat ≤ v / 4096 % 0x40 + 0x80 := by
      show 0x90 ≤ _
      omega
    have hto : v / 4096 % 0x40 + 0x80 ≤ (0xBF : UInt8).toNat := by
      show _ ≤ 0xBF
      omega
    rw [hF0, leading_F0, leading4_tailBytes hfrom hto, hv]
  by_cases h4 : v / 262144 % 0x08 = 4
  · have hF4 : UInt8.ofNat (v / 262144 % 0x08 + 0xF0) = 0xF4 := by rw [h4]; rfl
    have hv : ((4 * 64 + v / 4096 % 0x40) * 64 + v / 64 % 0x40) * 64 + v % 0x40 = v := by omega
    have hto : v / 4096 % 0x40 + 0x80 ≤ (0x8F : UInt8).toNat := by
      show _ ≤ 0x8F
      omega
    rw [hF4, leading_F4, leading4_tailBytes (Nat.le_add_left _ _) hto, hv]
  · have hv : (((v / 262144 % 0x08 + 0xF0) % 8 * 64 + v / 4096 % 0x40) * 64 + v / 64 % 0x40) * 64 +
        v % 0x40 = v := by omega
    have hto : v / 4096 % 0x40 + 0x80 ≤ (0xBF : UInt8).toNat := by
      show _ ≤ 0xBF
      omega
    rw [leading_four (by omega) (by omega), leading4_tailBytes (Nat.le_add_left _ _) hto, hb, hv]

/-- **A character in front.**  In front of the bytes of a character and anything else, the character
is found with the number of its bytes. -/
theorem leading_encodeChar (c : Char) (rest : Bytes) :
    ∃ b more, String.utf8EncodeChar c = b :: more ∧
      leading b (more ++ rest) = .scalar c more.length := by
  have hval : c.val.toNat = c.toNat := rfl
  have hbounds := toNat_bounds c
  have hc := Char.ofNat_toNat c
  unfold String.utf8EncodeChar
  rw [hval]
  dsimp only
  split
  · next h =>
    have hb : (UInt8.ofNat c.toNat).toNat = c.toNat := toNat_byte (by omega)
    refine ⟨_, _, rfl, ?_⟩
    rw [leading_one (by omega), hb, hc]
    rfl
  split
  · refine ⟨_, _, rfl, ?_⟩
    have h := leading_encode_two (v := c.toNat) (by omega) (by omega) rest
    rwa [hc] at h
  split
  · refine ⟨_, _, rfl, ?_⟩
    have h := leading_encode_three (v := c.toNat) (by omega) (by omega) (by omega) rest
    rwa [hc] at h
  · refine ⟨_, _, rfl, ?_⟩
    have h := leading_encode_four (v := c.toNat) (by omega) (by omega) rest
    rwa [hc] at h

theorem decode?_encodeChar_append (c : Char) (rest : Bytes) :
    decode? (String.utf8EncodeChar c ++ rest) = (decode? rest).map (c :: ·) := by
  obtain ⟨b, more, hbytes, hleading⟩ := leading_encodeChar c rest
  rw [hbytes, List.cons_append, decode?, hleading]
  dsimp only
  rw [List.drop_left]

/-- **The bytes of a text read as the text.** -/
theorem decode?_encode (t : Text) : decode? (encode t) = some t := by
  induction t with
  | nil =>
    rw [encode, List.flatMap_nil, decode?]
  | cons c t ih =>
    rw [encode, List.flatMap_cons, decode?_encodeChar_append, ← encode, ih]
    rfl

/-- The forgiving reader finds no ill-formed part in the bytes of a text. -/
theorem decodeLossy_encode (t : Text) : decodeLossy (encode t) = t := by
  induction t with
  | nil =>
    rw [encode, List.flatMap_nil, decodeLossy]
  | cons c t ih =>
    obtain ⟨b, more, hbytes, hleading⟩ := leading_encodeChar c (encode t)
    rw [encode, List.flatMap_cons, ← encode, hbytes, List.cons_append, decodeLossy, hleading]
    dsimp only
    rw [List.drop_left, ih]

end Text
end ProxySteward
