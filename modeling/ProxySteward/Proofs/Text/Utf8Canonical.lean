import ProxySteward.Proofs.Text.Utf8RoundTrip

/-!
# One text, one sequence of bytes

Well-formed bytes are the bytes of the text they stand for (`encode_of_decode?`).  So two files with
the same text are the same byte for byte, and a text that is written back restores its file.

What `leading` accepts in front of a sequence of bytes is what is written for the character it finds
(`encodeChar_of_leading`).  The bounds on the second byte are what makes this true: without them an
overlong form would be read as a character that is written in fewer bytes.
-/

namespace ProxySteward
namespace Text

/-! ## How characters are written -/

theorem toNat_ofNat_char {v : Nat} (h : v < 0xD800 ∨ 0xDFFF < v ∧ v < 0x110000) :
    (Char.ofNat v).val.toNat = v := by
  have hvalid : v.isValidChar := h
  rw [Char.ofNat, dif_pos hvalid]
  rfl

theorem encodeChar_one {v : Nat} (h : v < 0x80) :
    String.utf8EncodeChar (Char.ofNat v) = [UInt8.ofNat v] := by
  unfold String.utf8EncodeChar
  rw [toNat_ofNat_char (Or.inl (by omega))]
  dsimp only
  rw [if_pos (by omega)]

theorem encodeChar_two {v : Nat} (hlow : 0x80 ≤ v) (hhigh : v < 0x800) :
    String.utf8EncodeChar (Char.ofNat v) = [UInt8.ofNat (v / 64 + 0xC0), tailByte v] := by
  unfold String.utf8EncodeChar
  rw [toNat_ofNat_char (Or.inl (by omega))]
  dsimp only
  rw [if_neg (by omega), if_pos (by omega), Nat.mod_eq_of_lt (a := v / 64) (by omega)]
  rfl

theorem encodeChar_three {v : Nat} (hlow : 0x800 ≤ v) (hhigh : v < 0x10000)
    (hv : v < 0xD800 ∨ 0xDFFF < v) :
    String.utf8EncodeChar (Char.ofNat v) =
      [UInt8.ofNat (v / 4096 + 0xE0), tailByte (v / 64), tailByte v] := by
  unfold String.utf8EncodeChar
  rw [toNat_ofNat_char (by omega)]
  dsimp only
  rw [if_neg (by omega), if_neg (by omega), if_pos (by omega),
    Nat.mod_eq_of_lt (a := v / 4096) (by omega)]
  rfl

theorem encodeChar_four {v : Nat} (hlow : 0x10000 ≤ v) (hhigh : v < 0x110000) :
    String.utf8EncodeChar (Char.ofNat v) =
      [UInt8.ofNat (v / 262144 + 0xF0), tailByte (v / 4096), tailByte (v / 64), tailByte v] := by
  unfold String.utf8EncodeChar
  rw [toNat_ofNat_char (Or.inr ⟨by omega, hhigh⟩)]
  dsimp only
  rw [if_neg (by omega), if_neg (by omega), if_neg (by omega),
    Nat.mod_eq_of_lt (a := v / 262144) (by omega)]
  rfl

/-! ## Bytes that are read -/

theorem byte_eq {b : UInt8} {n : Nat} (h : n = b.toNat) : UInt8.ofNat n = b := by
  rw [h, UInt8.ofNat_toNat]

theorem between_iff {low high b : UInt8} :
    (decide (low ≤ b) && decide (b ≤ high)) = true ↔
      low.toNat ≤ b.toNat ∧ b.toNat ≤ high.toNat := by
  rw [Bool.and_eq_true, decide_eq_true_iff, decide_eq_true_iff, UInt8.le_iff_toNat_le,
    UInt8.le_iff_toNat_le]

theorem isTail_iff {b : UInt8} : isTail b = true ↔ 0x80 ≤ b.toNat ∧ b.toNat ≤ 0xBF :=
  between_iff

/-- A continuing byte is the one that is written for its bits. -/
theorem tailByte_eq {b : UInt8} {n : Nat} (hlow : 0x80 ≤ b.toNat) (hhigh : b.toNat ≤ 0xBF)
    (hn : n % 0x40 = tailBits b) : tailByte n = b := by
  rw [tailByte, hn, tailBits]
  exact byte_eq (by omega)

theorem leading3_eq_scalar {first more : Nat} {low high : UInt8} {rest : Bytes} {c : Char}
    (h : leading3 first low high rest = .scalar c more) :
    ∃ x y tail, rest = x :: y :: tail ∧ low.toNat ≤ x.toNat ∧ x.toNat ≤ high.toNat ∧
      0x80 ≤ y.toNat ∧ y.toNat ≤ 0xBF ∧
      c = Char.ofNat ((first * 64 + tailBits x) * 64 + tailBits y) ∧ more = 2 := by
  unfold leading3 at h
  split at h
  · next x rest =>
    split at h
    · next hx =>
      obtain ⟨hlow, hhigh⟩ := between_iff.1 hx
      split at h
      · next y tail =>
        split at h
        · next hy =>
          obtain ⟨hfrom, hto⟩ := isTail_iff.1 hy
          injection h with hc hmore
          exact ⟨x, y, tail, rfl, hlow, hhigh, hfrom, hto, hc.symm, hmore.symm⟩
        · exact absurd h (by simp)
      · exact absurd h (by simp)
    · exact absurd h (by simp)
  · exact absurd h (by simp)

theorem leading4_eq_scalar {first more : Nat} {low high : UInt8} {rest : Bytes} {c : Char}
    (h : leading4 first low high rest = .scalar c more) :
    ∃ x y z tail, rest = x :: y :: z :: tail ∧ low.toNat ≤ x.toNat ∧
      x.toNat ≤ high.toNat ∧
      0x80 ≤ y.toNat ∧ y.toNat ≤ 0xBF ∧ 0x80 ≤ z.toNat ∧ z.toNat ≤ 0xBF ∧
      c = Char.ofNat (((first * 64 + tailBits x) * 64 + tailBits y) * 64 + tailBits z) ∧
      more = 3 := by
  unfold leading4 at h
  split at h
  · next x rest =>
    split at h
    · next hx =>
      obtain ⟨hlow, hhigh⟩ := between_iff.1 hx
      split at h
      · next y rest =>
        split at h
        · next hy =>
          obtain ⟨hy₁, hy₂⟩ := isTail_iff.1 hy
          split at h
          · next z tail =>
            split at h
            · next hz =>
              obtain ⟨hz₁, hz₂⟩ := isTail_iff.1 hz
              injection h with hc hmore
              exact ⟨x, y, z, tail, rfl, hlow, hhigh, hy₁, hy₂, hz₁, hz₂, hc.symm,
                hmore.symm⟩
            · exact absurd h (by simp)
          · exact absurd h (by simp)
        · exact absurd h (by simp)
      · exact absurd h (by simp)
    · exact absurd h (by simp)
  · exact absurd h (by simp)

variable {b : UInt8} {rest : Bytes} {c : Char} {more first : Nat} {low high : UInt8}

/-- Three bytes, if the bounds on the second one exclude overlong forms and surrogates. -/
theorem encodeChar_of_leading3 (h : leading3 first low high rest = .scalar c more)
    (hb : b.toNat = first + 0xE0) (hfirst : first < 16)
    (htail : 0x80 ≤ low.toNat ∧ high.toNat ≤ 0xBF) (hshort : first = 0 → 0xA0 ≤ low.toNat)
    (hsurrogate : first = 13 → high.toNat ≤ 0x9F) :
    String.utf8EncodeChar c = b :: rest.take more := by
  obtain ⟨x, y, tail, rfl, hx₁, hx₂, hy₁, hy₂, rfl, rfl⟩ := leading3_eq_scalar h
  have hx : tailBits x = x.toNat - 0x80 := by rw [tailBits]; omega
  have hy : tailBits y = y.toNat - 0x80 := by rw [tailBits]; omega
  rw [encodeChar_three (by omega) (by omega) (by omega), List.take_succ_cons, List.take_succ_cons,
    List.take_zero, tailByte_eq (b := x) (by omega) (by omega) (by omega),
    tailByte_eq (b := y) hy₁ hy₂ (by omega), byte_eq (b := b) (by omega)]

/-- Four bytes, if the bounds on the second one exclude overlong forms and what lies beyond the last
character. -/
theorem encodeChar_of_leading4 (h : leading4 first low high rest = .scalar c more)
    (hb : b.toNat = first + 0xF0) (hfirst : first ≤ 4)
    (htail : 0x80 ≤ low.toNat ∧ high.toNat ≤ 0xBF) (hshort : first = 0 → 0x90 ≤ low.toNat)
    (hlast : first = 4 → high.toNat ≤ 0x8F) :
    String.utf8EncodeChar c = b :: rest.take more := by
  obtain ⟨x, y, z, tail, rfl, hx₁, hx₂, hy₁, hy₂, hz₁, hz₂, rfl, rfl⟩ :=
    leading4_eq_scalar h
  have hx : tailBits x = x.toNat - 0x80 := by rw [tailBits]; omega
  have hy : tailBits y = y.toNat - 0x80 := by rw [tailBits]; omega
  have hz : tailBits z = z.toNat - 0x80 := by rw [tailBits]; omega
  rw [encodeChar_four (by omega) (by omega), List.take_succ_cons, List.take_succ_cons,
    List.take_succ_cons, List.take_zero, tailByte_eq (b := x) (by omega) (by omega) (by omega),
    tailByte_eq (b := y) hy₁ hy₂ (by omega), tailByte_eq (b := z) hz₁ hz₂ (by omega),
    byte_eq (b := b) (by omega)]

/-- **What is read in front is what is written.**  The cases are those of the first byte. -/
theorem encodeChar_of_leading (h : leading b rest = .scalar c more) :
    String.utf8EncodeChar c = b :: rest.take more := by
  unfold leading at h
  split at h
  · next hb =>
    have hlt : b.toNat < 0x80 := UInt8.lt_iff_toNat_lt.1 hb
    injection h with hc hmore
    rw [← hc, ← hmore, encodeChar_one hlt, byte_eq rfl, List.take_zero]
  split at h
  · next hb =>
    obtain ⟨hlow, hhigh⟩ : 0xC2 ≤ b.toNat ∧ b.toNat ≤ 0xDF := between_iff.1 hb
    split at h
    · next x tail =>
      split at h
      · next hx =>
        obtain ⟨hx₁, hx₂⟩ := isTail_iff.1 hx
        have hbits : tailBits x = x.toNat - 0x80 := by rw [tailBits]; omega
        injection h with hc hmore
        rw [← hc, ← hmore, encodeChar_two (by omega) (by omega), List.take_succ_cons,
          List.take_zero, tailByte_eq (b := x) hx₁ hx₂ (by omega), byte_eq (b := b) (by omega)]
      · exact absurd h (by simp)
    · exact absurd h (by simp)
  split at h
  · next hb =>
    rw [beq_iff_eq] at hb
    refine encodeChar_of_leading3 h (by rw [hb]; rfl) (by omega) ?_ ?_ ?_ <;> decide
  split at h
  · next hb =>
    rw [beq_iff_eq] at hb
    refine encodeChar_of_leading3 h (by rw [hb]; rfl) (by omega) ?_ ?_ ?_ <;> decide
  split at h
  · next hne hb =>
    obtain ⟨hlow, hhigh⟩ : 0xE1 ≤ b.toNat ∧ b.toNat ≤ 0xEF := between_iff.1 hb
    have hED : b.toNat ≠ 0xED := fun heq => hne (beq_iff_eq.2 (UInt8.toNat_inj.1 heq))
    refine encodeChar_of_leading3 h (by omega) (by omega) (by decide) (fun _ => ?_) fun _ => ?_
    · omega
    · omega
  split at h
  · next hb =>
    rw [beq_iff_eq] at hb
    refine encodeChar_of_leading4 h (by rw [hb]; rfl) (by omega) ?_ ?_ ?_ <;> decide
  split at h
  · next hb =>
    obtain ⟨hlow, hhigh⟩ : 0xF1 ≤ b.toNat ∧ b.toNat ≤ 0xF3 := between_iff.1 hb
    refine encodeChar_of_leading4 h (by omega) (by omega) (by decide) (fun _ => ?_) fun _ => ?_
    · omega
    · omega
  split at h
  · next hb =>
    rw [beq_iff_eq] at hb
    refine encodeChar_of_leading4 h (by rw [hb]; rfl) (by omega) ?_ ?_ ?_ <;> decide
  · exact absurd h (by simp)

/-- **Bytes that read as a text are the bytes of that text.** -/
theorem encode_of_decode? {bytes : Bytes} {t : Text} (h : decode? bytes = some t) :
    encode t = bytes := by
  fun_induction decode? bytes generalizing t with
  | case1 =>
    rw [← Option.some.inj h]
    rfl
  | case2 b rest c more hleading ih =>
    obtain ⟨t', ht', rfl⟩ := Option.map_eq_some_iff.1 h
    rw [encode, List.flatMap_cons, ← encode, ih ht', encodeChar_of_leading hleading,
      List.cons_append, List.take_append_drop]
  | case3 => exact absurd h (by simp)

end Text
end ProxySteward
