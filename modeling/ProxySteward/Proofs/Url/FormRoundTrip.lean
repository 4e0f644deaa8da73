import ProxySteward.Proofs.Text.Fragments
import ProxySteward.Proofs.Text.Utf8Canonical
import ProxySteward.Url.Percent

/-!
# Queries read back

A name or a value is written into a query byte by byte, and the reader takes the query apart before
it reads the bytes again.  Both directions have to fit for that.

* Each byte is read back as itself (`percentDecode_formByte_append`).  The reader puts a space for
  every plus sign first, so a plus sign that was in the text must not stand for itself; it does not,
  and neither does a percent sign.
* The characters at which the reader cuts are not among those that are written
  (`isFormChar_of_mem_formEncode`), so a value never ends early and never looks like a second name.

`formPairs_formEncode` is both together: one name and one value, for any two texts.
-/

namespace ProxySteward
namespace Url

open Text

variable {b : UInt8} {c : Char} {t : Text}

/-! ## Bytes -/

theorem hexDigit?_toUpper : ∀ n < 16, hexDigit? (Nat.digitChar n).toUpper = some n := by decide

theorem percentByte_eq (b : UInt8) :
    percentByte b =
      ['%', (Nat.digitChar (b.toNat / 16)).toUpper, (Nat.digitChar (b.toNat % 16)).toUpper] := rfl

/-- A byte that is written with a percent sign is read. -/
theorem percentDecode_percentByte_append (b : UInt8) (t : Text) :
    percentDecode (percentByte b ++ t) = b :: percentDecode t := by
  have hbyte := b.toNat_lt
  have hhigh := hexDigit?_toUpper (b.toNat / 16) (by omega)
  have hlow := hexDigit?_toUpper (b.toNat % 16) (by omega)
  have hsum : 16 * (b.toNat / 16) + b.toNat % 16 = b.toNat := Nat.div_add_mod _ _
  rw [percentByte_eq, List.cons_append, List.cons_append, List.cons_append, List.nil_append,
    percentDecode, hhigh, hlow]
  dsimp only
  rw [hsum, UInt8.ofNat_toNat]

/-- Every character but the percent sign stands for itself. -/
theorem percentDecode_cons (h : c ≠ '%') (t : Text) :
    percentDecode (c :: t) = encode [c] ++ percentDecode t := by
  rw [percentDecode]
  rintro a b rest rfl
  exact absurd rfl h

theorem lt_of_isFormByte (h : isFormByte b = true) : b.toNat < 0x80 := by
  rw [isFormByte, Bool.or_eq_true, Bool.and_eq_true, decide_eq_true_iff, decide_eq_true_iff] at h
  rcases h with h | h
  · exact UInt8.lt_iff_toNat_lt.1 h.2
  · simp only [List.mem_cons, List.not_mem_nil, or_false] at h
    rcases h with rfl | rfl | rfl | rfl <;> decide

/-- The characters that stand for themselves are not those of other bytes. -/
theorem ofNat_ne_of_isFormByte (h : isFormByte b = true)
    (hc : isFormByte (UInt8.ofNat c.toNat) = false) : Char.ofNat b.toNat ≠ c := by
  rintro rfl
  have hval : (Char.ofNat b.toNat).toNat = b.toNat :=
    toNat_ofNat_char (Or.inl (by have := lt_of_isFormByte h; omega))
  rw [hval, UInt8.ofNat_toNat, h] at hc
  exact absurd hc (by decide)

/-- **One byte of a form**, read back in front of anything. -/
theorem percentDecode_formByte_append (b : UInt8) (t : Text) :
    percentDecode ((formByte b ++ t).map fun c => if c = '+' then ' ' else c) =
      b :: percentDecode (t.map fun c => if c = '+' then ' ' else c) := by
  rw [List.map_append, formByte]
  split
  · next h =>
    have hplus : Char.ofNat b.toNat ≠ '+' := ofNat_ne_of_isFormByte h (by decide)
    have hpercent : Char.ofNat b.toNat ≠ '%' := ofNat_ne_of_isFormByte h (by decide)
    have hbytes : encode [Char.ofNat b.toNat] = [b] := by
      rw [encode, List.flatMap_singleton, encodeChar_one (lt_of_isFormByte h), UInt8.ofNat_toNat]
    rw [List.map_singleton, if_neg hplus, List.singleton_append, percentDecode_cons hpercent,
      hbytes]
    rfl
  split
  · next hspace =>
    rw [hspace, List.map_singleton, if_pos rfl, List.singleton_append,
      percentDecode_cons (by decide)]
    rfl
  · have hdigit : ∀ n < 16, (Nat.digitChar n).toUpper ≠ '+' := by decide
    have hbyte := b.toNat_lt
    have hkept : (percentByte b).map (fun c => if c = '+' then ' ' else c) = percentByte b := by
      rw [percentByte_eq, List.map_cons, List.map_cons, List.map_singleton, if_neg (by decide),
        if_neg (hdigit _ (by omega)), if_neg (hdigit _ (by omega))]
    rw [hkept, percentDecode_percentByte_append]

/-! ## Texts -/

/-- **A text in form encoding is read as the text.** -/
theorem formDecode_formEncode (t : Text) : formDecode (formEncode t) = t := by
  have hbytes : ∀ bytes : Bytes,
      percentDecode ((bytes.flatMap formByte).map fun c => if c = '+' then ' ' else c) = bytes := by
    intro bytes
    induction bytes with
    | nil => rw [List.flatMap_nil, List.map_nil, percentDecode]
    | cons b bytes ih => rw [List.flatMap_cons, percentDecode_formByte_append, ih]
  rw [formDecode, formEncode, hbytes, decodeLossy_encode]

/-- The characters of form encoding. -/
def isFormChar (c : Char) : Bool := c.isAlphanum || c ∈ ['*', '-', '.', '_', '+', '%']

theorem isFormChar_of_mem_formByte (h : c ∈ formByte b) : isFormChar c = true := by
  rw [formByte] at h
  split at h
  · next hb =>
    rw [List.mem_singleton.1 h]
    rw [isFormByte, Bool.or_eq_true, Bool.and_eq_true, decide_eq_true_iff, decide_eq_true_iff] at hb
    rcases hb with hb | hb
    · rw [isFormChar, hb.1, Bool.true_or]
    · simp only [List.mem_cons, List.not_mem_nil, or_false] at hb
      rcases hb with rfl | rfl | rfl | rfl <;> decide
  split at h
  · rw [List.mem_singleton.1 h]
    decide
  · have hdigit : ∀ n < 16, isFormChar (Nat.digitChar n).toUpper = true := by decide
    have hbyte := b.toNat_lt
    simp only [percentByte_eq, List.mem_cons, List.not_mem_nil, or_false] at h
    rcases h with rfl | rfl | rfl
    · decide
    · exact hdigit _ (by omega)
    · exact hdigit _ (by omega)

theorem isFormChar_of_mem_formEncode (h : c ∈ formEncode t) : isFormChar c = true := by
  obtain ⟨b, -, hb⟩ := List.mem_flatMap.1 h
  exact isFormChar_of_mem_formByte hb

/-- Characters with a meaning in a query are not written. -/
theorem not_mem_formEncode (hc : isFormChar c = false) (t : Text) : c ∉ formEncode t := by
  intro h
  rw [isFormChar_of_mem_formEncode h] at hc
  exact absurd hc (by decide)

/-- **A name and a value** in form encoding are read as that name and that value, whatever they
are. -/
theorem formPairs_formEncode (name value : Text) :
    formPairs (formEncode name ++ '=' :: formEncode value) = [(name, value)] := by
  have hcut : cutAt? '=' (formEncode name ++ '=' :: formEncode value) =
      some (formEncode name, formEncode value) :=
    cutAt?_append_cons (not_mem_formEncode (by decide) name) _
  have hone : (formEncode name ++ '=' :: formEncode value).splitOn '&' =
      [formEncode name ++ '=' :: formEncode value] := by
    rw [List.splitOn_eq_splitOnP]
    refine List.splitOnP_eq_singleton fun c hc => ?_
    rw [List.mem_append, List.mem_cons] at hc
    rw [beq_eq_false_iff_ne]
    rintro rfl
    rcases hc with hc | hc | hc
    · exact not_mem_formEncode (by decide) name hc
    · exact absurd hc (by decide)
    · exact not_mem_formEncode (by decide) value hc
  rw [formPairs, hone, List.filter_cons_of_pos (by simp), List.filter_nil, List.map_singleton,
    formPair, hcut]
  dsimp only
  rw [formDecode_formEncode, formDecode_formEncode]

end Url
end ProxySteward
