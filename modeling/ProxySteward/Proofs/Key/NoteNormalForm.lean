import Mathlib.Logic.Function.Iterate
import ProxySteward.Proofs.Key.EditLaws

/-!
# The normal form of notes

A note is settled by a loop: take the markers out, trim, put single spaces between the words, and
begin again if that changed anything.  Each of the three can make work for the others, since what is
left of two halves of a marker may be a marker, and a number sign may come to stand at an end.  What
decreases is the length: a round that changes the note makes it shorter (`length_tidy_lt`), so the
loop ends after at most as many rounds as the note has characters (`exists_rounds_settleNote`).

`normalNote_reads_back` says what the loop ends in: a text that nothing of this changes any more,
and that a row carries as it is, with either state of the record and with any line end.
-/

namespace ProxySteward
namespace KeyRecord

open Text

variable {note : Text}

/-! ## The loop -/

/-- One round of settling a note. -/
def tidy (note : Text) : Text := collapse (plainNote note)

/-- **A round that changes a collapsed note makes it shorter.** -/
theorem length_tidy_lt (h : collapse note = note) (hne : tidy note ≠ note) :
    (tidy note).length < note.length := by
  by_contra hge
  have hlen : note.length ≤ (plainNote note).length :=
    (Nat.le_of_not_lt hge).trans (length_collapse_le _)
  refine hne ?_
  rw [tidy, (isPlainNote_of_length hlen).plainNote_eq, h]

/-- A plain note with single spaces is not changed by a round. -/
theorem tidy_eq_self (hplain : IsPlainNote note) (h : collapse note = note) : tidy note = note := by
  rw [tidy, hplain.plainNote_eq, h]

theorem settleNote_eq_self (hplain : IsPlainNote note) (h : collapse note = note) :
    settleNote note = note := by
  have htidy : collapse (plainNote note) = note := tidy_eq_self hplain h
  rw [settleNote, htidy, if_neg (Nat.lt_irrefl _)]

/-- **The loop ends.**  It settles a note in as many rounds as change something, and there are no
more of them than the note has characters. -/
theorem exists_rounds_settleNote (h : collapse note = note) :
    ∃ n ≤ note.length, settleNote note = tidy^[n] note ∧
      tidy (tidy^[n] note) = tidy^[n] note ∧
      ∀ m < n, tidy (tidy^[m] note) ≠ tidy^[m] note := by
  fun_induction settleNote note with
  | case1 note next hlt ih =>
    obtain ⟨n, hn, hsettled, hfix, hchanges⟩ := ih (collapse_collapse _)
    have hnext : tidy note = next := rfl
    refine ⟨n + 1, Nat.succ_le_of_lt (Nat.lt_of_le_of_lt hn hlt), ?_, ?_, ?_⟩
    · rw [Function.iterate_succ_apply, hnext, hsettled]
    · rw [Function.iterate_succ_apply, hnext, hfix]
    · intro m hm
      cases m with
      | zero =>
        intro heq
        rw [Function.iterate_zero_apply, hnext] at heq
        rw [heq] at hlt
        exact absurd hlt (Nat.lt_irrefl _)
      | succ m =>
        rw [Function.iterate_succ_apply, hnext]
        exact hchanges m (Nat.lt_of_succ_lt_succ hm)
  | case2 note next hge =>
    have hnext : tidy note = note := by
      by_contra hne
      exact hge (length_tidy_lt h hne)
    exact ⟨0, Nat.zero_le _, hnext, hnext, fun m hm => absurd hm (Nat.not_lt_zero m)⟩

/-! ## The result -/

theorem normalNote_normalNote (note : Text) : normalNote (normalNote note) = normalNote note := by
  conv_lhs => rw [normalNote, collapse_normalNote]
  exact settleNote_eq_self (isPlainNote_normalNote note) (collapse_normalNote note)

/-- A record with a key that may be added and a note in its normal form is carried by a row as it
is. -/
theorem isWritable_normalNote {key : Text} (hkey : IsKey key) (note : Text) (enabled : Bool) :
    KeyRow.IsWritable ⟨key, normalNote note, enabled⟩ :=
  ⟨hkey.1, KeyEdit.not_mem_key_of_not hkey (by decide), KeyEdit.tight_key hkey,
    isPlainNote_normalNote note⟩

/-- **The normal form of a note is reached, and a row carries it as it is.**  Take any text as a
note.

* The loop that settles it ends: after some number of rounds, at most as many as the collapsed text
  has characters, a round changes nothing, and every round before it changed something.
* The space is the only blank in what it ends in, and no two of them stand together; neither a blank
  nor a number sign stands at either end; and no part of it is the marker in any letter case.
* It is its own normal form.
* The row of a record with this note and any key that may be added reads as that record, enabled or
  not, and also with a carriage return behind it. -/
theorem normalNote_reads_back (note : Text) :
    (∃ n ≤ (collapse note).length, normalNote note = tidy^[n] (collapse note) ∧
      tidy (normalNote note) = normalNote note ∧
      ∀ m < n, tidy (tidy^[m] (collapse note)) ≠ tidy^[m] (collapse note)) ∧
    (∀ c ∈ normalNote note, isBlank c = true → c = ' ') ∧
    ¬ [' ', ' '] <:+: normalNote note ∧
    (∀ c ∈ (normalNote note).head?, isBlank c = false ∧ c ≠ '#') ∧
    (∀ c ∈ (normalNote note).getLast?, isBlank c = false ∧ c ≠ '#') ∧
    (∀ t, t <:+: normalNote note → lower t ≠ marker) ∧
    normalNote (normalNote note) = normalNote note ∧
    ∀ key, IsKey key → ∀ enabled,
      KeyRow.read? (KeyRow.write ⟨key, normalNote note, enabled⟩) =
        some ⟨key, normalNote note, enabled⟩ ∧
      KeyRow.read? (KeyRow.write ⟨key, normalNote note, enabled⟩ ++ ['\r']) =
        some ⟨key, normalNote note, enabled⟩ := by
  obtain ⟨hmarker, hhead, hlast⟩ := isPlainNote_normalNote note
  have hedge : ∀ c, isNoteEdge c = false → isBlank c = false ∧ c ≠ '#' := by
    intro c hc
    rw [isNoteEdge, Bool.or_eq_false_iff, beq_eq_false_iff_ne] at hc
    exact hc
  refine ⟨?_, fun c hc hblank => ?_, not_infix_of_collapse_eq (collapse_normalNote note),
    fun c hc => hedge c (hhead c hc), fun c hc => hedge c (hlast c hc), fun t ht hlower => ?_,
    normalNote_normalNote note, fun key hkey enabled => ?_⟩
  · obtain ⟨n, hn, hsettled, hfix, hchanges⟩ :=
      exists_rounds_settleNote (collapse_collapse note)
    exact ⟨n, hn, hsettled, by rw [normalNote, hsettled, hfix], hchanges⟩
  · by_contra hne
    exact not_mem_normalNote hblank hne note hc
  · have hin : lower t <:+: lower (normalNote note) := ht.map Char.toLower
    rw [hlower, ← isMarked_iff, hmarker] at hin
    exact absurd hin Bool.false_ne_true
  · have hread := KeyRow.read?_write_eq_some_iff.2 (isWritable_normalNote hkey note enabled)
    exact ⟨hread, (KeyRow.read?_write_append _ (List.all_eq_true.1 rfl)).trans hread⟩

/-- Two halves of a marker around another one, and a number sign that only its end hides. -/
theorem normalNote_reads_back_nested :
    IsKey "k".toList ∧ normalNote "a  disDISABLEDabled# disabled".toList = "a".toList ∧
      KeyRow.read? (KeyRow.write ⟨"k".toList, "a".toList, false⟩ ++ ['\r']) =
        some ⟨"k".toList, "a".toList, false⟩ := by
  have hkey : IsKey "k".toList := ⟨by decide, by decide⟩
  have hnote : normalNote "a  disDISABLEDabled# disabled".toList = "a".toList := by
    have hcollapsed : collapse "a  disDISABLEDabled# disabled".toList =
        "a disDISABLEDabled# disabled".toList := by
      decide +kernel
    have hfirst : collapse (plainNote "a disDISABLEDabled# disabled".toList) =
        "a disabled".toList := by
      decide +kernel
    have hsecond : collapse (plainNote "a disabled".toList) = "a".toList := by decide +kernel
    rw [normalNote, hcollapsed, settleNote, hfirst, if_pos (by decide), settleNote, hsecond,
      if_pos (by decide)]
    exact settleNote_eq_self ⟨by decide, tight_of_all rfl⟩ (by decide)
  obtain ⟨-, -, -, -, -, -, -, hread⟩ :=
    normalNote_reads_back "a  disDISABLEDabled# disabled".toList
  have hback := (hread "k".toList hkey false).2
  rw [hnote] at hback
  exact ⟨hkey, hnote, hback⟩

end KeyRecord
end ProxySteward
