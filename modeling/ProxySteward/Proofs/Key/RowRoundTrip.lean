import ProxySteward.Key.Row
import ProxySteward.Proofs.Key.NoteLaws

/-!
# Rows read back

A row is written in one form and read in many, so reading a written row need not give the record
again: a key that was read between single quotes may hold a double quote, and then the written row
ends its key too early.  `read?_write_eq_some_iff` says exactly which records come back, the
*writable* ones.

## The three parts of a row

A written row is an item, the key between its quotes, and what follows the closing quote.  The
comment in the last part says whatever `remark` says (`commentOf_tail`), with the blanks at its ends
cut off.  If the note has none of these, reading gives back the key without the blanks around it,
the note without its markers, and a state that is disabled if it was disabled or if the note holds a
marker (`read?_write`).

Every record that was read from a row has such a note (`tight_note_of_read?`), so for records that
were loaded the equation `read?_write` always applies.
-/

namespace ProxySteward
namespace KeyRow

open Text KeyRecord

/-! ## What the comment says -/

/-- What the comment on the row of a record says. -/
def remark (r : KeyRecord) : Text :=
  (if r.enabled then [] else marker ++ (if r.note.isEmpty then [] else [' ', '#', ' '])) ++ r.note

/-- What stands behind the key on the row of a record. -/
def tail (r : KeyRecord) : Text :=
  if r.enabled && r.note.isEmpty then [] else ' ' :: '#' :: ' ' :: remark r

theorem write_eq (r : KeyRecord) :
    write r = [' ', ' '] ++ ('-' :: (' ' :: '"' :: r.key) ++ '"' :: tail r) := by
  have hfront : "  - \"".toList = [' ', ' ', '-', ' ', '"'] := rfl
  have hquote : "\"".toList = ['"'] := rfl
  have hout : " # disabled".toList = ' ' :: '#' :: ' ' :: marker := rfl
  have hgap : " # ".toList = [' ', '#', ' '] := rfl
  obtain ⟨key, note, enabled⟩ := r
  unfold write tail remark
  simp only [hfront, hquote, hout, hgap]
  cases enabled <;> cases note <;> simp

theorem trim_trimEnd (t : Text) : trim (trimEnd t) = trim t := by
  have h := dropEndWhile_append_takeEndWhile isBlank t
  conv_rhs => rw [← h, trim_append_blanks (forall_mem_takeEndWhile isBlank t)]
  rfl

theorem commentOf_tail (r : KeyRecord) :
    commentOf (trimStart (trimEnd (tail r))) = trim (remark r) := by
  rw [tail]
  split
  · next h =>
    rw [Bool.and_eq_true, List.isEmpty_iff] at h
    rw [remark, h.1, h.2]
    rfl
  · have hend : trimEnd ([' '] ++ '#' :: ' ' :: remark r) =
        [' '] ++ '#' :: trimEnd (' ' :: remark r) :=
      dropEndWhile_append_cons (by decide)
    have hstart : trimStart (' ' :: '#' :: trimEnd (' ' :: remark r)) =
        '#' :: trimEnd (' ' :: remark r) := rfl
    have hcomment : trim (' ' :: remark r) = trim (remark r) :=
      trim_blanks_append (s := [' ']) (List.all_eq_true.1 rfl)
    rw [List.singleton_append, List.singleton_append] at hend
    rw [hend, hstart, commentOf, trim_trimEnd, hcomment]

theorem remark_enabled {r : KeyRecord} (h : r.enabled = true) : remark r = r.note := by
  rw [remark, h]
  rfl

theorem remark_disabled {r : KeyRecord} (h : r.enabled = false) :
    remark r = marker ++ (if r.note.isEmpty then [] else [' ', '#', ' ']) ++ r.note := by
  rw [remark, h]
  rfl

theorem cutMarkers_marker_append (t : Text) : cutMarkers 0 (marker ++ t) = cutMarkers 0 t := by
  have h : marker ++ t = 'd' :: (['i', 's', 'a', 'b', 'l', 'e', 'd'] ++ t) := rfl
  rw [h, cutMarkers_cons_of_marker rfl]
  rfl

theorem cutMarkers_gap_append (t : Text) :
    cutMarkers 0 ([' ', '#', ' '] ++ t) = [' ', '#', ' '] ++ cutMarkers 0 t := by
  have hfront : ∀ (c : Char) (u : Text),
      c ∈ [' ', '#'] → lower ((c :: u).take 8) ≠ marker := by
    intro c u hc h
    have hhead : (lower ((c :: u).take 8)).head? = some c.toLower := rfl
    rw [h] at hhead
    simp only [List.mem_cons, List.not_mem_nil, or_false] at hc
    rcases hc with rfl | rfl <;> exact absurd hhead (by decide)
  show cutMarkers 0 (' ' :: '#' :: ' ' :: t) = ' ' :: '#' :: ' ' :: cutMarkers 0 t
  rw [cutMarkers_cons_of_ne (hfront ' ' _ (by decide)),
    cutMarkers_cons_of_ne (hfront '#' _ (by decide)),
    cutMarkers_cons_of_ne (hfront ' ' _ (by decide))]

/-- The note in a remark is the note of the record, whatever the state says in front of it. -/
theorem plainNote_remark (r : KeyRecord) : plainNote (remark r) = plainNote r.note := by
  cases h : r.enabled with
  | true => rw [remark_enabled h]
  | false =>
    rw [remark_disabled h, plainNote_eq_trimBoth, plainNote_eq_trimBoth, List.append_assoc,
      cutMarkers_marker_append]
    split
    · rfl
    · rw [cutMarkers_gap_append, trimBoth_append_left (List.all_eq_true.1 rfl)]

theorem isMarked_remark (r : KeyRecord) :
    isMarked (remark r) = (!r.enabled || isMarked r.note) := by
  cases h : r.enabled with
  | true => rw [remark_enabled h]; rfl
  | false =>
    have hlower : lower (remark r) = marker ++
        lower ((if r.note.isEmpty then [] else [' ', '#', ' ']) ++ r.note) := by
      rw [remark_disabled h, List.append_assoc, lower, List.map_append]
      rfl
    rw [Bool.not_false, Bool.true_or, isMarked_iff, hlower]
    exact (List.prefix_append _ _).isInfix

theorem trim_remark {r : KeyRecord} (h : Tight isBlank r.note) : trim (remark r) = remark r := by
  rw [trim_eq_trimBoth, trimBoth_eq_self_iff]
  cases he : r.enabled with
  | true => rwa [remark_enabled he]
  | false =>
    rw [remark_disabled he]
    cases hn : r.note with
    | nil => exact tight_of_all rfl
    | cons c note =>
      rw [hn] at h
      refine ⟨fun d hd => ?_, fun d hd => h.2 d ?_⟩
      · rw [← Option.some.inj (hd : some 'd' = some d)]
        decide
      · rwa [List.getLast?_append_of_ne_nil _ (List.cons_ne_nil c note)] at hd

/-- No blank stands at the end of a written row. -/
theorem isBlank_getLast?_write {r : KeyRecord} (h : Tight isBlank r.note) :
    ∀ c ∈ (write r).getLast?, isBlank c = false := by
  have htail : write r = ([' ', ' ', '-', ' ', '"'] ++ r.key ++ ['"']) ++ tail r := by
    rw [write_eq]
    simp
  intro c hc
  rw [htail, tail] at hc
  split at hc
  · rw [List.append_nil, List.getLast?_concat] at hc
    rw [← Option.some.inj hc]
    decide
  · next hshown =>
    have hne : remark r ≠ [] := by
      intro hnil
      rw [remark, List.append_eq_nil_iff] at hnil
      refine hshown ?_
      cases he : r.enabled with
      | true => rw [hnil.2]; rfl
      | false =>
        rw [he] at hnil
        exact absurd (List.append_eq_nil_iff.1 hnil.1).1 (by decide)
    have htight : Tight isBlank (remark r) := trimBoth_eq_self_iff.1 (trim_remark h)
    have hlast : ' ' :: '#' :: ' ' :: remark r = [' ', '#', ' '] ++ remark r := rfl
    rw [hlast, ← List.append_assoc, List.getLast?_append_of_ne_nil _ hne] at hc
    exact htight.2 c hc

/-! ## Reading a written row -/

theorem trim_write_append (r : KeyRecord) {s : Text} (hs : ∀ c ∈ s, isBlank c = true) :
    trim (write r ++ s) = '-' :: ' ' :: '"' :: (r.key ++ '"' :: trimEnd (tail r)) := by
  rw [trim_append_blanks hs, write_eq, trim_blanks_append (List.all_eq_true.1 rfl),
    trim_cons_append_cons (by decide) (by decide)]
  simp

theorem read?_dash (row : Text) {rest : Text} (h : trim row = '-' :: rest) :
    read? row = readItem? false ('-' :: rest) := by
  rw [read?, h]
  rfl

/-- What a written row reads as, by what the first double quote behind the opening one divides. -/
theorem read?_write_of_cutAt? {r : KeyRecord} {s key after : Text}
    (hs : ∀ c ∈ s, isBlank c = true)
    (hcut : cutAt? '"' (r.key ++ '"' :: trimEnd (tail r)) = some (key, after)) :
    read? (write r ++ s) =
      if (trim key).isEmpty then none
      else some ⟨trim key, plainNote (commentOf (trimStart after)),
        !isMarked (commentOf (trimStart after))⟩ := by
  have hstart : trimStart (' ' :: '"' :: (r.key ++ '"' :: trimEnd (tail r))) =
      '"' :: (r.key ++ '"' :: trimEnd (tail r)) := rfl
  rw [read?_dash _ (trim_write_append r hs), readItem?, hstart]
  simp only [split, true_or, if_true, hcut, Bool.false_or]

theorem read?_write_append_of_not_mem {r : KeyRecord} {s : Text}
    (hs : ∀ c ∈ s, isBlank c = true) (hquote : '"' ∉ r.key) :
    read? (write r ++ s) =
      if (trim r.key).isEmpty then none
      else some ⟨trim r.key, plainNote (trim (remark r)), !isMarked (trim (remark r))⟩ := by
  rw [read?_write_of_cutAt? hs (cutAt?_append_cons hquote _), commentOf_tail]

/-- Blanks at the end of a written row do not matter. -/
theorem read?_write_append (r : KeyRecord) {s : Text} (hs : ∀ c ∈ s, isBlank c = true) :
    read? (write r ++ s) = read? (write r) := by
  have h := trim_write_append r (s := []) (by simp)
  rw [List.append_nil] at h
  rw [read?_dash _ (trim_write_append r hs), read?_dash _ h]

/-- **A written row read back**, for a key without double quotes and a note without blanks at its
ends. -/
theorem read?_write {r : KeyRecord} (hquote : '"' ∉ r.key) (hnote : Tight isBlank r.note) :
    read? (write r) =
      if (trim r.key).isEmpty then none
      else some ⟨trim r.key, plainNote r.note, r.enabled && !isMarked r.note⟩ := by
  have h := read?_write_append_of_not_mem (r := r) (s := []) (by simp) hquote
  rw [List.append_nil, trim_remark hnote, plainNote_remark, isMarked_remark] at h
  rw [h, Bool.not_or, Bool.not_not]

/-- A key without double quotes and without blanks at its ends is read back. -/
theorem read?_write_of_trim {r : KeyRecord} (hne : r.key ≠ []) (hquote : '"' ∉ r.key)
    (htrim : trim r.key = r.key) (hnote : Tight isBlank r.note) :
    read? (write r) = some ⟨r.key, plainNote r.note, r.enabled && !isMarked r.note⟩ := by
  have hempty : r.key.isEmpty = false := by simpa using hne
  rw [read?_write hquote hnote, htrim, hempty]
  rfl

/-- The key that a written row gives back is a trimmed text without double quotes. -/
theorem exists_key_of_read?_write {r r' : KeyRecord} (h : read? (write r) = some r') :
    ∃ key, '"' ∉ key ∧ r'.key = trim key := by
  have hmem : '"' ∈ r.key ++ '"' :: trimEnd (tail r) := by simp
  cases hcut : cutAt? '"' (r.key ++ '"' :: trimEnd (tail r)) with
  | none =>
    obtain ⟨front, rest, hfr⟩ := List.append_of_mem hmem
    have hinfix : ['"'] <:+: r.key ++ '"' :: trimEnd (tail r) :=
      ⟨front, rest, by rw [hfr]; simp⟩
    have hsome := holds_iff.2 hinfix
    rw [holds, show cut? ['"'] _ = _ from hcut] at hsome
    exact absurd hsome (by decide)
  | some cut =>
    obtain ⟨key, after⟩ := cut
    have hread := read?_write_of_cutAt? (s := []) (by simp) hcut
    rw [List.append_nil, h] at hread
    split at hread
    · exact absurd hread (by simp)
    · exact ⟨key, not_mem_of_cutAt? hcut, by rw [Option.some.inj hread]⟩

/-- A double quote in a key never comes back. -/
theorem quote_not_mem_of_read?_write {r r' : KeyRecord} (h : read? (write r) = some r') :
    '"' ∉ r'.key := by
  obtain ⟨key, hquote, hkey⟩ := exists_key_of_read?_write h
  rw [hkey]
  exact fun hq => hquote (mem_of_mem_trim hq)

/-- Blanks at the ends of a key never come back. -/
theorem trim_key_of_read?_write {r r' : KeyRecord} (h : read? (write r) = some r') :
    trim r'.key = r'.key := by
  obtain ⟨key, -, hkey⟩ := exists_key_of_read?_write h
  rw [hkey]
  exact (tight_trimBoth isBlank key).trimBoth_eq

/-! ## What a row can hold -/

theorem mem_of_mem_unquote {c : Char} {t : Text} (h : c ∈ unquote t) : c ∈ t :=
  mem_of_mem_trimBoth h

theorem mem_of_mem_commentOf {c : Char} {t : Text} (h : c ∈ commentOf t) : c ∈ t := by
  unfold commentOf at h
  split at h
  · exact List.mem_cons_of_mem _ (mem_of_mem_trim h)
  · exact absurd h List.not_mem_nil

theorem mem_of_mem_splitBare {c : Char} {item : Text}
    (h : c ∈ (splitBare item).1 ∨ c ∈ (splitBare item).2) : c ∈ item := by
  unfold splitBare at h
  split at h
  · next key comment hcut =>
    rw [(cutAt?_eq_some_iff.1 hcut).1, List.mem_append, List.mem_cons]
    rcases h with h | h
    · exact Or.inl (mem_of_mem_trim (mem_of_mem_unquote h))
    · exact Or.inr (Or.inr (mem_of_mem_trim h))
  · rcases h with h | h
    · exact mem_of_mem_trim (mem_of_mem_unquote h)
    · exact absurd h List.not_mem_nil

theorem mem_of_mem_split {c : Char} {item : Text}
    (h : c ∈ (split item).1 ∨ c ∈ (split item).2) : c ∈ item := by
  unfold split at h
  split at h
  · exact mem_of_mem_splitBare h
  · next q rest =>
    split at h
    · split at h
      · next key after hcut =>
        rw [List.mem_cons, (cutAt?_eq_some_iff.1 hcut).1, List.mem_append, List.mem_cons]
        rcases h with h | h
        · exact Or.inr (Or.inl (mem_of_mem_trim h))
        · exact Or.inr (Or.inr (Or.inr (mem_of_mem_trimStart (mem_of_mem_commentOf h))))
      · exact mem_of_mem_splitBare h
    · exact mem_of_mem_splitBare h

theorem exists_of_readItem? {out : Bool} {item : Text} {r : KeyRecord}
    (h : readItem? out item = some r) :
    r.key ≠ [] ∧ ∃ key comment, r.key = key ∧ r.note = plainNote comment ∧
      (r.enabled = true → isMarked comment = false) ∧
      ∀ c, c ∈ key ∨ c ∈ comment → c ∈ item := by
  unfold readItem? at h
  split at h
  · next rest =>
    dsimp only at h
    split at h
    · exact absurd h (by simp)
    · next hne =>
      rw [← Option.some.inj h]
      refine ⟨fun he => hne (List.isEmpty_iff.2 he), _, _, rfl, rfl,
        fun he => ?_, fun c hc => ?_⟩
      · simp only [Bool.not_eq_true', Bool.or_eq_false_iff] at he
        exact he.2
      · exact List.mem_cons_of_mem _ (mem_of_mem_trimStart (mem_of_mem_split hc))
  · exact absurd h (by simp)

/-- **What a row gives.**  The key of a record that was read is not empty, a comment with a marker
makes it disabled, and key and comment are made of characters of the row. -/
theorem exists_of_read? {row : Text} {r : KeyRecord} (h : read? row = some r) :
    r.key ≠ [] ∧ ∃ key comment, r.key = key ∧ r.note = plainNote comment ∧
      (r.enabled = true → isMarked comment = false) ∧
      ∀ c, c ∈ key ∨ c ∈ comment → c ∈ row := by
  unfold read? at h
  split at h
  · next rest hrow =>
    obtain ⟨hne, key, comment, hkey, hnote, hstate, hmem⟩ := exists_of_readItem? h
    refine ⟨hne, key, comment, hkey, hnote, hstate, fun c hc => mem_of_mem_trim ?_⟩
    rw [hrow]
    exact List.mem_cons_of_mem _ (mem_of_mem_trimStart (hmem c hc))
  · obtain ⟨hne, key, comment, hkey, hnote, hstate, hmem⟩ := exists_of_readItem? h
    exact ⟨hne, key, comment, hkey, hnote, hstate, fun c hc => mem_of_mem_trim (hmem c hc)⟩

theorem key_ne_nil_of_read? {row : Text} {r : KeyRecord} (h : read? row = some r) : r.key ≠ [] :=
  (exists_of_read? h).1

theorem tight_note_of_read? {row : Text} {r : KeyRecord} (h : read? row = some r) :
    Tight isNoteEdge r.note := by
  obtain ⟨-, key, comment, -, hnote, -, -⟩ := exists_of_read? h
  rw [hnote]
  exact tight_plainNote comment

/-- An enabled record that was read has no marker in its note. -/
theorem isMarked_note_of_read? {row : Text} {r : KeyRecord} (h : read? row = some r)
    (he : r.enabled = true) : isMarked r.note = false := by
  obtain ⟨-, key, comment, -, hnote, hstate, -⟩ := exists_of_read? h
  rw [hnote]
  exact isMarked_plainNote (hstate he)

theorem mem_row_of_read? {row : Text} {r : KeyRecord} (h : read? row = some r) {c : Char}
    (hc : c ∈ r.key ∨ c ∈ r.note) : c ∈ row := by
  obtain ⟨-, key, comment, hkey, hnote, -, hmem⟩ := exists_of_read? h
  rw [hkey, hnote] at hc
  exact hmem c (hc.imp_right mem_of_mem_plainNote)

theorem mem_of_mem_remark {r : KeyRecord} {c : Char} (h : c ∈ remark r) :
    c ∈ r.note ∨ c ∈ ' ' :: '#' :: marker := by
  rw [remark, List.mem_append] at h
  rcases h with h | h
  · split at h
    · exact absurd h List.not_mem_nil
    · right
      split at h
      · rw [List.append_nil] at h
        exact List.mem_cons_of_mem _ (List.mem_cons_of_mem _ h)
      · simp only [List.mem_append, List.mem_cons, List.not_mem_nil, or_false] at h ⊢
        tauto
  · exact Or.inl h

/-- A written row holds the characters of its record and those of the fixed parts. -/
theorem mem_of_mem_write {r : KeyRecord} {c : Char} (h : c ∈ write r) :
    c ∈ r.key ∨ c ∈ r.note ∨ c ∈ ' ' :: '-' :: '"' :: '#' :: marker := by
  have htail : c ∈ tail r → c ∈ r.note ∨ c ∈ ' ' :: '#' :: marker := by
    intro hc
    rw [tail] at hc
    split at hc
    · exact absurd hc List.not_mem_nil
    · simp only [List.mem_cons] at hc
      rcases hc with rfl | rfl | rfl | hc
      · simp
      · simp
      · simp
      · exact mem_of_mem_remark hc
  rw [write_eq] at h
  simp only [List.mem_append, List.mem_cons, List.not_mem_nil, or_false] at h htail ⊢
  tauto
/-! ## Writable records -/

/-- The records that a row carries as they are: the key fills the room between the quotes and does
not end it early, and the note is plain. -/
structure IsWritable (r : KeyRecord) : Prop where
  key_ne_nil : r.key ≠ []
  quote_not_mem_key : '"' ∉ r.key
  tight_key : Tight isBlank r.key
  plain_note : IsPlainNote r.note

theorem tight_blank_of_tight_edge {t : Text} (h : Tight isNoteEdge t) : Tight isBlank t :=
  h.mono fun c hc => by simp [hc]

theorem IsWritable.tight_note {r : KeyRecord} (h : IsWritable r) : Tight isBlank r.note :=
  tight_blank_of_tight_edge h.plain_note.2

/-- **Which records come back.**  A written row reads as its record exactly if the record is
writable. -/
theorem read?_write_eq_some_iff {r : KeyRecord} : read? (write r) = some r ↔ IsWritable r := by
  constructor
  · intro h
    have hquote := quote_not_mem_of_read?_write h
    have hread := read?_write hquote (tight_blank_of_tight_edge (tight_note_of_read? h))
    rw [h] at hread
    split at hread
    · exact absurd hread (by simp)
    · have hr := Option.some.inj hread
      have hkey : trim r.key = r.key := (congrArg KeyRecord.key hr).symm
      have hnote : plainNote r.note = r.note := (congrArg KeyRecord.note hr).symm
      exact ⟨key_ne_nil_of_read? h, hquote, trimBoth_eq_self_iff.1 hkey,
        isPlainNote_of_length (by rw [hnote])⟩
  · intro h
    rw [read?_write_of_trim h.key_ne_nil h.quote_not_mem_key h.tight_key.trimBoth_eq h.tight_note,
      h.plain_note.plainNote_eq, h.plain_note.1, Bool.not_false, Bool.and_true]

end KeyRow
end ProxySteward
