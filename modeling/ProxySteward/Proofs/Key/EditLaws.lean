import ProxySteward.Key.Edit
import ProxySteward.Proofs.Key.SectionCut

/-!
# What an edit does to a list of records

An edit that does not fail is one of three things: it appends a fresh record, it filters a key out,
or it revises the first record of a key (`onRecords_cases`).  Everything below follows from these
three cases.

* The keys of the list afterwards are those before with one more, with one less, or unchanged
  (`map_key_updateFirst`), so distinct keys stay distinct (`nodup_onRecords`).
* Records of other keys are not touched (`filter_key_onRecords`).
* A property of records that fresh records have and revisions keep is kept by every edit
  (`IsStable.onRecords`).  Being writable is such a property, and so is standing on one row.
-/

namespace ProxySteward
namespace KeyEdit

open Text KeyRecord

variable {key : Text} {f : KeyRecord → KeyRecord} {rs rs' : List KeyRecord} {e : KeyEdit}
  {answer : KeyAnswer}

/-- The key an edit is about. -/
def target : KeyEdit → Text
  | .add raw => trim raw
  | .remove key => key
  | .setNote key _ => key
  | .setEnabled key _ => key

/-- What an edit may do to a record that stays. -/
inductive Revision : (KeyRecord → KeyRecord) → Prop
  | note (note : Text) : Revision fun r => { r with note := normalNote note }
  | state (on : Bool) : Revision fun r => { r with enabled := on }

theorem Revision.key_eq (h : Revision f) (r : KeyRecord) : (f r).key = r.key := by
  cases h <;> rfl

/-! ## Revising the first record of a key -/

theorem map_key_updateFirst (hf : ∀ r, (f r).key = r.key) :
    (updateFirst key f rs).map KeyRecord.key = rs.map KeyRecord.key := by
  induction rs with
  | nil => rfl
  | cons r rs ih =>
    rw [updateFirst]
    split
    · rw [List.map_cons, List.map_cons, hf]
    · rw [List.map_cons, List.map_cons, ih]

theorem filter_key_updateFirst (hf : ∀ r, (f r).key = r.key) :
    (updateFirst key f rs).filter (fun r => r.key ≠ key) = rs.filter fun r => r.key ≠ key := by
  induction rs with
  | nil => rfl
  | cons r rs ih =>
    rw [updateFirst]
    split
    · next hr =>
        rw [List.filter_cons_of_neg (by simp [hf, hr]), List.filter_cons_of_neg (by simp [hr])]
    · next hr =>
        rw [List.filter_cons_of_pos (by simp [hr]), List.filter_cons_of_pos (by simp [hr]), ih]

theorem mem_updateFirst {r : KeyRecord} (h : r ∈ updateFirst key f rs) :
    r ∈ rs ∨ ∃ r' ∈ rs, r = f r' := by
  induction rs with
  | nil => exact absurd h List.not_mem_nil
  | cons r' rs ih =>
    rw [updateFirst] at h
    split at h
    · rcases List.mem_cons.1 h with rfl | h
      · exact Or.inr ⟨r', List.mem_cons_self, rfl⟩
      · exact Or.inl (List.mem_cons_of_mem r' h)
    · rcases List.mem_cons.1 h with rfl | h
      · exact Or.inl List.mem_cons_self
      · rcases ih h with hr | ⟨r'', hr, rfl⟩
        · exact Or.inl (List.mem_cons_of_mem r' hr)
        · exact Or.inr ⟨r'', List.mem_cons_of_mem r' hr, rfl⟩

/-- Revising the first record of a key is revising at its index. -/
theorem updateFirst_eq_modify : updateFirst key f rs = rs.modify (rs.findIdx (·.key = key)) f := by
  induction rs with
  | nil => rfl
  | cons r rs ih =>
    rw [updateFirst, List.findIdx_cons]
    split
    · next h => simp [h]
    · next h => simp [h, ih]

theorem updateFirst_eq_self (h : ∀ r ∈ rs.find? (·.key = key), f r = r) :
    updateFirst key f rs = rs := by
  induction rs with
  | nil => rfl
  | cons r rs ih =>
    rw [updateFirst]
    split
    · next hr => rw [h r (List.find?_cons_of_pos (by simpa using hr))]
    · next hr => rw [ih (by rwa [List.find?_cons_of_neg (by simpa using hr)] at h)]

/-- The answer says whether the first record of the key is another one afterwards. -/
theorem amend_eq :
    amend key f rs =
      (.changed ((rs.find? (·.key = key)).any fun r => f r ≠ r), updateFirst key f rs) := by
  unfold amend
  cases h : rs.find? (·.key = key) with
  | none => rw [updateFirst_eq_self (by simp [h])]; rfl
  | some r =>
    by_cases hr : f r = r
    · rw [updateFirst_eq_self (by simpa [h] using hr)]
      simp [hr]
    · simp [hr]

/-! ## The three kinds of edits -/

theorem onRecords_of_check {f : KeyFault} (h : e.check = .error f) : e.onRecords rs = .error f := by
  unfold onRecords
  rw [h]

theorem onRecords_setNote (key note : Text) :
    (setNote key note).onRecords rs =
      .ok (amend key (fun r => { r with note := normalNote note }) rs) := rfl

theorem onRecords_setEnabled (key : Text) (on : Bool) :
    (setEnabled key on).onRecords rs = .ok (amend key (fun r => { r with enabled := on }) rs) := rfl

theorem onRecords_remove (key : Text) :
    (remove key).onRecords rs =
      .ok (.changed (rs.any (·.key = key)), rs.filter fun r => r.key ≠ key) := rfl

theorem onRecords_add (raw : Text) :
    (add raw).onRecords rs =
      if trim raw = [] then .error .emptyKey
      else if isKeyText (trim raw) = false then .error .invalidKey
      else if trim raw ∈ rs.map KeyRecord.key then .error .keyExists
      else .ok (.added (trim raw), rs ++ [fresh (trim raw)]) := by
  have hany : rs.any (fun r => decide (r.key = trim raw)) =
      decide (trim raw ∈ rs.map KeyRecord.key) := by
    rw [Bool.eq_iff_iff]
    simp
  unfold onRecords check append
  dsimp only
  rw [hany]
  by_cases hnil : trim raw = []
  · simp [hnil]
  · cases htext : isKeyText (trim raw) with
    | false => simp [hnil]
    | true => simp [hnil]

/-- **The kinds of edits.**  An edit that did not fail appended a fresh record of a key that had
none, took a key out, or revised the first record of its key. -/
theorem onRecords_cases (h : e.onRecords rs = .ok (answer, rs')) :
    (∃ key, IsKey key ∧ key ∉ rs.map KeyRecord.key ∧ e.target = key ∧
        answer = .added key ∧ rs' = rs ++ [fresh key]) ∨
      (∃ key, e = .remove key ∧ answer = .changed (rs.any (·.key = key)) ∧
        rs' = rs.filter fun r => r.key ≠ key) ∨
      ∃ key f, Revision f ∧ e.target = key ∧ (∀ raw, e ≠ .add raw) ∧
        (answer, rs') = amend key f rs := by
  cases e with
  | add raw =>
    rw [onRecords_add] at h
    split at h
    · exact absurd h (by simp)
    · next hnil =>
      split at h
      · exact absurd h (by simp)
      · next htext =>
        split at h
        · exact absurd h (by simp)
        · next hfresh =>
          rw [Except.ok.injEq, Prod.mk.injEq] at h
          exact Or.inl ⟨trim raw, ⟨hnil, by simpa using htext⟩, hfresh, rfl, h.1.symm,
            h.2.symm⟩
  | remove key =>
    rw [onRecords_remove, Except.ok.injEq, Prod.mk.injEq] at h
    exact Or.inr (Or.inl ⟨key, rfl, h.1.symm, h.2.symm⟩)
  | setNote key note =>
    rw [onRecords_setNote, Except.ok.injEq] at h
    exact Or.inr (Or.inr ⟨key, _, .note note, rfl, by simp, h.symm⟩)
  | setEnabled key on =>
    rw [onRecords_setEnabled, Except.ok.injEq] at h
    exact Or.inr (Or.inr ⟨key, _, .state on, rfl, by simp, h.symm⟩)

/-! ## What all edits keep -/

/-- An edit that reports no change made none. -/
theorem eq_of_not_isChange (h : e.onRecords rs = .ok (answer, rs'))
    (hno : answer.isChange = false) : rs' = rs := by
  rcases onRecords_cases h with ⟨key, -, -, -, rfl, -⟩ | ⟨key, -, rfl, rfl⟩ |
    ⟨key, f, -, -, -, hf⟩
  · exact absurd hno (by simp [KeyAnswer.isChange])
  · rw [KeyAnswer.isChange, List.any_eq_false] at hno
    rw [List.filter_eq_self]
    intro r hr
    simpa using hno r hr
  · rw [amend_eq, Prod.mk.injEq] at hf
    rw [hf.1, KeyAnswer.isChange] at hno
    rw [hf.2]
    refine updateFirst_eq_self fun r hr => ?_
    rw [Option.mem_def.1 hr] at hno
    simpa using hno

/-- **Records of other keys** keep their place, their note and their state. -/
theorem filter_key_onRecords (h : e.onRecords rs = .ok (answer, rs')) :
    rs'.filter (fun r => r.key ≠ e.target) = rs.filter fun r => r.key ≠ e.target := by
  rcases onRecords_cases h with ⟨key, -, -, hkey, -, rfl⟩ | ⟨key, rfl, -, rfl⟩ |
    ⟨key, f, hrev, hkey, -, hf⟩
  · rw [hkey, List.filter_append, List.filter_cons_of_neg (by simp [fresh]), List.filter_nil,
      List.append_nil]
  · show (rs.filter fun r => r.key ≠ key).filter (fun r => r.key ≠ key) = _
    rw [List.filter_filter]
    simp only [Bool.and_self]
    rfl
  · rw [amend_eq, Prod.mk.injEq] at hf
    rw [hf.2, hkey, filter_key_updateFirst hrev.key_eq]

theorem nodup_onRecords (h : e.onRecords rs = .ok (answer, rs'))
    (hnodup : (rs.map KeyRecord.key).Nodup) : (rs'.map KeyRecord.key).Nodup := by
  rcases onRecords_cases h with ⟨key, -, hfresh, -, -, rfl⟩ | ⟨key, -, -, rfl⟩ |
    ⟨key, f, hrev, -, -, hf⟩
  · rw [List.map_append, List.nodup_append]
    refine ⟨hnodup, by simp, ?_⟩
    rintro a ha b hb rfl
    rw [List.map_singleton, List.mem_singleton] at hb
    rw [hb] at ha
    exact hfresh ha
  · exact hnodup.sublist ((List.filter_sublist).map KeyRecord.key)
  · rw [amend_eq, Prod.mk.injEq] at hf
    rwa [hf.2, map_key_updateFirst hrev.key_eq]

/-- **A key stays** until an edit takes it out. -/
theorem mem_keys_onRecords (h : e.onRecords rs = .ok (answer, rs')) {k : Text}
    (hk : k ∈ rs.map KeyRecord.key) (hne : e ≠ .remove k) : k ∈ rs'.map KeyRecord.key := by
  rcases onRecords_cases h with ⟨key, -, -, -, -, rfl⟩ | ⟨key, rfl, -, rfl⟩ |
    ⟨key, f, hrev, -, -, hf⟩
  · rw [List.map_append]
    exact List.mem_append_left _ hk
  · obtain ⟨r, hr, rfl⟩ := List.mem_map.1 hk
    refine List.mem_map_of_mem (List.mem_filter.2 ⟨hr, ?_⟩)
    simpa using fun heq : r.key = key => hne (by rw [heq])
  · rw [amend_eq, Prod.mk.injEq] at hf
    rwa [hf.2, map_key_updateFirst hrev.key_eq]

/-- A property of records that no edit breaks. -/
structure IsStable (P : KeyRecord → Prop) : Prop where
  fresh : ∀ key, IsKey key → P (KeyRecord.fresh key)
  revised : ∀ f r, Revision f → P r → P (f r)

theorem IsStable.onRecords {P : KeyRecord → Prop} (hP : IsStable P)
    (h : e.onRecords rs = .ok (answer, rs')) (hrs : ∀ r ∈ rs, P r) : ∀ r ∈ rs', P r := by
  intro r hr
  rcases onRecords_cases h with ⟨key, hkey, -, -, -, rfl⟩ | ⟨key, -, -, rfl⟩ |
    ⟨key, f, hrev, -, -, hf⟩
  · rcases List.mem_append.1 hr with hr | hr
    · exact hrs r hr
    · rw [List.mem_singleton.1 hr]
      exact hP.fresh key hkey
  · exact hrs r (List.mem_filter.1 hr).1
  · rw [amend_eq, Prod.mk.injEq] at hf
    rw [hf.2] at hr
    rcases mem_updateFirst hr with hr | ⟨r', hr', rfl⟩
    · exact hrs r hr
    · exact hP.revised f r' hrev (hrs r' hr')

/-! ## Stable properties -/

theorem isKeyChar_of_mem {c : Char} (h : IsKey key) (hc : c ∈ key) : isKeyChar c = true :=
  List.all_eq_true.1 h.2 c hc

theorem not_mem_key_of_not {c : Char} (h : IsKey key) (hc : isKeyChar c = false) : c ∉ key := by
  intro hmem
  rw [isKeyChar_of_mem h hmem] at hc
  exact absurd hc (by decide)

theorem tight_key {key : Text} (h : IsKey key) : Tight isBlank key := by
  refine tight_of_forall fun c hc => ?_
  have hchar := isKeyChar_of_mem h hc
  simp only [isKeyChar, Bool.and_eq_true, Bool.not_eq_true'] at hchar
  exact hchar.1.1.1.1

/-- No edit brings in a blank other than the space. -/
theorem isStable_lacks {c : Char} (hblank : isBlank c = true) (hc : c ≠ ' ') :
    IsStable (KeySection.Lacks c) where
  fresh key h := by
    have hchar : isKeyChar c = false := by
      rw [isKeyChar, hblank]
      rfl
    exact ⟨not_mem_key_of_not h hchar, List.not_mem_nil⟩
  revised f r hf h := by
    cases hf with
    | note note => exact ⟨h.1, not_mem_normalNote hblank hc note⟩
    | state on => exact h

theorem isStable_onOneRow : IsStable KeySection.OnOneRow := isStable_lacks (by decide) (by decide)

theorem isStable_isWritable : IsStable KeyRow.IsWritable where
  fresh key h := ⟨h.1, not_mem_key_of_not h (by decide), tight_key h, isPlainNote_nil⟩
  revised f r hf h := by
    cases hf with
    | note note =>
      exact ⟨h.key_ne_nil, h.quote_not_mem_key, h.tight_key, isPlainNote_normalNote note⟩
    | state on => exact ⟨h.key_ne_nil, h.quote_not_mem_key, h.tight_key, h.plain_note⟩

/-- No edit leaves a blank at either end of a note. -/
theorem isStable_tight_note : IsStable fun r => Tight isBlank r.note where
  fresh _ _ := tight_nil isBlank
  revised f r hf h := by
    cases hf with
    | note note => exact KeyRow.tight_blank_of_tight_edge (isPlainNote_normalNote note).2
    | state on => exact h

end KeyEdit
end ProxySteward
