import Mathlib.Data.Set.Function
import ProxySteward.Proofs.Key.StoreRefinement

/-!
# Keys under other names

A key can have another name that its mask does not tell from the old one.  A `MaskedRenaming` gives
such names to some keys, and no two of them the same one.  The key list looks at a key only to
compare it with another key and to see whether it may be added at all, so every call does the same
to a list as to the renamed list, and its answers differ in the name of an added key at most
(`Relates.call`).

The names matter only for the keys that a list or a call speaks of.  A renaming therefore has a set
of keys, and nothing is asked of the others.
-/

namespace ProxySteward

open Text KeyRecord

/-- Other names for some keys, which the masks of the keys do not show. -/
structure MaskedRenaming where
  keys : Set Text
  rename : Text → Text
  injOn : Set.InjOn rename keys
  isKey : ∀ k ∈ keys, IsKey k
  isKey_rename : ∀ k ∈ keys, IsKey (rename k)
  mask_rename : ∀ k ∈ keys, mask (rename k) = mask k

/-- A key that may be added is added, unless it is listed. -/
theorem KeyList.call_add_of_isKey {raw : Text} {rs : List KeyRecord} (h : IsKey (trim raw)) :
    KeyList.call (.add raw) rs =
      if trim raw ∈ rs.map KeyRecord.key then (.error .keyExists, rs)
      else (.ok (.added (trim raw)), rs ++ [fresh (trim raw)]) := by
  rw [KeyList.call, if_neg h.1, if_neg (ne_false_of_eq_true h.2)]
  rfl

namespace MaskedRenaming

variable {ρ : MaskedRenaming} {rs rs' : List KeyRecord} {r : KeyRecord} {k : Text}

/-- The record of the renamed key. -/
def onRecord (ρ : MaskedRenaming) (r : KeyRecord) : KeyRecord := { r with key := ρ.rename r.key }

/-- The second list is the first one with its keys renamed. -/
structure Relates (ρ : MaskedRenaming) (rs rs' : List KeyRecord) : Prop where
  keys : ∀ r ∈ rs, r.key ∈ ρ.keys
  eq_map : rs' = rs.map ρ.onRecord

/-- The second edit is the first one with its key renamed. -/
inductive OnEdit (ρ : MaskedRenaming) : KeyEdit → KeyEdit → Prop
  | add {raw raw' : Text} (hraw : trim raw ∈ ρ.keys) (hraw' : trim raw' = ρ.rename (trim raw)) :
      OnEdit ρ (.add raw) (.add raw')
  | remove {k : Text} (hk : k ∈ ρ.keys) : OnEdit ρ (.remove k) (.remove (ρ.rename k))
  | setNote {k : Text} (hk : k ∈ ρ.keys) (note : Text) :
      OnEdit ρ (.setNote k note) (.setNote (ρ.rename k) note)
  | setEnabled {k : Text} (hk : k ∈ ρ.keys) (on : Bool) :
      OnEdit ρ (.setEnabled k on) (.setEnabled (ρ.rename k) on)

/-- The second answer is the first one with an added key renamed. -/
inductive OnAnswer (ρ : MaskedRenaming) :
    Except KeyFault KeyAnswer → Except KeyFault KeyAnswer → Prop
  | added {k : Text} (hk : k ∈ ρ.keys) :
      OnAnswer ρ (.ok (.added k)) (.ok (.added (ρ.rename k)))
  | changed (whether : Bool) : OnAnswer ρ (.ok (.changed whether)) (.ok (.changed whether))
  | failed (f : KeyFault) : OnAnswer ρ (.error f) (.error f)

/-! ## Looking for a key -/

/-- A renamed record has a renamed key exactly if it had the key before. -/
theorem key_onRecord_eq_iff (hr : r.key ∈ ρ.keys) (hk : k ∈ ρ.keys) :
    (ρ.onRecord r).key = ρ.rename k ↔ r.key = k :=
  ρ.injOn.eq_iff hr hk

theorem Relates.mem_keys_iff (h : ρ.Relates rs rs') (hk : k ∈ ρ.keys) :
    ρ.rename k ∈ rs'.map KeyRecord.key ↔ k ∈ rs.map KeyRecord.key := by
  rw [h.eq_map, List.map_map, List.mem_map, List.mem_map]
  exact exists_congr fun r => and_congr_right fun hr => key_onRecord_eq_iff (h.keys r hr) hk

theorem Relates.filter_ne (h : ρ.Relates rs rs') (hk : k ∈ ρ.keys) :
    ρ.Relates (rs.filter fun r => r.key ≠ k) (rs'.filter fun r => r.key ≠ ρ.rename k) where
  keys r hr := h.keys r (List.mem_of_mem_filter hr)
  eq_map := by
    rw [h.eq_map, List.filter_map]
    congr 1
    refine List.filter_congr fun r hr => ?_
    rw [Function.comp_apply, decide_eq_decide]
    exact not_congr (key_onRecord_eq_iff (h.keys r hr) hk)

theorem Relates.find? (h : ρ.Relates rs rs') (hk : k ∈ ρ.keys) :
    rs'.find? (·.key = ρ.rename k) = (rs.find? (·.key = k)).map ρ.onRecord := by
  obtain ⟨hkeys, rfl⟩ := h
  induction rs with
  | nil => rfl
  | cons r rs ih =>
    have hkey := key_onRecord_eq_iff (hkeys r List.mem_cons_self) hk
    rw [List.map_cons, List.find?_cons, List.find?_cons, decide_eq_decide.2 hkey,
      ih fun r' hr' => hkeys r' (List.mem_cons_of_mem r hr')]
    cases decide (r.key = k) <;> rfl

/-- A revision that commutes with the renaming does the same to both lists. -/
theorem Relates.updateFirst {f : KeyRecord → KeyRecord} (h : ρ.Relates rs rs')
    (hk : k ∈ ρ.keys) (hkey : ∀ r, (f r).key = r.key)
    (hf : ∀ r, f (ρ.onRecord r) = ρ.onRecord (f r)) :
    ρ.Relates (KeyEdit.updateFirst k f rs) (KeyEdit.updateFirst (ρ.rename k) f rs') where
  keys r hr := by
    rcases KeyEdit.mem_updateFirst hr with hr | ⟨r', hr', rfl⟩
    · exact h.keys r hr
    · rw [hkey]
      exact h.keys r' hr'
  eq_map := by
    obtain ⟨hkeys, rfl⟩ := h
    induction rs with
    | nil => rfl
    | cons r rs ih =>
      have hr := key_onRecord_eq_iff (hkeys r List.mem_cons_self) hk
      rw [List.map_cons, KeyEdit.updateFirst, KeyEdit.updateFirst,
        ih fun r' hr' => hkeys r' (List.mem_cons_of_mem r hr')]
      by_cases hfirst : r.key = k
      · rw [if_pos (hr.2 hfirst), if_pos hfirst, List.map_cons, hf]
      · rw [if_neg (mt hr.1 hfirst), if_neg hfirst, List.map_cons]

/-! ## Calls -/

/-- Both additions of a key pass the checks of the key alone. -/
theorem Relates.call_add (h : ρ.Relates rs rs') {raw raw' : Text} (hraw : trim raw ∈ ρ.keys)
    (hraw' : trim raw' = ρ.rename (trim raw)) :
    ρ.OnAnswer (KeyList.call (.add raw) rs).1 (KeyList.call (.add raw') rs').1 ∧
      ρ.Relates (KeyList.call (.add raw) rs).2 (KeyList.call (.add raw') rs').2 := by
  rw [KeyList.call_add_of_isKey (ρ.isKey _ hraw),
    KeyList.call_add_of_isKey (hraw' ▸ ρ.isKey_rename _ hraw), hraw']
  by_cases hmem : trim raw ∈ rs.map KeyRecord.key
  · rw [if_pos hmem, if_pos ((h.mem_keys_iff hraw).2 hmem)]
    exact ⟨.failed _, h⟩
  · rw [if_neg hmem, if_neg (mt (h.mem_keys_iff hraw).1 hmem)]
    refine ⟨.added hraw, fun r hr => ?_, by rw [h.eq_map, List.map_append]; rfl⟩
    rcases List.mem_append.1 hr with hr | hr
    · exact h.keys r hr
    · rw [List.mem_singleton.1 hr]
      exact hraw

/-- A revision answers whether the first record of the key differs from what is wanted. -/
theorem Relates.call_revise (f : KeyRecord → KeyRecord) (differs : KeyRecord → Bool)
    (h : ρ.Relates rs rs') (hk : k ∈ ρ.keys) (hkey : ∀ r, (f r).key = r.key)
    (hf : ∀ r, f (ρ.onRecord r) = ρ.onRecord (f r))
    (hdiffers : ∀ r, differs (ρ.onRecord r) = differs r) :
    (rs'.find? (·.key = ρ.rename k)).any differs = (rs.find? (·.key = k)).any differs ∧
      ρ.Relates (rs.modify (rs.findIdx (·.key = k)) f)
        (rs'.modify (rs'.findIdx (·.key = ρ.rename k)) f) := by
  rw [← KeyEdit.updateFirst_eq_modify, ← KeyEdit.updateFirst_eq_modify, h.find? hk,
    Option.any_map]
  refine ⟨?_, h.updateFirst hk hkey hf⟩
  congr 1
  exact funext hdiffers

/-- **One call** on a list and its counterpart on the renamed list. -/
theorem Relates.call {e e' : KeyEdit} (h : ρ.Relates rs rs') (he : ρ.OnEdit e e') :
    ρ.OnAnswer (KeyList.call e rs).1 (KeyList.call e' rs').1 ∧
      ρ.Relates (KeyList.call e rs).2 (KeyList.call e' rs').2 := by
  cases he with
  | add hraw hraw' => exact h.call_add hraw hraw'
  | remove hk =>
    rw [KeyList.call, KeyList.call, decide_eq_decide.2 (h.mem_keys_iff hk)]
    exact ⟨.changed _, h.filter_ne hk⟩
  | setNote hk note =>
    obtain ⟨hanswer, hlist⟩ := h.call_revise (fun r => { r with note := normalNote note })
      (fun r => r.note ≠ normalNote note) hk (fun _ => rfl) (fun _ => rfl) (fun _ => rfl)
    rw [KeyList.call, KeyList.call, hanswer]
    exact ⟨.changed _, hlist⟩
  | setEnabled hk on =>
    obtain ⟨hanswer, hlist⟩ := h.call_revise (fun r => { r with enabled := on })
      (fun r => r.enabled ≠ on) hk (fun _ => rfl) (fun _ => rfl) (fun _ => rfl)
    rw [KeyList.call, KeyList.call, hanswer]
    exact ⟨.changed _, hlist⟩

end MaskedRenaming
end ProxySteward
