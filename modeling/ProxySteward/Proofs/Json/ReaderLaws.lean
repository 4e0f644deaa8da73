import Mathlib.Data.List.Forall2
import ProxySteward.Json.Read

/-!
# What readers of objects do

Objects and records are read by one loop over their members (`membersFrom`), with a state to which
each member adds.  `membersFrom_succ_eq_ok_iff` says what one round of it does.  Two laws follow by
induction on the rounds.

* What every member keeps, the whole object keeps (`membersFrom_keeps`).  The same is then said of
  maps (`map_keeps`) and of records in either form (`fields_keeps`).
* A map is told by the list of its members.  `memberList` reads an object as that list, in the order
  of the text and with repetitions.  Any other map over the same object puts in the same members one
  after another, as long as its reader makes something of each value on the list
  (`map_of_memberList`).
-/

namespace ProxySteward
namespace Json

open Text

variable {σ α β : Type}

/-- What comes out of a reading that is changed afterwards. -/
theorem map_eq_ok_iff_exists {x : Except JsonFault α} {f : α → β} {b : β} :
    x.map f = .ok b ↔ ∃ a, x = .ok a ∧ f a = b := by
  cases x with
  | error e => simp [Except.map]
  | ok a => simp [Except.map]

theorem optional_eq_ok_some {read : Reader α} {input rest : Bytes} {a : α}
    (h : optional read input = .ok (some a, rest)) :
    read (skipBlank input) = .ok (a, rest) := by
  rw [optional] at h
  split at h
  · obtain ⟨_, _, h⟩ := map_eq_ok_iff_exists.1 h
    exact absurd (congrArg Prod.fst h) (by simp)
  · obtain ⟨⟨b, rest'⟩, hread, h⟩ := map_eq_ok_iff_exists.1 h
    obtain ⟨rfl, rfl⟩ : b = a ∧ rest' = rest := by simpa using h
    exact hread

theorem whole_eq_ok {read : Reader α} {input : Bytes} {a : α} (h : whole read input = .ok a) :
    ∃ rest, read input = .ok (a, rest) := by
  rw [whole] at h
  split at h
  · exact absurd h (by simp)
  · next b rest hread =>
    split at h
    · exact ⟨rest, by rw [hread, Except.ok.inj h]⟩
    · exact absurd h (by simp)

/-! ## Objects -/

section Members

variable {member : Text → σ → Reader σ} {P : σ → Prop} {first : Bool} {s s' : σ}
  {input rest : Bytes}

/-- **One round**: the object ends, or a member is read and the rest follows. -/
theorem membersFrom_succ_eq_ok_iff {n : Nat} :
    membersFrom member (n + 1) first s input = .ok (s', rest) ↔
      nextName first input = .ok (.inr rest) ∧ s = s' ∨
      ∃ start name inner t behind, nextName first input = .ok (.inl start) ∧
        stringText start = .ok (name, inner) ∧ member name s inner = .ok (t, behind) ∧
        membersFrom member n false t behind = .ok (s', rest) := by
  rw [membersFrom]
  cases hnext : nextName first input with
  | error f => simp
  | ok next =>
    cases next with
    | inr after => simp [and_comm]
    | inl start =>
      dsimp only
      cases hname : stringText start with
      | error f => simp [hname]
      | ok name =>
        obtain ⟨name, inner⟩ := name
        dsimp only
        cases hmember : member name s inner with
        | error f => simp [hname, hmember]
        | ok t =>
          obtain ⟨t, behind⟩ := t
          constructor
          · exact fun h => Or.inr ⟨start, name, inner, t, behind, rfl, hname, hmember, h⟩
          · rintro (⟨hend, -⟩ |
              ⟨start', name', inner', t', behind', hstart, hname', hmember', h⟩)
            · exact absurd hend (by simp)
            · obtain rfl := Sum.inl.inj (Except.ok.inj hstart)
              obtain ⟨rfl, rfl⟩ := Prod.mk.inj (Except.ok.inj (hname.symm.trans hname'))
              obtain ⟨rfl, rfl⟩ := Prod.mk.inj (Except.ok.inj (hmember.symm.trans hmember'))
              exact h

/-- **What every member keeps** is kept by the object. -/
theorem membersFrom_keeps
    (hmember : ∀ name t inner t' behind,
      P t → member name t inner = .ok (t', behind) → P t') :
    ∀ {n : Nat} {first : Bool} {s : σ} {input : Bytes}, P s →
      membersFrom member n first s input = .ok (s', rest) → P s' := by
  intro n
  induction n with
  | zero => exact fun _ h => absurd h (by simp [membersFrom])
  | succ n ih =>
    intro first s input hs h
    rcases membersFrom_succ_eq_ok_iff.1 h with ⟨-, rfl⟩ |
      ⟨_, name, inner, t, behind, -, -, hread, h⟩
    · exact hs
    · exact ih (hmember name s inner t behind hs hread) h

theorem members_keeps
    (hmember : ∀ name t inner t' behind, P t → member name t inner = .ok (t', behind) → P t')
    (hs : P s) (h : members member s input = .ok (s', rest)) : P s' :=
  membersFrom_keeps hmember hs h

end Members

/-! ## Maps -/

section Maps

variable {value : Reader α} {entry : Text → α → σ → σ} {s s' : σ} {input rest : Bytes}

/-- Reads a member of a map and puts it in. -/
def putIn (value : Reader α) (entry : Text → α → σ → σ) (name : Text) (s : σ) :
    Reader σ := fun rest =>
  match afterColon rest with
  | .error f => .error f
  | .ok rest => (value rest).map fun (a, rest) => (entry name a s, rest)

theorem putIn_eq_ok_iff {name : Text} :
    putIn value entry name s input = .ok (s', rest) ↔
      ∃ behind a, afterColon input = .ok behind ∧ value behind = .ok (a, rest) ∧
        entry name a s = s' := by
  rw [putIn]
  cases hcolon : afterColon input with
  | error f => simp
  | ok behind =>
    dsimp only
    rw [map_eq_ok_iff_exists]
    simp

theorem skipBlank_brace (inner : Bytes) : skipBlank (0x7B :: inner) = 0x7B :: inner := by
  rw [skipBlank, if_neg (by decide)]

theorem map_eq_ok_iff :
    map value entry s input = .ok (s', rest) ↔
      ∃ inner, skipBlank input = 0x7B :: inner ∧
        members (putIn value entry) s inner = .ok (s', rest) := by
  rw [map]
  split
  · next inner hbrace =>
    rw [hbrace]
    simp only [List.cons.injEq, true_and, exists_eq_left']
    rfl
  · next hother =>
    constructor
    · exact fun h => absurd h (by simp)
    · rintro ⟨inner, hbrace, -⟩
      exact absurd hbrace (hother inner)

/-- What every entry keeps is kept by the map. -/
theorem map_keeps {P : σ → Prop}
    (hentry : ∀ name a t behind after,
      value behind = .ok (a, after) → P t → P (entry name a t))
    (hs : P s) (h : map value entry s input = .ok (s', rest)) : P s' := by
  obtain ⟨inner, -, h⟩ := map_eq_ok_iff.1 h
  refine members_keeps (fun name t _ t' behind ht hread => ?_) hs h
  obtain ⟨_, a, -, hvalue, rfl⟩ := putIn_eq_ok_iff.1 hread
  exact hentry name a t _ behind hvalue ht

/-- The members of an object in their order, with repetitions. -/
def memberList (value : Reader α) : Reader (List (Text × α)) :=
  map value (fun name a ms => ms ++ [(name, a)]) []

/-- Every value on the list was read. -/
theorem exists_of_mem_memberList {vs : List (Text × α)}
    (h : memberList value input = .ok (vs, rest)) :
    ∀ v ∈ vs, ∃ inner behind, value inner = .ok (v.2, behind) := by
  refine map_keeps (P := fun vs => ∀ v ∈ vs, ∃ inner behind, value inner = .ok (v.2, behind))
    (fun name a ms inner behind hvalue hms v hv => ?_) (fun v hv => absurd hv List.not_mem_nil) h
  rcases List.mem_append.1 hv with hv | hv
  · exact hms v hv
  · rw [List.mem_singleton.1 hv]
    exact ⟨inner, behind, hvalue⟩

/-- A map that may be null, if it is none. -/
theorem optional_map_of_eq_ok (h : map value entry s input = .ok (s', rest)) :
    optional (map value entry s) input = .ok (some s', rest) := by
  obtain ⟨inner, hbrace, hmembers⟩ := map_eq_ok_iff.1 h
  have hagain : map value entry s (0x7B :: inner) = .ok (s', rest) :=
    map_eq_ok_iff.2 ⟨inner, skipBlank_brace inner, hmembers⟩
  rw [optional, hbrace]
  show (map value entry s (0x7B :: inner)).map _ = _
  rw [hagain]
  rfl

/-- Two members with the same name, where `value'` makes of every text of the first value the second
one. -/
def Reread (value : Reader α) (value' : Reader β) (v : Text × α) (w : Text × β) : Prop :=
  v.1 = w.1 ∧ ∀ input rest, value input = .ok (v.2, rest) → value' input = .ok (w.2, rest)

/-- The members that are read from some point on, and what another map makes of them there. -/
theorem membersFrom_memberList {value' : Reader β} {entry : Text → β → σ → σ} :
    ∀ {n : Nat} {first : Bool} {ms all : List (Text × α)} {input rest : Bytes},
      membersFrom (putIn value fun name a ms => ms ++ [(name, a)]) n first ms input =
        .ok (all, rest) →
      ∃ vs, all = ms ++ vs ∧ ∀ ws, List.Forall₂ (Reread value value') vs ws → ∀ s,
        membersFrom (putIn value' entry) n first s input =
          .ok (ws.foldl (fun s w => entry w.1 w.2 s) s, rest) := by
  intro n
  induction n with
  | zero => exact fun h => absurd h (by simp [membersFrom])
  | succ n ih =>
    intro first ms all input rest h
    rcases membersFrom_succ_eq_ok_iff.1 h with
      ⟨hend, rfl⟩ | ⟨start, name, inner, t, behind, hnext, hname, hread, h⟩
    · refine ⟨[], (List.append_nil ms).symm, fun ws hws s => ?_⟩
      cases hws
      exact membersFrom_succ_eq_ok_iff.2 (Or.inl ⟨hend, rfl⟩)
    · obtain ⟨colon, a, hcolon, hvalue, rfl⟩ := putIn_eq_ok_iff.1 hread
      obtain ⟨vs, rfl, hrest⟩ := ih h
      refine ⟨(name, a) :: vs,
        by rw [List.append_assoc, List.singleton_append], fun ws hws s => ?_⟩
      cases hws with
      | cons hw hws =>
        next w ws =>
        obtain ⟨hsame, hvalue'⟩ := hw
        refine membersFrom_succ_eq_ok_iff.2 (Or.inr ⟨start, name, inner, entry w.1 w.2 s, behind,
          hnext, hname, putIn_eq_ok_iff.2 ⟨colon, w.2, hcolon, hvalue' _ _ hvalue, ?_⟩,
          hrest ws hws _⟩)
        rw [← hsame]

/-- **A map is told by the list of its members**, if something can be made of each value on the
list. -/
theorem map_of_memberList {value' : Reader β} {entry : Text → β → σ → σ}
    {vs : List (Text × α)} {ws : List (Text × β)} (h : memberList value input = .ok (vs, rest))
    (hws : List.Forall₂ (Reread value value') vs ws) (s : σ) :
    map value' entry s input = .ok (ws.foldl (fun s w => entry w.1 w.2 s) s, rest) := by
  obtain ⟨inner, hbrace, h⟩ := map_eq_ok_iff.1 h
  obtain ⟨vs', rfl, hmap⟩ := membersFrom_memberList h
  exact map_eq_ok_iff.2 ⟨inner, hbrace, hmap ws hws s⟩

end Maps

/-! ## Values that are read as a whole -/

section Buffered

variable {depth : Nat} {input rest : Bytes}

/-- A value without members, which is a number of 64 bits if it is one at all. -/
def Buffered.IsScalar (v : Buffered) : Prop :=
  (∀ i, v = .count i → isCount i = true) ∧ ∀ ms, v ≠ .object ms

theorem isScalar_null : Buffered.null.IsScalar :=
  ⟨fun _ h => absurd h (by simp), fun _ => by simp⟩

theorem isScalar_other : Buffered.other.IsScalar :=
  ⟨fun _ h => absurd h (by simp), fun _ => by simp⟩

theorem isScalar_count {i : Int} (h : isCount i = true) : (Buffered.count i).IsScalar :=
  ⟨fun _ heq => Buffered.count.inj heq ▸ h, fun _ => by simp⟩

theorem isScalar_of_map {x : Except JsonFault α} {f : α → Buffered × Bytes} {v : Buffered}
    (hf : ∀ a, (f a).1.IsScalar) (h : x.map f = .ok (v, rest)) : v.IsScalar := by
  obtain ⟨a, -, heq⟩ := map_eq_ok_iff_exists.1 h
  have hv := hf a
  rwa [heq] at hv

theorem isScalar_bufferedScalar {v : Buffered} (h : bufferedScalar input = .ok (v, rest)) :
    v.IsScalar := by
  unfold bufferedScalar at h
  split at h
  · exact absurd h (by simp)
  · split at h
    · exact isScalar_of_map (fun _ => isScalar_null) h
    split at h
    · exact isScalar_of_map (fun _ => isScalar_other) h
    split at h
    · exact isScalar_of_map (fun _ => isScalar_other) h
    split at h
    · exact isScalar_of_map (fun _ => isScalar_other) h
    split at h
    · refine isScalar_of_map (fun p => ?_) h
      dsimp only
      split
      · next i hcount => exact isScalar_count (Option.filter_eq_some_iff.1 hcount).2
      · exact isScalar_other
    · exact absurd h (by simp)

/-- **A value that was read** is a scalar, or an object with the members that were read there. -/
theorem isScalar_or_memberList {v : Buffered} (h : buffered depth input = .ok (v, rest)) :
    v.IsScalar ∨ ∃ depth' inner ms, v = .object ms ∧
      memberList (buffered depth') inner = .ok (ms, rest) := by
  cases depth with
  | zero =>
    rw [buffered] at h
    split at h
    · exact absurd h (by simp)
    · exact absurd h (by simp)
    · exact Or.inl (isScalar_bufferedScalar h)
  | succ depth =>
    rw [buffered] at h
    split at h
    · exact Or.inl (isScalar_of_map (fun _ => isScalar_other) h)
    · next inner _ =>
      obtain ⟨⟨ms, behind⟩, hmembers, heq⟩ := map_eq_ok_iff_exists.1 h
      obtain ⟨rfl, rfl⟩ := Prod.mk.inj heq
      exact Or.inr ⟨depth, 0x7B :: inner, ms, rfl,
        map_eq_ok_iff.2 ⟨inner, skipBlank_brace inner, hmembers⟩⟩
    · exact Or.inl (isScalar_bufferedScalar h)

/-- A number that was read has 64 bits. -/
theorem isCount_of_buffered {i : Int} (h : buffered depth input = .ok (.count i, rest)) :
    isCount i = true := by
  rcases isScalar_or_memberList h with hscalar | ⟨_, _, _, heq, -⟩
  · exact hscalar.1 i rfl
  · exact absurd heq (by simp)

/-- Every value in an object that was read was itself read. -/
theorem exists_of_mem_buffered {ms : List (Text × Buffered)}
    (h : buffered depth input = .ok (.object ms, rest)) :
    ∀ m ∈ ms, ∃ depth' inner behind, buffered depth' inner = .ok (m.2, behind) := by
  rcases isScalar_or_memberList h with hscalar | ⟨depth', _, _, heq, hmembers⟩
  · exact absurd rfl (hscalar.2 ms)
  · obtain rfl := Buffered.object.inj heq
    exact fun m hm => ⟨depth', exists_of_mem_memberList hmembers m hm⟩

end Buffered

/-! ## Records -/

section Records

variable {P : σ → Prop} {fs : List (Field σ)} {start s' : σ} {input rest : Bytes}

theorem positions_keeps {first : Bool}
    (hread : ∀ field ∈ fs, ∀ t inner t' behind,
      P t → field.read t inner = .ok (t', behind) → P t')
    (hs : P start) (h : positions first fs start input = .ok (s', rest)) : P s' := by
  induction fs generalizing first start input with
  | nil =>
    rw [positions] at h
    split at h
    · obtain ⟨rfl, -⟩ : start = s' ∧ _ := by simpa using h
      exact hs
    · exact absurd h (by simp)
  | cons field fs ih =>
    rw [List.forall_mem_cons] at hread
    rw [positions] at h
    split at h
    · exact absurd h (by simp)
    · split at h
      · exact absurd h (by simp)
      · obtain ⟨rfl, -⟩ : start = s' ∧ _ := by simpa using h
        exact hs
    · split at h
      · exact absurd h (by simp)
      · next hfield => exact ih hread.2 (hread.1 _ _ _ _ hs hfield) h

theorem fieldMember_keeps
    (hread : ∀ field ∈ fs, ∀ t inner t' behind,
      P t → field.read t inner = .ok (t', behind) → P t')
    {name : Text} {t t' : σ × List Text} (ht : P t.1)
    (h : fieldMember fs name t input = .ok (t', rest)) : P t'.1 := by
  rw [fieldMember] at h
  split at h
  · next field hfield =>
    split at h
    · exact absurd h (by simp)
    · split at h
      · exact absurd h (by simp)
      · obtain ⟨⟨v, behind⟩, hv, heq⟩ := map_eq_ok_iff_exists.1 h
        obtain ⟨rfl, -⟩ : (v, name :: t.2) = t' ∧ _ := by simpa using heq
        exact hread field (List.mem_of_find?_eq_some hfield) _ _ _ _ ht hv
  · split at h
    · exact absurd h (by simp)
    · obtain ⟨_, -, heq⟩ := map_eq_ok_iff_exists.1 h
      obtain ⟨rfl, -⟩ : t = t' ∧ _ := by simpa using heq
      exact ht

/-- **What every field keeps** is kept by the record, in either of its forms. -/
theorem fields_keeps
    (hread : ∀ field ∈ fs, ∀ t inner t' behind,
      P t → field.read t inner = .ok (t', behind) → P t')
    (hs : P start) (h : fields fs start input = .ok (s', rest)) : P s' := by
  rw [fields] at h
  split at h
  · exact positions_keeps hread hs h
  · split at h
    · exact absurd h (by simp)
    · next hmembers =>
      split at h
      · exact absurd h (by simp)
      · obtain ⟨rfl, -⟩ : _ = s' ∧ _ := by simpa using h
        exact members_keeps (P := fun t : σ × List Text => P t.1)
          (fun _ _ _ _ _ ht hmember => fieldMember_keeps hread ht hmember) hs hmembers
  · exact absurd h (by simp)

/-- What a field does to the record. -/
theorem read_fieldOf_eq_ok {value : Reader α} {set : α → σ → σ} {name : String}
    {required : Bool} {t t' : σ}
    (h : (Field.of name required value set).read t input = .ok (t', rest)) :
    ∃ a, value input = .ok (a, rest) ∧ set a t = t' := by
  obtain ⟨⟨a, behind⟩, hvalue, heq⟩ := map_eq_ok_iff_exists.1 h
  obtain ⟨hset, rfl⟩ : set a t = t' ∧ behind = rest := by simpa using heq
  exact ⟨a, hvalue, hset⟩

end Records

end Json
end ProxySteward
