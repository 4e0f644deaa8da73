import ProxySteward.Proofs.Host.FileFrame

/-!
# Paths that are the same

Two paths are the same when their parts are, whatever empty pieces and single dots stand between the
parts.  A walk through a file tree sees such a piece too: it stays where it is, but it must be in a
directory there.  In front of another piece that asks for nothing new, since the next piece needs
the directory as well.  At the end of a path it does: a path that ends so can only lead to a
directory (`HoldsText.endsInName`).

So paths that are the same lead to the same location as long as both end in a name
(`locate_eq_of_same`), and this is the most that can be said: `/a` and `/a/` are the same path, and
only one of them can name a file.
-/

namespace ProxySteward

open Text

namespace Path

variable {p q : Path} {front name : Text}

/-- The paths whose last piece is a name, and neither empty nor a single dot. -/
def EndsInName (p : Path) : Prop := (pieces p).getLast?.any (isPart false) = true

instance : DecidablePred EndsInName := fun p =>
  inferInstanceAs (Decidable ((pieces p).getLast?.any (isPart false) = true))

theorem same_iff : same p q = true ↔ isAbsolute p = isAbsolute q ∧ parts p = parts q := by
  rw [same, Bool.and_eq_true, beq_iff_eq, beq_iff_eq]

theorem same_refl (p : Path) : same p p = true := same_iff.2 ⟨rfl, rfl⟩

theorem same_trans {r : Path} (h : same p q = true) (h' : same q r = true) : same p r = true :=
  same_iff.2 ⟨(same_iff.1 h).1.trans (same_iff.1 h').1,
    (same_iff.1 h).2.trans (same_iff.1 h').2⟩

/-- A piece that names something does so at the start of a path, too. -/
theorem isPart_of_isPart_false {piece : Text} (h : isPart false piece = true) (start : Bool) :
    isPart start piece = true := by
  rw [isPart, Bool.and_eq_true] at h ⊢
  exact ⟨h.1, by rw [Bool.false_or] at h; rw [h.2, Bool.or_true]⟩

theorem pieces_ne_nil (p : Path) : pieces p ≠ [] := List.splitOn_ne_nil _ _

/-! ## Names at the end of a path -/

theorem endsInName_of_slash (u : Text) (hslash : '/' ∉ name) (hname : isPart false name = true) :
    EndsInName (u ++ '/' :: name) := by
  have hlast : (pieces (u ++ '/' :: name)).getLast? = some name := by
    cases u with
    | nil =>
      show (name.splitOn '/').getLast? = some name
      rw [List.splitOn_eq_singleton hslash]
      rfl
    | cons c u =>
      have hpieces : ∃ v, pieces (c :: u ++ '/' :: name) = (v ++ '/' :: name).splitOn '/' := by
        rw [pieces]
        split
        · exact ⟨u, rfl⟩
        · exact ⟨c :: u, rfl⟩
      obtain ⟨v, hv⟩ := hpieces
      rw [hv, List.splitOn_append_cons_self, List.splitOn_eq_singleton hslash, List.getLast?_concat]
  rw [EndsInName, hlast]
  exact hname

/-- A name that stands alone or behind a separator. -/
theorem endsInName_append (hfront : front = [] ∨ front.getLast? = some '/')
    (hslash : '/' ∉ name) (hname : isPart false name = true) : EndsInName (front ++ name) := by
  rcases hfront with rfl | hfront
  · have habsolute : isAbsolute name = false := by
      rw [isAbsolute, beq_eq_false_iff_ne]
      exact fun h => hslash (List.mem_of_mem_head? h)
    rw [List.nil_append, EndsInName, pieces, habsolute, if_neg (by decide),
      List.splitOn_eq_singleton hslash]
    exact hname
  · obtain ⟨u, rfl⟩ := List.getLast?_eq_some_iff.1 hfront
    rw [List.append_assoc]
    exact endsInName_of_slash u hslash hname

/-- A relative path is put behind a separator. -/
theorem exists_join_eq (d : Path) (hq : isAbsolute q = false) :
    ∃ front, join d q = front ++ q ∧ (front = [] ∨ front.getLast? = some '/') := by
  rw [join, hq, Bool.false_or]
  split
  · exact ⟨[], rfl, Or.inl rfl⟩
  · split
    · next hlast => exact ⟨d, rfl, Or.inr (beq_iff_eq.1 hlast)⟩
    · exact ⟨d ++ ['/'], by simp, Or.inr List.getLast?_concat⟩

theorem endsInName_join (d : Path) (hq : isAbsolute (front ++ name) = false)
    (hfront : front = [] ∨ front.getLast? = some '/') (hslash : '/' ∉ name)
    (hname : isPart false name = true) : EndsInName (join d (front ++ name)) := by
  obtain ⟨root, hroot, hend⟩ := exists_join_eq d hq
  rw [hroot, ← List.append_assoc]
  refine endsInName_append ?_ hslash hname
  rcases hfront with rfl | hfront
  · rwa [List.append_nil]
  · rw [List.getLast?_append, hfront]
    exact Or.inr rfl

end Path

namespace FileTree

open ProxySteward.Path

variable {t : FileTree} {p q : Path} {l : Location} {piece : Text} {rest : List Text} {doc : Text}

/-! ## Pieces that name nothing -/

theorem step_of_not_isPart (h : isPart false piece = false) :
    t.step l piece = .ok l ∧ t.node? l = some .directory ∨
      ∃ f, ∀ piece, t.step l piece = .error f := by
  cases hnode : t.node? l with
  | none => exact Or.inr ⟨.notFound, fun _ => by rw [step, hnode]⟩
  | some n =>
    cases n with
    | file content mode => exact Or.inr ⟨.notDirectory, fun _ => by rw [step, hnode]⟩
    | directory =>
      refine Or.inl ⟨?_, rfl⟩
      rw [isPart, Bool.false_or, Bool.and_eq_false_iff, Bool.not_eq_false',
        bne_eq_false_iff_eq] at h
      have hidle : (piece.isEmpty || piece == ['.']) = true := by
        rw [Bool.or_eq_true, beq_iff_eq]
        exact h
      rw [step, hnode, if_pos hidle]

/-- In front of another piece, a piece that names nothing may be left out. -/
theorem foldlM_step_cons (h : isPart false piece = false) (hrest : rest ≠ []) :
    (piece :: rest).foldlM t.step l = rest.foldlM t.step l := by
  rcases step_of_not_isPart h with ⟨hstep, -⟩ | ⟨f, hfault⟩
  · rw [List.foldlM_cons, hstep]
    rfl
  · obtain ⟨next, rest, rfl⟩ := List.exists_cons_of_ne_nil hrest
    rw [List.foldlM_cons, List.foldlM_cons, hfault, hfault]
    rfl

theorem foldlM_step_filter (h : rest.getLast?.any (isPart false) = true) :
    rest.foldlM t.step l = (rest.filter (isPart false)).foldlM t.step l := by
  induction rest generalizing l with
  | nil => rfl
  | cons piece rest ih =>
    by_cases hrest : rest = []
    · subst hrest
      have hpiece : isPart false piece = true := h
      rw [List.filter_cons_of_pos hpiece, List.filter_nil]
    · have hlast : rest.getLast?.any (isPart false) = true := by
        rwa [List.getLast?_cons_of_ne_nil hrest] at h
      cases hpiece : isPart false piece with
      | false =>
        rw [List.filter_cons_of_neg (by simp [hpiece]), foldlM_step_cons hpiece hrest, ih hlast]
      | true =>
        rw [List.filter_cons_of_pos hpiece, List.foldlM_cons, List.foldlM_cons]
        exact congrArg _ (funext fun x => ih hlast)

/-- Only the parts of a path count for where it leads, if its last piece is one of them. -/
theorem locate_eq_of_endsInName (h : EndsInName p) :
    t.locate p = (parts p).foldlM t.step (if isAbsolute p then [] else t.workingDirectory) := by
  have hp : p.isEmpty = false := by
    cases p with
    | nil => exact absurd h (by decide)
    | cons c p => rfl
  obtain ⟨piece, rest, hpieces⟩ := List.exists_cons_of_ne_nil (pieces_ne_nil p)
  rw [EndsInName, hpieces] at h
  rw [locate, hp, if_neg (by decide), parts, hpieces]
  by_cases hrest : rest = []
  · subst hrest
    have hpart : isPart (!isAbsolute p) piece = true := isPart_of_isPart_false h _
    simp only [List.filter_cons_of_pos hpart, List.filter_nil, List.append_nil]
  · rw [List.getLast?_cons_of_ne_nil hrest] at h
    cases hpiece : isPart (!isAbsolute p) piece with
    | true =>
      simp only [List.filter_cons_of_pos hpiece, List.filter_nil, List.singleton_append,
        List.foldlM_cons]
      exact congrArg _ (funext fun x => foldlM_step_filter h)
    | false =>
      have hidle : isPart false piece = false := by
        rw [Bool.eq_false_iff]
        exact fun htrue => by simp [isPart_of_isPart_false htrue] at hpiece
      simp only [List.filter_cons_of_neg (Bool.eq_false_iff.1 hpiece), List.filter_nil,
        List.nil_append]
      rw [foldlM_step_cons hidle hrest, foldlM_step_filter h]

/-- **Paths that are the same** and end in a name lead to the same location. -/
theorem locate_eq_of_same (h : same p q = true) (hp : EndsInName p) (hq : EndsInName q) :
    t.locate p = t.locate q := by
  rw [locate_eq_of_endsInName hp, locate_eq_of_endsInName hq, (same_iff.1 h).1, (same_iff.1 h).2]

/-! ## Files -/

/-- A path with another end leads to a directory, if it leads anywhere. -/
theorem node?_of_locate (h : ¬ EndsInName p) (hl : t.locate p = .ok l) :
    t.node? l = some .directory := by
  rw [locate] at hl
  split at hl
  · exact absurd hl (by simp)
  · obtain ⟨init, last, hsplit⟩ :=
      (List.eq_nil_or_concat (pieces p)).resolve_left (pieces_ne_nil p)
    have hidle : isPart false last = false := by
      rw [EndsInName, hsplit, List.concat_eq_append, List.getLast?_concat] at h
      simpa using h
    rw [hsplit, List.concat_eq_append, List.foldlM_append] at hl
    cases hinit : init.foldlM t.step (if isAbsolute p then [] else t.workingDirectory) with
    | error f =>
      rw [hinit] at hl
      exact absurd hl (by simp [bind, Except.bind])
    | ok x =>
      rw [hinit] at hl
      rcases step_of_not_isPart (t := t) (l := x) hidle with ⟨hstay, hdir⟩ | ⟨f, hfault⟩
      · have hx : x = l := by
          simpa [bind, Except.bind, List.foldlM_cons, pure, Except.pure, hstay] using hl
        rwa [hx] at hdir
      · exact absurd hl (by simp [bind, Except.bind, List.foldlM_cons, hfault])

/-- A path that has a text ends in a name. -/
theorem HoldsText.endsInName {content : Bytes} {mode : Nat} (h : HoldsText t p doc l content mode) :
    EndsInName p := by
  refine Decidable.byContradiction fun hname => ?_
  exact h.not_directory (node?_of_locate hname h.leads)

end FileTree
end ProxySteward
