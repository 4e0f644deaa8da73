import ProxySteward.Proofs.Config.Extraction

/-!
# A comment behind a line

The two scanners treat a comment at the end of a line differently.  The value of the port is cut at
a comment, so the port does not change when a comment is put behind any line
(`portValue?_annotated`).  The rules for the management section compare and take whole lines: a
header with a comment is no header, only a line at top level, and the value of the secret is the
rest of its line.

So the secret stays when the comment stands behind the port or behind a secret that does not count.
Behind the header it closes the section: the secret is then looked for in front of the header and
behind the section (`port?_and_secret?_annotated`).
-/

namespace ProxySteward
namespace ConfigDocument

open Text KeySection

variable {doc line lineEnd value text rest : Text} {before after : List Text} {inside : Bool}

/-- A line of a document, with the rows before and after it and the carriage return that its line
end may have. -/
structure IsLineOf (doc : Text) (before : List Text) (line lineEnd : Text) (after : List Text) :
    Prop where
  rows_eq : rows doc = before ++ (line ++ lineEnd) :: after
  lineEnd_eq : lineEnd = [] ∨ lineEnd = ['\r']

/-- The document with a comment behind one of its lines. -/
def annotated (before : List Text) (line lineEnd text : Text) (after : List Text) : Text :=
  joinRows (before ++ (line ++ ' ' :: '#' :: (text ++ lineEnd)) :: after)

theorem IsLineOf.isBlank_of_mem (h : IsLineOf doc before line lineEnd after) :
    ∀ c ∈ lineEnd, isBlank c = true := by
  intro c hc
  rcases h.lineEnd_eq with rfl | rfl
  · exact absurd hc List.not_mem_nil
  · rw [List.mem_singleton.1 hc]
    rfl

theorem IsLineOf.newline_not_mem (h : IsLineOf doc before line lineEnd after) :
    ∀ row ∈ before ++ (line ++ lineEnd) :: after, '\n' ∉ row :=
  h.rows_eq ▸ newline_not_mem_of_mem_rows

/-- A comment of one line changes one row. -/
theorem IsLineOf.rows_annotated (h : IsLineOf doc before line lineEnd after)
    (htext : '\n' ∉ text) :
    rows (annotated before line lineEnd text after) =
      before ++ (line ++ ' ' :: '#' :: (text ++ lineEnd)) :: after := by
  refine rows_joinRows (fun row hrow => ?_) (by simp)
  have hold := h.newline_not_mem
  rcases List.mem_append.1 hrow with hrow | hrow
  · exact hold row (List.mem_append_left _ hrow)
  · rcases List.mem_cons.1 hrow with rfl | hrow
    · have hline := hold (line ++ lineEnd) (by simp)
      rw [List.mem_append, not_or] at hline
      simp [hline.1, hline.2, htext]
    · exact hold row (List.mem_append_right _ (List.mem_cons_of_mem _ hrow))

/-! ## The port -/

/-- What a text starts with, it starts with without its end, if the end starts differently. -/
theorem prefix_of_prefix_append {front t back : Text} (h : front <+: t ++ back)
    (hback : ∀ c ∈ back.head?, c ∉ front) : front <+: t := by
  obtain ⟨rest, hrest⟩ := h
  rcases List.append_eq_append_iff.1 hrest with ⟨mid, hmid, -⟩ | ⟨mid, rfl, hmid⟩
  · exact ⟨mid, hmid.symm⟩
  · cases mid with
    | nil => rw [List.append_nil]
    | cons c mid => exact absurd (by simp) (hback c (by rw [hmid]; rfl))

theorem portValue?_append_eq_none {back : Text} (h : ¬ portFront <+: line)
    (hback : ∀ c ∈ back.head?, c ∉ portFront) : portValue? (line ++ back) = none :=
  portValue?_eq_none fun rest hrest => h (prefix_of_prefix_append ⟨rest, hrest.symm⟩ hback)

theorem portValue?_front (value : Text) : portValue? (portFront ++ value) = some (trim value) := by
  rw [portValue?, dropFront?_append]
  rfl

/-- The port that the first row gives. -/
def portOfRows (rs : List Text) : Option Nat :=
  (rs.findSome? portValue?).bind fun value => readBounded? 65535 (withoutComment value)

/-- **The port stays**, whatever line the comment stands behind. -/
theorem IsLineOf.portOfRows_annotated (h : IsLineOf doc before line lineEnd after)
    (hline : '#' ∉ line) :
    portOfRows (before ++ (line ++ ' ' :: '#' :: (text ++ lineEnd)) :: after) =
      portOfRows (before ++ (line ++ lineEnd) :: after) := by
  rw [portOfRows, portOfRows, List.findSome?_append, List.findSome?_append, List.findSome?_cons,
    List.findSome?_cons]
  by_cases hport : portFront <+: line
  · obtain ⟨value, rfl⟩ := hport
    have hvalue : '#' ∉ value := fun hmem => hline (List.mem_append_right _ hmem)
    rw [List.append_assoc, List.append_assoc, portValue?_front, portValue?_front,
      trim_append_blanks h.isBlank_of_mem]
    cases before.findSome? portValue? with
    | some found => rfl
    | none => exact readBounded?_withoutComment_append hvalue 65535 (text ++ lineEnd)
  · have hend : ∀ c ∈ lineEnd.head?, c ∉ portFront := by
      intro c hc
      rcases h.lineEnd_eq with rfl | rfl
      · exact absurd hc (by simp)
      · cases hc
        decide
    have hcomment : ∀ c ∈ (' ' :: '#' :: (text ++ lineEnd)).head?, c ∉ portFront := by
      intro c hc
      cases hc
      decide
    rw [portValue?_append_eq_none hport hend, portValue?_append_eq_none hport hcomment]

/-! ## The secret -/

/-- A line at top level decides alone whether the scanner is inside behind it. -/
theorem secretFrom?_of_isTopLevel (h : IsTopLevel line) (inside : Bool) (after : List Text) :
    secretFrom? inside (line :: after) = secretFrom? (trim line == managementHeader) after := by
  rw [secretFrom?, h.1, h.2.1, h.2.2]
  rfl

/-- Outside of the section, a line that can belong to it is passed over. -/
theorem secretFrom?_false_of_not_isTopLevel (h : ¬ IsTopLevel line) (after : List Text) :
    secretFrom? false (line :: after) = secretFrom? false after := by
  have hline : ∀ row ∈ [line], belongs row = true := fun row hrow => by
    rw [List.mem_singleton.1 hrow]
    exact not_isTopLevel_iff.1 h
  rw [← List.singleton_append, secretFrom?_append, secretFrom?_false_of_belongs hline,
    insideAfter_of_belongs hline, Option.none_or]

theorem isIndented_append (h : trim line ≠ []) (back : Text) :
    isIndented (line ++ back) = isIndented line := by
  cases line with
  | nil => exact absurd rfl h
  | cons c line => rfl

theorem isBlankRow_comment (h : trim line ≠ []) (text : Text) :
    isBlankRow (line ++ ' ' :: '#' :: text) = false := by
  rw [isBlankRow, trim_append_comment h, List.isEmpty_eq_false_iff]
  simp

theorem isComment_comment (h : trim line ≠ []) (text : Text) :
    isComment (line ++ ' ' :: '#' :: text) = isComment line := by
  obtain ⟨c, mid, hmid, hc⟩ := exists_trimStart_eq_cons h
  rw [isComment, isComment, trim_append_comment h, trim, hmid, trimEnd_cons hc]
  rfl

theorem IsTopLevel.trim_ne_nil (h : IsTopLevel line) : trim line ≠ [] := by
  have hblank := h.2.1
  rwa [isBlankRow, List.isEmpty_eq_false_iff] at hblank

/-- A line at top level stays there with a comment behind it, but it is no header. -/
theorem isTopLevel_comment (h : IsTopLevel line) (text : Text) :
    IsTopLevel (line ++ ' ' :: '#' :: text) ∧
      (trim (line ++ ' ' :: '#' :: text) == managementHeader) = false := by
  have hline := h.trim_ne_nil
  refine ⟨⟨?_, isBlankRow_comment hline text, ?_⟩, ?_⟩
  · rw [isIndented_append hline, h.1]
  · rw [isComment_comment hline, h.2.2]
  · rw [trim_append_comment hline, beq_eq_false_iff_ne]
    intro heq
    have hmem : '#' ∈ managementHeader := heq ▸ List.mem_append_right _ (by simp)
    exact absurd hmem (by decide)

/-- The carriage return of its line end changes nothing about a line. -/
theorem IsLineOf.isTopLevel_iff (h : IsLineOf doc before line lineEnd after)
    (hline : trim line ≠ []) : IsTopLevel (line ++ lineEnd) ↔ IsTopLevel line := by
  rw [IsTopLevel, IsTopLevel, isIndented_append hline, isBlankRow, isBlankRow, isComment, isComment,
    trim_append_blanks h.isBlank_of_mem]

theorem isTopLevel_of_front (h : portFront <+: line) :
    IsTopLevel line ∧ (trim line == managementHeader) = false := by
  obtain ⟨value, rfl⟩ := h
  have htrim : trim (portFront ++ value) = 'p' :: trimEnd (['o', 'r', 't', ':'] ++ value) :=
    trim_cons (by decide) _
  refine ⟨⟨rfl, ?_, ?_⟩, ?_⟩
  · rw [isBlankRow, htrim]
    rfl
  · rw [isComment, htrim]
    rfl
  · rw [htrim, beq_eq_false_iff_ne]
    exact fun heq => absurd (List.cons.inj heq).1 (by decide)

theorem isTopLevel_of_header (hin : isIndented line = false)
    (hline : trim line = managementHeader) : IsTopLevel line := by
  refine ⟨hin, ?_, ?_⟩
  · rw [isBlankRow, hline]
    rfl
  · rw [isComment, hline]
    rfl

/-- The secret of a document, read up to one row and from there on. -/
theorem secretFrom?_at_row (before after : List Text) (row : Text) :
    secretFrom? false (before ++ row :: after) =
      (secretFrom? false before).or (secretFrom? (insideAfter false before) (row :: after)) :=
  secretFrom?_append false before (row :: after)

/-- Behind a line at top level, the secret is looked for outside of the management section if the
line has a comment. -/
theorem IsLineOf.secret?_annotated (h : IsLineOf doc before line lineEnd after)
    (htext : '\n' ∉ text) (htop : IsTopLevel line) :
    secret? (annotated before line lineEnd text after) =
      (secretFrom? false before).or (secretFrom? false after) := by
  obtain ⟨htop', hheader'⟩ := isTopLevel_comment htop (text ++ lineEnd)
  rw [secret?_eq, h.rows_annotated htext, secretFrom?_at_row, secretFrom?_of_isTopLevel htop',
    hheader']

/-- Without the comment, it is looked for inside of the section if the line is the header. -/
theorem IsLineOf.secret?_eq_of_isTopLevel (h : IsLineOf doc before line lineEnd after)
    (htop : IsTopLevel line) :
    secret? doc =
      (secretFrom? false before).or (secretFrom? (trim line == managementHeader) after) := by
  have htopEnd := (h.isTopLevel_iff htop.trim_ne_nil).2 htop
  rw [secret?_eq, h.rows_eq, secretFrom?_at_row, secretFrom?_of_isTopLevel htopEnd,
    trim_append_blanks h.isBlank_of_mem]

/-- A comment behind an indented line changes no secret that is read from another line. -/
theorem IsLineOf.secret?_annotated_of_isIndented (h : IsLineOf doc before line lineEnd after)
    (htext : '\n' ∉ text) (hin : isIndented line = true) (hline : trim line ≠ [])
    (hother : ¬ (secretFrom? false before = none ∧ EndsInSection before)) :
    secret? (annotated before line lineEnd text after) = secret? doc := by
  have hlow : ∀ back, ¬ IsTopLevel (line ++ back) := fun back htop => by
    rw [IsTopLevel, isIndented_append hline, hin] at htop
    exact absurd htop.1 (by decide)
  rw [secret?_eq, secret?_eq, h.rows_annotated htext, h.rows_eq, secretFrom?_at_row,
    secretFrom?_at_row]
  cases hbefore : secretFrom? false before with
  | some secret => rfl
  | none =>
    have hoff : insideAfter false before = false := by
      rw [Bool.eq_false_iff, Ne, insideAfter_false_eq_true_iff]
      exact fun hsection => hother ⟨hbefore, hsection⟩
    rw [hoff, secretFrom?_false_of_not_isTopLevel (hlow _),
      secretFrom?_false_of_not_isTopLevel (hlow _)]

/-! ## Both -/

/-- **A comment behind a line** without a number sign.  The port stays.  So does the secret if the
line gives a port, or is indented and is not the line that gives the secret.  Behind the header of
the management section the comment closes it, and the secret is the one in front of it or behind the
section. -/
theorem port?_and_secret?_annotated (h : IsLineOf doc before line lineEnd after)
    (hline : '#' ∉ line) (htext : '\n' ∉ text) :
    port? (annotated before line lineEnd text after) = port? doc ∧
    (portFront <+: line → secret? (annotated before line lineEnd text after) = secret? doc) ∧
    (isIndented line = false → trim line = managementHeader →
      secret? (annotated before line lineEnd text after) =
        (secretFrom? false before).or (secretFrom? false after) ∧
      (secret? (annotated before line lineEnd text after) = secret? doc ↔
        (secretFrom? false before).isSome = true ∨
          secretFrom? true after = secretFrom? false after)) ∧
    (isIndented line = true → secretFront <+: trim line →
      ¬ (secretFrom? false before = none ∧ EndsInSection before) →
      secret? (annotated before line lineEnd text after) = secret? doc) := by
  refine ⟨?_, ?_, ?_, ?_⟩
  · rw [port?_eq, port?_eq, h.rows_annotated htext, h.rows_eq]
    exact h.portOfRows_annotated hline
  · intro hport
    obtain ⟨htop, hheader⟩ := isTopLevel_of_front hport
    rw [h.secret?_annotated htext htop, h.secret?_eq_of_isTopLevel htop, hheader]
  · intro hin htrim
    have htop := isTopLevel_of_header hin htrim
    refine ⟨h.secret?_annotated htext htop, ?_⟩
    rw [h.secret?_annotated htext htop, h.secret?_eq_of_isTopLevel htop, htrim, BEq.rfl]
    cases secretFrom? false before with
    | some secret => simp
    | none => simp [eq_comm]
  · intro hin hfront hother
    refine h.secret?_annotated_of_isIndented htext hin (fun hnil => ?_) hother
    rw [hnil, List.prefix_nil] at hfront
    exact absurd hfront (by decide)

/-- A comment behind the port, in front of the management section. -/
theorem port?_and_secret?_annotated_port :
    let doc := "port: 80\r\nremote-management:\r\n  secret-key: s\r\n".toList
    let after := ["remote-management:\r", "  secret-key: s\r", ""].map String.toList
    let new := annotated [] "port: 80".toList "\r".toList " \"9\" # port: 9".toList after
    new = "port: 80 # \"9\" # port: 9\r\nremote-management:\r\n  secret-key: s\r\n".toList ∧
      port? new = port? doc ∧ secret? new = secret? doc := by
  intro doc after new
  have h : IsLineOf doc [] "port: 80".toList "\r".toList after := ⟨by decide, Or.inr rfl⟩
  have htext : '\n' ∉ " \"9\" # port: 9".toList := by decide
  obtain ⟨hport, hsecret, -⟩ := port?_and_secret?_annotated h (by decide) htext
  exact ⟨by decide, hport, hsecret (by decide)⟩

/-- A comment behind the header loses the secret, and one behind the secret becomes a part of it. -/
theorem secret?_annotated_ne :
    let doc := "remote-management:\n  secret-key: \"s\"\n".toList
    secret? doc = some "s".toList ∧
    secret? (annotated [] "remote-management:".toList [] " c".toList
      ["  secret-key: \"s\"".toList, []]) = none ∧
    secret? (annotated ["remote-management:".toList] "  secret-key: \"s\"".toList []
      " c".toList [[]]) = some "s\" # c".toList := by
  decide

end ConfigDocument
end ProxySteward
