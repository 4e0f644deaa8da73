import ProxySteward.Proofs.Config.DocumentFrame

/-!
# Where port and secret stand in a document

`ConfigDocument.secret?` runs over the lines with a flag.  What the flag means can be said without
the run: the scanner is inside of the management section exactly when the nearest top-level line
behind it is the header of that section (`insideAfter_false_eq_true_iff`).  This is the invariant of
the loop, and with it the secret is found on the first line that stands in the section, is indented,
and names it (`IsSecretLine`); blank lines and comments in between do not matter.

The port has no section, so its line is the first one that starts with `port:`.  What has to be
shown there is that a number is read back from its digits (`readBounded?_ofNat`), and that the
comment behind it is cut off and nothing else: `readBounded?_withoutComment_append` says so for
every value without a number sign.
-/

namespace ProxySteward
namespace ConfigDocument

open Text KeySection

variable {doc line rest value text secret : Text} {before after : List Text} {inside : Bool}

/-! ## The management section -/

/-- A line at top level: neither indented nor blank nor a comment. -/
def IsTopLevel (line : Text) : Prop :=
  isIndented line = false ∧ isBlankRow line = false ∧ isComment line = false

instance : DecidablePred IsTopLevel := fun line =>
  inferInstanceAs (Decidable (isIndented line = false ∧ isBlankRow line = false ∧
    isComment line = false))

theorem isTopLevel_iff : IsTopLevel line ↔ belongs line = false := by
  rw [belongs, Bool.or_eq_false_iff, Bool.or_eq_false_iff, and_assoc, IsTopLevel]

theorem not_isTopLevel_iff : ¬ IsTopLevel line ↔ belongs line = true := by
  rw [isTopLevel_iff, Bool.not_eq_false]

/-- The lines that end inside of the management section: the last top-level line among them is its
header. -/
def EndsInSection (before : List Text) : Prop :=
  ∃ front header between, before = front ++ header :: between ∧ IsTopLevel header ∧
    trim header = managementHeader ∧ ∀ line ∈ between, ¬ IsTopLevel line

theorem not_endsInSection_nil : ¬ EndsInSection [] := by
  rintro ⟨front, header, between, h, -⟩
  exact absurd h (by simp)

theorem endsInSection_concat_of_isTopLevel (h : IsTopLevel line) :
    EndsInSection (before ++ [line]) ↔ trim line = managementHeader := by
  constructor
  · rintro ⟨front, header, between, hsplit, -, hheader, hbetween⟩
    rcases List.eq_nil_or_concat between with rfl | ⟨between, last, rfl⟩
    · obtain ⟨-, rfl⟩ := List.append_singleton_inj.1 hsplit
      exact hheader
    · rw [List.concat_eq_append, ← List.cons_append, ← List.append_assoc] at hsplit
      obtain ⟨-, rfl⟩ := List.append_singleton_inj.1 hsplit
      exact absurd h (hbetween line (by simp))
  · intro hline
    exact ⟨before, line, [], rfl, h, hline, fun _ hl => absurd hl List.not_mem_nil⟩

theorem endsInSection_concat_of_not_isTopLevel (h : ¬ IsTopLevel line) :
    EndsInSection (before ++ [line]) ↔ EndsInSection before := by
  constructor
  · rintro ⟨front, header, between, hsplit, htop, hheader, hbetween⟩
    rcases List.eq_nil_or_concat between with rfl | ⟨between, last, rfl⟩
    · obtain ⟨-, rfl⟩ := List.append_singleton_inj.1 hsplit
      exact absurd htop h
    · rw [List.concat_eq_append, ← List.cons_append, ← List.append_assoc] at hsplit
      obtain ⟨rfl, -⟩ := List.append_singleton_inj.1 hsplit
      exact ⟨front, header, between, rfl, htop, hheader, fun l hl => hbetween l (by simp [hl])⟩
  · rintro ⟨front, header, between, rfl, htop, hheader, hbetween⟩
    refine ⟨front, header, between ++ [line], by simp, htop, hheader, fun l hl => ?_⟩
    rcases List.mem_append.1 hl with hl | hl
    · exact hbetween l hl
    · rwa [List.mem_singleton.1 hl]

/-- **What the flag means**: inside of the section is where the nearest top-level line is the
header. -/
theorem insideAfter_false_eq_true_iff :
    insideAfter false before = true ↔ EndsInSection before := by
  induction before using List.reverseRecOn with
  | nil => simpa [insideAfter] using not_endsInSection_nil
  | append_singleton before line ih =>
    rw [insideAfter_append, insideAfter, insideAfter]
    by_cases h : IsTopLevel line
    · rw [isTopLevel_iff.1 h, endsInSection_concat_of_isTopLevel h]
      simp
    · rw [if_pos (not_isTopLevel_iff.1 h), endsInSection_concat_of_not_isTopLevel h, ih]

/-! ## The line of the secret -/

/-- A line that gives the secret, behind the lines `before`; `rest` is what it says. -/
structure IsSecretLine (before : List Text) (line rest : Text) : Prop where
  indented : isIndented line = true
  no_comment : isComment line = false
  gives : trim line = secretFront ++ rest
  in_section : EndsInSection before

theorem isBlankRow_of_gives (h : trim line = secretFront ++ rest) : isBlankRow line = false := by
  rw [isBlankRow, h]
  rfl

/-- What the scanner reads from one line. -/
theorem secretFrom?_singleton_eq_some_iff :
    secretFrom? inside [line] = some secret ↔
      inside = true ∧ isIndented line = true ∧ isComment line = false ∧
        ∃ rest, trim line = secretFront ++ rest ∧ secret = KeyRow.unquote (trim rest) := by
  constructor
  · intro h
    rw [secretFrom?] at h
    split at h
    · exact absurd h (by simp [secretFrom?])
    · next hskip =>
      split at h
      · next hin =>
        cases inside with
        | false => exact absurd h (by simp [secretFrom?])
        | true =>
          rw [if_pos rfl] at h
          split at h
          · next rest hrest =>
            have hcomment : isComment line = false :=
              Bool.eq_false_iff.2 fun hc => hskip (by rw [hc, Bool.or_true])
            exact ⟨rfl, hin, hcomment, rest, dropFront?_eq_some.1 hrest,
              (Option.some.inj h).symm⟩
          · exact absurd h (by simp [secretFrom?])
      · exact absurd h (by simp [secretFrom?])
  · rintro ⟨rfl, hin, hcomment, rest, hrest, rfl⟩
    rw [secretFrom?, isBlankRow_of_gives hrest, hcomment, hin, hrest, if_pos rfl, dropFront?_append]
    rfl

/-- The line on which a run of the scanner ends. -/
theorem secretFrom?_eq_some_iff {ls : List Text} :
    secretFrom? inside ls = some secret ↔ ∃ before line after, ls = before ++ line :: after ∧
      secretFrom? inside before = none ∧
      secretFrom? (insideAfter inside before) [line] = some secret := by
  constructor
  · intro h
    induction ls using List.reverseRecOn with
    | nil => exact absurd h (by simp [secretFrom?])
    | append_singleton ls last ih =>
      cases hls : secretFrom? inside ls with
      | none =>
        rw [secretFrom?_append, hls, Option.none_or] at h
        exact ⟨ls, last, [], rfl, hls, h⟩
      | some found =>
        rw [secretFrom?_append, hls, Option.some_or] at h
        obtain ⟨before, line, after, rfl, hbefore, hline⟩ := ih (hls.trans h)
        exact ⟨before, line, after ++ [last], by simp, hbefore, hline⟩
  · rintro ⟨before, line, after, rfl, hbefore, hline⟩
    rw [secretFrom?_append, hbefore, Option.none_or, ← List.singleton_append, secretFrom?_append,
      hline, Option.some_or]

theorem secretFrom?_singleton_iff_isSecretLine :
    secretFrom? (insideAfter false before) [line] = some secret ↔
      ∃ rest, IsSecretLine before line rest ∧ secret = KeyRow.unquote (trim rest) := by
  rw [secretFrom?_singleton_eq_some_iff, insideAfter_false_eq_true_iff]
  constructor
  · rintro ⟨hsection, hin, hcomment, rest, hrest, hsecret⟩
    exact ⟨rest, ⟨hin, hcomment, hrest, hsection⟩, hsecret⟩
  · rintro ⟨rest, h, hsecret⟩
    exact ⟨h.in_section, h.indented, h.no_comment, rest, h.gives, hsecret⟩

/-- No secret is found exactly if no line gives one. -/
theorem secretFrom?_false_eq_none_iff :
    secretFrom? false before = none ↔
      ∀ front line behind rest,
        before = front ++ line :: behind → ¬ IsSecretLine front line rest := by
  constructor
  · intro h front line behind rest hsplit hline
    -- what the line gives can only be hidden by an earlier secret
    have hgives := secretFrom?_singleton_iff_isSecretLine.2 ⟨rest, hline, rfl⟩
    rw [hsplit, secretFrom?_append, ← List.singleton_append, secretFrom?_append, hgives,
      Option.or_eq_none_iff] at h
    exact absurd h.2 (by simp)
  · intro h
    rw [Option.eq_none_iff_forall_ne_some]
    intro secret hsecret
    obtain ⟨front, line, behind, hsplit, -, hline⟩ := secretFrom?_eq_some_iff.1 hsecret
    obtain ⟨rest, hline, -⟩ := secretFrom?_singleton_iff_isSecretLine.1 hline
    exact h front line behind rest hsplit hline

/-- The secret is what the first line says that gives one. -/
theorem secret?_eq_some_iff :
    secret? doc = some secret ↔
      ∃ before line after rest, lines doc = before ++ line :: after ∧
        IsSecretLine before line rest ∧
        (∀ front earlier behind other, before = front ++ earlier :: behind →
          ¬ IsSecretLine front earlier other) ∧
        secret = KeyRow.unquote (trim rest) := by
  rw [secret?, secretFrom?_eq_some_iff]
  constructor
  · rintro ⟨before, line, after, hdoc, hbefore, hline⟩
    obtain ⟨rest, hline, hsecret⟩ := secretFrom?_singleton_iff_isSecretLine.1 hline
    exact ⟨before, line, after, rest, hdoc, hline, secretFrom?_false_eq_none_iff.1 hbefore,
      hsecret⟩
  · rintro ⟨before, line, after, rest, hdoc, hline, hfirst, hsecret⟩
    exact ⟨before, line, after, hdoc, secretFrom?_false_eq_none_iff.2 hfirst,
      secretFrom?_singleton_iff_isSecretLine.2 ⟨rest, hline, hsecret⟩⟩

theorem isSome_secret?_iff :
    (secret? doc).isSome = true ↔
      ∃ before line after rest,
        lines doc = before ++ line :: after ∧ IsSecretLine before line rest := by
  rw [← Option.ne_none_iff_isSome, Ne, secret?, secretFrom?_false_eq_none_iff]
  push Not
  constructor
  · rintro ⟨before, line, after, rest, hdoc, hline⟩
    exact ⟨before, line, after, rest, hdoc, hline⟩
  · rintro ⟨before, line, after, rest, hdoc, hline⟩
    exact ⟨before, line, after, rest, hdoc, hline⟩

/-! ## Numbers and comments -/

theorem readDigits?_of_isDigit {digits : Text} (h : ∀ c ∈ digits, c.isDigit = true) (n : Nat) :
    readDigits? n digits = some (Nat.ofDigitChars 10 digits n) := by
  induction digits generalizing n with
  | nil => rfl
  | cons c digits ih =>
    have hc : digit? c = some (c.toNat - '0'.toNat) := if_pos (h c List.mem_cons_self)
    rw [readDigits?, hc, Nat.ofDigitChars_cons]
    exact ih (fun d hd => h d (List.mem_cons_of_mem c hd)) _

theorem isDigit_of_mem_ofNat {n : Nat} {c : Char} (h : c ∈ ofNat n) : c.isDigit = true :=
  Nat.isDigit_of_mem_toDigits (by decide) (by decide) h

/-- A number up to the bound is read back from its digits. -/
theorem readBounded?_ofNat {n bound : Nat} (h : n ≤ bound) :
    readBounded? bound (ofNat n) = some n := by
  obtain ⟨c, digits, hdigits⟩ :=
    List.exists_cons_of_ne_nil (Nat.toDigits_ne_nil (n := n) (b := 10))
  have hofNat : ofNat n = c :: digits := hdigits
  have hdigit : ∀ d ∈ c :: digits, d.isDigit = true := fun d hd =>
    isDigit_of_mem_ofNat (n := n) (hofNat ▸ hd)
  have hplus : c ≠ '+' := by
    rintro rfl
    exact absurd (hdigit '+' List.mem_cons_self) (by decide)
  have hread : readNat? (c :: digits) = some n := by
    rw [readNat?, readDigits?_of_isDigit hdigit, ← hdigits,
      Nat.ofDigitChars_toDigits (by decide) (by decide)]
  rw [hofNat, readBounded?, hread, Option.filter_some, if_pos (by simpa using h)]
  exact fun _ heq => hplus (List.cons.inj heq).1

theorem isBlank_eq_false_of_isDigit {c : Char} (h : c.isDigit = true) : isBlank c = false := by
  have hrange : 48 ≤ c.toNat ∧ c.toNat ≤ 57 := Char.isDigit_iff_toNat.1 h
  simp only [isBlank, Bool.or_eq_false_iff, Bool.and_eq_false_iff, decide_eq_false_iff_not,
    beq_eq_false_iff_ne]
  omega

theorem cut?_comment (h : '#' ∉ value) (text : Text) :
    cut? " #".toList (value ++ ' ' :: '#' :: text) = some (value, text) := by
  induction value with
  | nil => rfl
  | cons c value ih =>
    rw [List.mem_cons, not_or] at h
    have hno : dropFront? " #".toList (c :: value ++ ' ' :: '#' :: text) = none := by
      rw [Option.eq_none_iff_forall_ne_some]
      intro rest hrest
      -- the character behind `c` is no number sign, whether or not the value goes on
      have heq : c :: value ++ ' ' :: '#' :: text = ' ' :: '#' :: rest := dropFront?_eq_some.1 hrest
      cases value with
      | nil => exact absurd (List.cons.inj (List.cons.inj heq).2).1 (by decide)
      | cons d value =>
        exact h.2 (by rw [(List.cons.inj (List.cons.inj heq).2).1]; exact List.mem_cons_self)
    rw [List.cons_append, cut?, ← List.cons_append, hno, ih h.2]
    rfl

theorem withoutComment_of_not_mem (h : '#' ∉ value) : withoutComment value = value := by
  have hno : cut? " #".toList value = none := by
    rw [← Option.not_isSome_iff_eq_none]
    intro hsome
    exact h ((holds_iff.1 hsome).subset (by decide))
  rw [withoutComment, hno]

theorem trim_append_comment (h : trim value ≠ []) (text : Text) :
    trim (value ++ ' ' :: '#' :: text) = trimStart value ++ ' ' :: '#' :: trimEnd text := by
  have htrim := trim_append_cons (d := '#') h (by decide) [' '] text
  rwa [List.append_assoc, List.append_assoc, List.singleton_append, List.singleton_append] at htrim

/-- A value in front of a comment, unless nothing but blanks stands there. -/
theorem withoutComment_trim_append (h : '#' ∉ value) (hvalue : trim value ≠ []) (text : Text) :
    withoutComment (trim (value ++ ' ' :: '#' :: text)) = trim value := by
  have hno : '#' ∉ trimStart value := fun hmem => h (mem_of_mem_trimStart hmem)
  rw [trim_append_comment hvalue, withoutComment, cut?_comment hno, trim]

theorem exists_withoutComment_eq_cons (text : Text) :
    ∃ front, withoutComment ('#' :: text) = '#' :: front := by
  rw [withoutComment, cut?, show dropFront? " #".toList ('#' :: text) = none from rfl]
  cases cut? " #".toList text with
  | none => exact ⟨text, rfl⟩
  | some cut => exact ⟨trimEnd cut.1, trimEnd_cons (by decide) cut.1⟩

/-- **A comment changes no number**: what is read behind the front of a line stays the same, a
number or not. -/
theorem readBounded?_withoutComment_append (h : '#' ∉ value) (bound : Nat) (text : Text) :
    readBounded? bound (withoutComment (trim (value ++ ' ' :: '#' :: text))) =
      readBounded? bound (withoutComment (trim value)) := by
  by_cases hvalue : trim value = []
  · -- nothing stands in front of the comment, so the number sign is read and is no digit
    have hblank : ∀ c ∈ value ++ [' '], isBlank c = true := by
      intro c hc
      rcases List.mem_append.1 hc with hc | hc
      · exact trim_eq_nil_iff.1 hvalue c hc
      · rw [List.mem_singleton.1 hc]
        rfl
    have htrim : trim (value ++ ' ' :: '#' :: text) = '#' :: trimEnd text := by
      rw [← List.singleton_append, ← List.append_assoc, trim_blanks_append hblank,
        trim_cons (by decide)]
    obtain ⟨front, hfront⟩ := exists_withoutComment_eq_cons (trimEnd text)
    rw [hvalue, htrim, hfront]
    rfl
  · rw [withoutComment_trim_append h hvalue,
      withoutComment_of_not_mem fun hmem => h (mem_of_mem_trim hmem)]

/-! ## The line of the port -/

/-- The line on which the scanner of the port stops. -/
theorem port?_of_first (hdoc : lines doc = before ++ (portFront ++ value) :: after)
    (hbefore : ∀ line ∈ before, ¬ portFront <+: line) :
    port? doc = readBounded? 65535 (withoutComment (trim value)) := by
  have hnone : before.findSome? (dropFront? portFront) = none := by
    rw [List.findSome?_eq_none_iff]
    intro line hline
    rw [Option.eq_none_iff_forall_ne_some]
    intro rest hrest
    exact hbefore line hline ⟨rest, (dropFront?_eq_some.1 hrest).symm⟩
  have hfind : (lines doc).findSome? (dropFront? portFront) = some value := by
    rw [hdoc, List.findSome?_append, hnone, Option.none_or, List.findSome?_cons, dropFront?_append]
  rw [port?, hfind]
  rfl

/-- What may stand behind a value: nothing, or a comment. -/
def IsRemark (remark : Text) : Prop := remark = [] ∨ ∃ text, remark = ' ' :: '#' :: text

theorem readBounded?_withoutComment_blanks {blanks remark : Text} {n bound : Nat} (hn : n ≤ bound)
    (hblanks : ∀ c ∈ blanks, isBlank c = true) (hremark : IsRemark remark) :
    readBounded? bound (withoutComment (trim (blanks ++ ofNat n ++ remark))) = some n := by
  have hdigits : ∀ c ∈ ofNat n, isBlank c = false := fun c hc =>
    isBlank_eq_false_of_isDigit (isDigit_of_mem_ofNat hc)
  have hno : '#' ∉ blanks ++ ofNat n := by
    intro hmem
    rcases List.mem_append.1 hmem with hmem | hmem
    · exact absurd (hblanks _ hmem) (by decide)
    · exact absurd (isDigit_of_mem_ofNat hmem) (by decide)
  have htrim : trim (blanks ++ ofNat n) = ofNat n := by
    rw [trim_blanks_append hblanks, trim_eq_trimBoth, (tight_of_forall hdigits).trimBoth_eq]
  have hplain : readBounded? bound (withoutComment (trim (blanks ++ ofNat n))) = some n := by
    rw [withoutComment_of_not_mem
      fun hmem => hno (mem_of_mem_trim hmem), htrim, readBounded?_ofNat hn]
  rcases hremark with rfl | ⟨text, rfl⟩
  · rwa [List.append_nil]
  · rwa [readBounded?_withoutComment_append hno]

/-! ## Both -/

/-- **Port and secret are found in any document.**  The secret is what the first line says that
stands in the management section, is indented and names it.  The port is the number on the first
line that starts with `port:`, with blanks in front of it and perhaps a comment behind it. -/
theorem port?_and_secret?_of_lines (doc : Text) :
    (∀ secret, secret? doc = some secret ↔
      ∃ before line after rest, lines doc = before ++ line :: after ∧
        IsSecretLine before line rest ∧
        (∀ front earlier behind other, before = front ++ earlier :: behind →
          ¬ IsSecretLine front earlier other) ∧
        secret = KeyRow.unquote (trim rest)) ∧
    ((secret? doc).isSome = true ↔
      ∃ before line after rest,
        lines doc = before ++ line :: after ∧ IsSecretLine before line rest) ∧
    ∀ port ≤ 65535, ∀ before blanks remark after,
      lines doc = before ++ (portFront ++ (blanks ++ ofNat port ++ remark)) :: after →
      (∀ line ∈ before, ¬ portFront <+: line) → (∀ c ∈ blanks, isBlank c = true) →
      IsRemark remark →
      port? doc = some port := by
  refine ⟨fun secret => secret?_eq_some_iff, isSome_secret?_iff, ?_⟩
  intro port hport before blanks remark after hdoc hbefore hblanks hremark
  rw [port?_of_first hdoc hbefore, readBounded?_withoutComment_blanks hport hblanks hremark]

/-- A document with both, among lines that look like them. -/
theorem port?_and_secret?_of_lines_mixed :
    let doc := ("# port: 1\r\nremote-management:\r\n\r\n  # secret-key: no\r\n" ++
      "\tsecret-key: 's'\r\nport:  80 # x\nport: 9").toList
    port? doc = some 80 ∧ (secret? doc).isSome = true := by
  intro doc
  have hlines : lines doc = ["# port: 1", "remote-management:", "", "  # secret-key: no",
      "\tsecret-key: 's'", "port:  80 # x", "port: 9"].map String.toList := by
    decide +kernel
  obtain ⟨-, hsecret, hport⟩ := port?_and_secret?_of_lines doc
  constructor
  · exact hport 80 (by decide)
      (["# port: 1", "remote-management:", "", "  # secret-key: no",
        "\tsecret-key: 's'"].map String.toList)
      "  ".toList " # x".toList ["port: 9".toList] hlines (by decide)
      (List.all_eq_true.1 (by decide)) (Or.inr ⟨" x".toList, rfl⟩)
  · refine hsecret.2
      ⟨["# port: 1", "remote-management:", "", "  # secret-key: no"].map String.toList, _, _,
        " 's'".toList, hlines, ?_⟩
    exact ⟨rfl, by decide, by decide, ["# port: 1".toList], "remote-management:".toList,
      ["", "  # secret-key: no"].map String.toList, rfl, by decide, by decide, by decide⟩

end ConfigDocument
end ProxySteward
