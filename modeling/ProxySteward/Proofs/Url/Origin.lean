import Mathlib.Data.List.TakeDrop
import Mathlib.Data.List.TakeWhile
import ProxySteward.Http.Target
import ProxySteward.Proofs.Url.FormRoundTrip
import ProxySteward.Url.Address

/-!
# Addresses in front of a target

A request names its server by the address that the operator gave, with another path and query put
behind it.  What stands in front of the path must not hold a part of the old one: a slash, a
question mark or a number sign in it would end the server's name early, and the reader would take
the rest for path, query or fragment.

No such character comes through.  The three parts of the front are written by encoders of their own,
and each of them leaves these characters out (`isPlain_writeUserInfo`, `isPlain_readHost?`,
`isPlain_toDigits`).  So the address in full is read like the target alone (`read_withTarget`).
-/

namespace ProxySteward
namespace Url

open Text

variable {c : Char} {t : Text}

/-- Whether a character may stand in front of a path: it starts neither a path nor a query nor a
fragment. -/
def isServerChar (c : Char) : Bool := c ∉ ['/', '?', '#']

theorem eq_of_not_isServerChar (h : isServerChar c = false) : c = '/' ∨ c = '?' ∨ c = '#' := by
  rw [isServerChar, decide_eq_false_iff_not, not_not] at h
  simpa using h

/-- The texts that may stand in front of a path. -/
def IsPlain (t : Text) : Prop := ∀ c ∈ t, isServerChar c = true

theorem isPlain_append {s t : Text} : IsPlain (s ++ t) ↔ IsPlain s ∧ IsPlain t :=
  List.forall_mem_append

theorem isPlain_cons : IsPlain (c :: t) ↔ isServerChar c = true ∧ IsPlain t :=
  List.forall_mem_cons

theorem isPlain_nil : IsPlain [] := fun _ h => absurd h List.not_mem_nil

/-- The same for a text whose characters can be looked at. -/
theorem isPlain_of_all (h : t.all isServerChar = true) : IsPlain t := List.all_eq_true.1 h

theorem isPlain_intercalate {s : Text} (hs : IsPlain s) :
    ∀ {ts : List Text}, (∀ t ∈ ts, IsPlain t) →
    IsPlain (s.intercalate ts)
  | [], _ => isPlain_nil
  | [t], h => by
    rw [List.intercalate_singleton]
    exact h t List.mem_cons_self
  | t :: u :: ts, h => by
    rw [List.intercalate_cons_cons, isPlain_append, isPlain_append]
    exact ⟨⟨h t List.mem_cons_self, hs⟩,
      isPlain_intercalate hs fun v hv => h v (List.mem_cons_of_mem t hv)⟩

/-! ## Numbers -/

theorem exists_digit_of_mem_toDigitsCore {base fuel n : Nat} {ds : List Char}
    (h : c ∈ Nat.toDigitsCore base fuel n ds) : c ∈ ds ∨ ∃ d, c = Nat.digitChar d := by
  induction fuel generalizing n ds with
  | zero => exact Or.inl h
  | succ fuel ih =>
    have hcons : ∀ {d}, c ∈ Nat.digitChar d :: ds →
        c ∈ ds ∨ ∃ d, c = Nat.digitChar d := by
      intro d hc
      rcases List.mem_cons.1 hc with rfl | hc
      · exact Or.inr ⟨d, rfl⟩
      · exact Or.inl hc
    rw [Nat.toDigitsCore] at h
    split at h
    · exact hcons h
    · rcases ih h with h | h
      · exact hcons h
      · exact Or.inr h

theorem isServerChar_digitChar (d : Nat) : isServerChar (Nat.digitChar d) = true := by
  by_cases h : d < 16
  · have hall : ∀ d < 16, isServerChar (Nat.digitChar d) = true := by decide
    exact hall d h
  · have hstar : Nat.digitChar d = '*' := by
      unfold Nat.digitChar
      simp only [show ∀ n < 16, d ≠ n from fun n hn => by omega, Nat.reduceLT, if_false]
    rw [hstar]
    decide

/-- Digits in any base. -/
theorem isPlain_toDigits (base n : Nat) : IsPlain (Nat.toDigits base n) := by
  intro c hc
  rcases exists_digit_of_mem_toDigitsCore hc with hc | ⟨d, rfl⟩
  · exact absurd hc List.not_mem_nil
  · exact isServerChar_digitChar d

/-! ## User information -/

theorem isPlain_percentByte (b : UInt8) : IsPlain (percentByte b) := by
  have hdigit : ∀ n < 16, isServerChar (Nat.digitChar n).toUpper = true := by decide
  have hbyte := b.toNat_lt
  rw [percentByte_eq, isPlain_cons, isPlain_cons, isPlain_cons]
  exact ⟨by decide, hdigit _ (by omega), hdigit _ (by omega), isPlain_nil⟩

/-- Characters that are encoded do not show. -/
theorem isPlain_percentEncode {p : Char → Bool}
    (hp : ∀ c, isServerChar c = false → p c = true) (t : Text) :
    IsPlain (percentEncode p t) := by
  intro c hc
  obtain ⟨d, -, hd⟩ := List.mem_flatMap.1 hc
  split at hd
  · obtain ⟨b, -, hb⟩ := List.mem_flatMap.1 hd
    exact isPlain_percentByte b c hb
  · next hkept =>
    rw [List.mem_singleton.1 hd]
    by_contra hserver
    exact hkept (by rw [hp d (by simpa using hserver), Bool.true_or])

theorem inUserInfo_of_not_isServerChar (c : Char) (h : isServerChar c = false) :
    inUserInfo c = true := by
  rcases eq_of_not_isServerChar h with rfl | rfl | rfl <;> decide

theorem isPlain_writeUserInfo (t : Text) : IsPlain (Address.writeUserInfo t) := by
  have hpart := isPlain_percentEncode inUserInfo_of_not_isServerChar
  unfold Address.writeUserInfo
  split
  · next name word hcut =>
    rw [isPlain_append]
    refine ⟨hpart name, ?_⟩
    split
    · exact isPlain_nil
    · rw [isPlain_cons]
      exact ⟨by decide, hpart word⟩
  · exact hpart t

/-! ## Labels in Punycode -/

theorem isServerChar_punyDigit : ∀ d < 36, isServerChar (punyDigit d) = true := by decide

theorem isPlain_punyNumber (bias k q : Nat) : IsPlain (punyNumber bias k q) := by
  induction q using Nat.strong_induction_on generalizing k with
  | _ q ih =>
    have hlow : 1 ≤ punyThreshold k bias := Nat.le_max_left _ _
    have hhigh : punyThreshold k bias ≤ 26 := Nat.max_le.2 ⟨by decide, Nat.min_le_left _ _⟩
    rw [punyNumber]
    split
    · rw [isPlain_cons]
      exact ⟨isServerChar_punyDigit _ (by omega), isPlain_nil⟩
    · rw [isPlain_cons]
      have hmod : (q - punyThreshold k bias) % (36 - punyThreshold k bias) <
          36 - punyThreshold k bias := Nat.mod_lt _ (by omega)
      have hdiv := Nat.div_le_self (q - punyThreshold k bias) (36 - punyThreshold k bias)
      exact ⟨isServerChar_punyDigit _ (by omega), ih _ (by omega) _⟩

theorem isPlain_punyPass {basic m : Nat} {label : Text} {s : PunyState} (h : IsPlain s.digits) :
    IsPlain (punyPass basic m label s).digits := by
  unfold punyPass
  refine List.foldlRecOn (motive := fun s : PunyState => IsPlain s.digits) label _ h ?_
  intro s hs c _
  split
  · exact hs
  split
  · exact isPlain_append.2 ⟨hs, isPlain_punyNumber _ _ _⟩
  · exact hs

theorem isPlain_punyLabel {label : Text} (h : IsPlain label) : IsPlain (punyLabel label) := by
  unfold punyLabel
  dsimp only
  rw [isPlain_append, isPlain_append]
  refine ⟨⟨fun c hc => h c (List.mem_filter.1 hc).1, ?_⟩, ?_⟩
  · split
    · exact isPlain_nil
    · exact isPlain_of_all (by decide)
  -- the digits are put together in one pass for each code point
  · refine List.foldlRecOn (motive := fun s : PunyState × Nat => IsPlain s.1.digits) _ _
      isPlain_nil ?_
    exact fun s hs m _ => isPlain_punyPass hs

/-! ## Hosts -/

theorem isForbiddenInDomain_of_not_isServerChar (h : isServerChar c = false) :
    isForbiddenInDomain c = true := by
  rcases eq_of_not_isServerChar h with rfl | rfl | rfl <;> decide

theorem isPlain_of_isLabel {label : Text} (h : isLabel label = true) : IsPlain label := by
  unfold isLabel at h
  simp only [Bool.and_eq_true, Bool.not_eq_true', List.any_eq_false] at h
  intro c hc
  by_contra hserver
  exact h.1.1.1 c hc (isForbiddenInDomain_of_not_isServerChar (by simpa using hserver))

theorem isPlain_writeLabel {label : Text} (h : isLabel label = true) :
    IsPlain (writeLabel label) := by
  unfold writeLabel
  split
  · exact isPlain_of_isLabel h
  · rw [isPlain_append]
    exact ⟨isPlain_of_all (by decide), isPlain_punyLabel (isPlain_of_isLabel h)⟩

theorem isPlain_asciiDomain? {name : Text} (h : asciiDomain? t = some name) : IsPlain name := by
  unfold asciiDomain? at h
  simp only [bind, Option.bind_eq_some_iff] at h
  obtain ⟨-, -, labels, -, h⟩ := h
  split at h
  · next hlabels =>
    rw [Bool.and_eq_true, List.all_eq_true] at hlabels
    rw [← Option.some.inj h]
    refine isPlain_intercalate (isPlain_of_all (by decide)) fun u hu => ?_
    obtain ⟨label, hlabel, rfl⟩ := List.mem_map.1 hu
    exact isPlain_writeLabel (hlabels.1 label hlabel)
  · exact absurd h (by simp)

theorem isPlain_writeIpv4 (v : Nat) : IsPlain (writeIpv4 v) := by
  refine isPlain_intercalate (isPlain_of_all (by decide)) fun t ht => ?_
  obtain ⟨n, -, rfl⟩ := List.mem_map.1 ht
  exact isPlain_toDigits 10 n

theorem isPlain_writeIpv6 (groups : List Nat) : IsPlain (writeIpv6 groups) := by
  have hgroups : ∀ gs, IsPlain (writeGroups gs) := by
    intro gs
    refine isPlain_intercalate (isPlain_of_all (by decide)) fun t ht => ?_
    obtain ⟨g, -, rfl⟩ := List.mem_map.1 ht
    exact isPlain_toDigits 16 g
  unfold writeIpv6
  dsimp only
  rw [isPlain_append, isPlain_cons]
  refine ⟨⟨by decide, ?_⟩, isPlain_of_all (by decide)⟩
  split
  · rw [isPlain_append, isPlain_append]
    exact ⟨⟨hgroups _, isPlain_of_all (by decide)⟩, hgroups _⟩
  · exact hgroups _

/-- The host of a web address, in each of its three forms. -/
theorem isPlain_readHost? {host : Text} (h : readHost? t = some host) : IsPlain host := by
  unfold readHost? at h
  split at h
  · obtain ⟨inner, -, h⟩ := Option.bind_eq_some_iff.1 h
    obtain ⟨groups, -, rfl⟩ := Option.map_eq_some_iff.1 h
    exact isPlain_writeIpv6 groups
  · obtain ⟨name, hname, h⟩ := Option.bind_eq_some_iff.1 h
    split at h
    · exact absurd h (by simp)
    split at h
    · obtain ⟨v, -, rfl⟩ := Option.map_eq_some_iff.1 h
      exact isPlain_writeIpv4 v
    · rw [← Option.some.inj h]
      exact isPlain_asciiDomain? hname

end Url

namespace Address

open Text Url

variable {t : Text} {a : Address}

/-! ## The parts of an address -/

theorem isServerChar_toLower {c : Char} (h : isServerChar c = true) (hc : c ≠ ':') :
    isServerChar c.toLower = true ∧ c.toLower ≠ ':' := by
  by_cases hupper : c.val ≥ 'A'.val ∧ c.val ≤ 'Z'.val
  · have hall : ∀ n < 91, 65 ≤ n →
        isServerChar (Char.ofNat n).toLower = true ∧ (Char.ofNat n).toLower ≠ ':' := by decide
    have hlow : 65 ≤ c.toNat := UInt32.le_iff_toNat_le.1 hupper.1
    have hhigh : c.toNat ≤ 90 := UInt32.le_iff_toNat_le.1 hupper.2
    simpa only [Char.ofNat_toNat] using hall c.toNat (by omega) hlow
  · have hsame : c.toLower = c := dif_neg hupper
    rw [hsame]
    exact ⟨h, hc⟩

/-- A scheme holds nothing that could end it. -/
theorem scheme?_plain {scheme rest : Text} (h : scheme? t = some (scheme, rest)) :
    scheme ≠ [] ∧ IsPlain scheme ∧ ':' ∉ scheme := by
  unfold scheme? at h
  rw [List.span_eq_takeWhile_dropWhile] at h
  split at h
  · next c cs behind hspan =>
    have hclass : ∀ d ∈ c :: cs, isServerChar d = true ∧ d ≠ ':' := by
      intro d hd
      rw [← (Prod.mk.inj hspan).1] at hd
      have hd := List.mem_takeWhile_imp hd
      refine ⟨by_contra fun hno => ?_, ?_⟩
      · rcases eq_of_not_isServerChar (by simpa using hno) with rfl | rfl | rfl <;>
          exact absurd hd (by decide)
      · rintro rfl
        exact absurd hd (by decide)
    split at h
    · obtain ⟨rfl, -⟩ := Prod.mk.inj (Option.some.inj h)
      refine ⟨by simp [lower], fun d hd => ?_, fun hcolon => ?_⟩
      · obtain ⟨e, he, rfl⟩ := List.mem_map.1 hd
        exact (isServerChar_toLower (hclass e he).1 (hclass e he).2).1
      · obtain ⟨e, he, heq⟩ := List.mem_map.1 hcolon
        exact (isServerChar_toLower (hclass e he).1 (hclass e he).2).2 heq
    · exact absurd h (by simp)
  · exact absurd h (by simp)

theorem authority?_plain {scheme userInfo : Text} {followed : Bool} {host : Option Text}
    {port : Option Nat} (hweb : isWebScheme scheme = true)
    (h : authority? scheme followed t = some (userInfo, host, port)) :
    IsPlain userInfo ∧ ∃ name, host = some name ∧ IsPlain name := by
  unfold authority? at h
  simp only [hweb, if_true, bind, Option.bind_eq_some_iff] at h
  obtain ⟨name, hname, h⟩ := h
  have huser : IsPlain (((cutUserInfo t).1.map writeUserInfo).getD []) := by
    cases (cutUserInfo t).1 with
    | none => exact isPlain_nil
    | some user => exact isPlain_writeUserInfo user
  -- whatever the port is, user information and host are these
  have hparts : ∀ {missing : Bool} {n : Option Nat},
      (if missing then none
        else some (((cutUserInfo t).1.map writeUserInfo).getD [], some name, n)) =
          some (userInfo, host, port) →
      IsPlain userInfo ∧ ∃ name, host = some name ∧ IsPlain name := by
    intro missing n h
    split at h
    · exact absurd h (by simp)
    · rw [Option.some.injEq, Prod.mk.injEq, Prod.mk.injEq] at h
      obtain ⟨rfl, rfl, -⟩ := h
      exact ⟨huser, name, rfl, isPlain_readHost? hname⟩
  split at h
  · obtain ⟨n, -, h⟩ := Option.bind_eq_some_iff.1 h
    exact hparts h
  · exact hparts h

theorem hierarchy?_plain {scheme userInfo : Text} {followed rooted : Bool} {host : Option Text}
    {port : Option Nat} (hweb : isWebScheme scheme = true)
    (h : hierarchy? scheme followed t = some (userInfo, host, port, rooted)) :
    IsPlain userInfo ∧ ∃ name, host = some name ∧ IsPlain name := by
  have hfile : scheme ≠ "file".toList := by
    rintro rfl
    exact absurd hweb (by decide)
  unfold hierarchy? at h
  rw [if_neg hfile, if_pos hweb] at h
  obtain ⟨⟨userInfo', host', port'⟩, hauthority, heq⟩ := Option.map_eq_some_iff.1 h
  rw [Prod.mk.injEq, Prod.mk.injEq] at heq
  obtain ⟨rfl, rfl, -⟩ := heq
  exact authority?_plain hweb hauthority

/-- **The parts of a web address** in front of its path. -/
theorem parse?_plain (h : parse? t = some a) (hweb : isWebScheme a.scheme = true) :
    (a.scheme ≠ [] ∧ IsPlain a.scheme ∧ ':' ∉ a.scheme) ∧ IsPlain a.userInfo ∧
      ∃ name, a.host = some name ∧ IsPlain name := by
  unfold parse? at h
  simp only [bind, Option.bind_eq_some_iff] at h
  obtain ⟨⟨scheme, rest⟩, hscheme, ⟨user, host, port, rooted⟩, hhierarchy, h⟩ := h
  rw [Option.some.injEq] at h
  rw [← h] at hweb ⊢
  exact ⟨scheme?_plain hscheme, hierarchy?_plain hweb hhierarchy⟩

/-- What a web address has in front of its path, after the scheme. -/
theorem exists_origin_eq (h : parse? t = some a) (hweb : isWebScheme a.scheme = true) :
    ∃ server, a.origin = a.scheme ++ "://".toList ++ server ∧ IsPlain server := by
  obtain ⟨-, huser, name, hname, hhost⟩ := parse?_plain h hweb
  obtain ⟨port, horigin, hport⟩ : ∃ port, a.origin = a.scheme ++ ':' :: ("//".toList ++
      (if a.userInfo.isEmpty then [] else a.userInfo ++ ['@']) ++ name ++ port) ∧
        IsPlain port := by
    cases hport : a.port with
    | none => exact ⟨[], by rw [origin, hname, hport], isPlain_nil⟩
    | some n =>
      exact ⟨':' :: Text.ofNat n, by rw [origin, hname, hport],
        isPlain_cons.2 ⟨by decide, isPlain_toDigits 10 _⟩⟩
  refine ⟨(if a.userInfo.isEmpty then [] else a.userInfo ++ ['@']) ++ name ++ port, ?_, ?_⟩
  · rw [horigin, List.append_assoc, List.append_assoc, List.append_assoc, List.append_assoc]
    rfl
  · rw [isPlain_append, isPlain_append]
    refine ⟨⟨?_, hhost⟩, hport⟩
    split
    · exact isPlain_nil
    · exact isPlain_append.2 ⟨huser, isPlain_of_all (by decide)⟩

end Address

/-! ## Reading a target behind an address -/

namespace RequestTarget

open Text Url

variable {scheme server path query : Text}

theorem cut?_scheme (h : ':' ∉ scheme) (t : Text) :
    cut? "://".toList (scheme ++ "://".toList ++ t) = some (scheme, t) := by
  induction scheme with
  | nil => rfl
  | cons c scheme ih =>
    rw [List.mem_cons, not_or] at h
    have hmark : "://".toList = [':', '/', '/'] := rfl
    have hno : dropFront? "://".toList (c :: (scheme ++ "://".toList ++ t)) = none := by
      rw [hmark, dropFront?, if_neg h.1]
    rw [List.cons_append, List.cons_append, cut?, hno, ih h.2]
    rfl

/-- The path behind the name of a server. -/
theorem pathOf_append (hne : scheme ≠ []) (hscheme : IsPlain scheme) (hcolon : ':' ∉ scheme)
    (hserver : IsPlain server) (hpath : path.head? = some '/') :
    pathOf (scheme ++ "://".toList ++ server ++ path) = pathOf path := by
  obtain ⟨c, rest, rfl⟩ := List.exists_cons_of_ne_nil hne
  have hhead : ((c :: rest) ++ "://".toList ++ server ++ path).head? ≠ some '/' := by
    intro h
    rw [List.cons_append, List.cons_append, List.cons_append, List.head?_cons,
      Option.some.injEq] at h
    exact absurd (hscheme c List.mem_cons_self) (by rw [h]; decide)
  have hstop : (server ++ path).dropWhile (· != '/') = path := by
    have hall : ∀ c ∈ server, (c != '/') = true := by
      intro c hc
      rw [bne_iff_ne]
      rintro rfl
      exact absurd (hserver _ hc) (by decide)
    obtain ⟨p, rfl⟩ := List.head?_eq_some_iff.1 hpath
    rw [List.dropWhile_append_of_pos hall]
    rfl
  rw [pathOf, if_neg hhead, List.append_assoc _ server, cut?_scheme hcolon, pathOf, if_pos hpath]
  exact hstop

/-- A front that stands for a path, with a query behind it or without one, and a fragment. -/
theorem read_append {front fragment : Text} (hfront : ∀ c ∈ front, c ≠ '?' ∧ c ≠ '#')
    (hquery : '#' ∉ query) (hfragment : ∀ c ∈ fragment.head?, c = '#') :
    read (front ++ '?' :: query ++ fragment) = ⟨pathOf front, query⟩ ∧
      read (front ++ fragment) = ⟨pathOf front, []⟩ := by
  have hstop : fragment.takeWhile (· != '#') = [] := by
    cases fragment with
    | nil => rfl
    | cons c fragment =>
      rw [hfragment c rfl]
      rfl
  have hkept : ∀ c ∈ front, (c != '#') = true := fun c hc => bne_iff_ne.2 (hfront c hc).2
  have hcut : '?' ∉ front := fun hc => (hfront _ hc).1 rfl
  constructor
  · have hall : ∀ c ∈ front ++ '?' :: query, (c != '#') = true := by
      intro c hc
      rw [bne_iff_ne]
      rintro rfl
      rcases List.mem_append.1 hc with hc | hc
      · exact (hfront _ hc).2 rfl
      · rcases List.mem_cons.1 hc with hc | hc
        · exact absurd hc (by decide)
        · exact hquery hc
    rw [read, List.takeWhile_append_of_pos hall, hstop, List.append_nil, cutAt?_append_cons hcut]
  · rw [read, List.takeWhile_append_of_pos hkept, hstop, List.append_nil, cutAt?_eq_none hcut]

/-- **An address in full is read like its target**: the part in front of the path adds nothing, and
the fragment behind it is not sent. -/
theorem read_withTarget {t : Text} {a : Address} (h : Address.parse? t = some a)
    (hweb : Address.isWebScheme a.scheme = true) (hpath : path.head? = some '/')
    (hplain : ∀ c ∈ path, c ≠ '?' ∧ c ≠ '#') (hquery : '#' ∉ query) :
    read (a.withTarget (path ++ '?' :: query)) = ⟨path, query⟩ ∧
      read (a.withTarget path) = ⟨path, []⟩ := by
  obtain ⟨⟨hne, hscheme, hcolon⟩, -⟩ := Address.parse?_plain h hweb
  obtain ⟨server, horigin, hserver⟩ := Address.exists_origin_eq h hweb
  have hfront : ∀ c ∈ a.origin ++ path, c ≠ '?' ∧ c ≠ '#' := by
    intro c hc
    have hkept : ∀ {s : Text}, IsPlain s → c ∈ s → c ≠ '?' ∧ c ≠ '#' := by
      intro s hs hc
      constructor <;>
        · rintro rfl
          exact absurd (hs _ hc) (by decide)
    rw [horigin, List.mem_append, List.mem_append, List.mem_append] at hc
    rcases hc with ((hc | hc) | hc) | hc
    · exact hkept hscheme hc
    · have hmark : ∀ c ∈ "://".toList, c ≠ '?' ∧ c ≠ '#' := by simp
      exact hmark c hc
    · exact hkept hserver hc
    · exact hplain c hc
  have hpathOf : pathOf (a.origin ++ path) = path := by
    rw [horigin, pathOf_append hne hscheme hcolon hserver hpath, pathOf, if_pos hpath]
  obtain ⟨fragment, hwith, hfragment⟩ :
    ∃ fragment, (∀ t, a.withTarget t = a.origin ++ t ++ fragment) ∧
      ∀ c ∈ fragment.head?, c = '#' := by
    cases hfragment : a.fragment with
    | none => exact ⟨[], fun t => by rw [Address.withTarget, hfragment], by simp⟩
    | some f => exact ⟨'#' :: f, fun t => by rw [Address.withTarget, hfragment], by simp⟩
  have hread := read_append hfront hquery hfragment
  rw [hpathOf, List.append_assoc _ path] at hread
  rw [hwith, hwith]
  exact hread

end RequestTarget
end ProxySteward
