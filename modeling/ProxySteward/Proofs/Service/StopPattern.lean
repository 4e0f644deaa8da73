import ProxySteward.Proofs.Service.ExtendedRegex
import ProxySteward.Service

/-!
# What a stop pattern finds

The pattern of the command lines of a proxy is read as an extended regular expression
(`Regex.read?`).  Reading an escaped text adds its characters as characters that stand for
themselves, whatever was read before, so the pattern is found exactly where its text stands.
-/

namespace ProxySteward
namespace Service

open Text Regex

/-- A character without a meaning of its own stands for itself. -/
theorem plain?_of_isSpecial_eq_false {r : Reader} {c : Char} (hc : isSpecial c = false) :
    r.plain? c = some (r.add (.char c)) := by
  unfold Reader.plain?
  split <;> first | rfl | simp [isSpecial] at hc

/-- What one character becomes in an escaped text is read as the character. -/
theorem foldlM_escape_singleton {r : Reader} (hr : r.mode = .plain) (c : Char) :
    (escape [c]).foldlM Reader.step? r = some (r.add (.char c)) := by
  cases hc : isSpecial c with
  | false => simp [escape, hc, Reader.step?, hr, plain?_of_isSpecial_eq_false hc]
  | true => simp [escape, hc, Reader.step?, hr, Reader.plain?, Reader.add]

theorem escape_append (t u : Text) : escape (t ++ u) = escape t ++ escape u :=
  List.flatMap_append

/-- Reading an escaped text adds its characters. -/
theorem foldlM_escape {r : Reader} (hr : r.mode = .plain) (t : Text) :
    (escape t).foldlM Reader.step? r = some (r.addText t) := by
  induction t generalizing r with
  | nil => rfl
  | cons c cs ih =>
    calc (escape (c :: cs)).foldlM Reader.step? r
      _ = ((escape [c]).foldlM Reader.step? r).bind fun r => (escape cs).foldlM Reader.step? r := by
        rw [← List.singleton_append, escape_append, List.foldlM_append]
        rfl
      _ = (escape cs).foldlM Reader.step? (r.add (.char c)) := by
        rw [foldlM_escape_singleton hr]
        rfl
      _ = some (r.addText (c :: cs)) := ih rfl

/-- An escaped text stands for the text. -/
theorem read?_escape (t : Text) : read? (escape t) = some (literal t) := by
  rw [read?, foldlM_escape rfl, Option.bind_some, Reader.finish?_addText_fresh]

/-- Every character with a meaning of its own stands for itself in a pattern. -/
example :
    read? (escape "\\.+*?()|[]\x7b\x7d^$".toList) =
      some (literal "\\.+*?()|[]\x7b\x7d^$".toList) := by
  decide

theorem findsIn_escape_iff {t s : Text} : FindsIn (escape t) s ↔ t <:+: s := by
  simp [FindsIn, read?_escape, finds_literal_iff]

theorem stopPattern_eq_escape (config : Path) :
    stopPattern config = escape ("cli-proxy-api -config ".toList ++ config) := by
  rw [escape_append]
  rfl

/-- **The stop pattern finds a configuration file literally**: it is found in exactly the command
lines that hold the program with that very path as its argument, and no two paths have the same
pattern. -/
theorem stopPattern_finds_literally :
    (∀ (config : Path) (line : Text), FindsIn (stopPattern config) line ↔
      "cli-proxy-api -config ".toList ++ config <:+: line) ∧
    Function.Injective stopPattern := by
  have hfinds : ∀ (config : Path) (line : Text), FindsIn (stopPattern config) line ↔
      "cli-proxy-api -config ".toList ++ config <:+: line := by
    intro config line
    rw [stopPattern_eq_escape, findsIn_escape_iff]
  refine ⟨hfinds, fun p q hpq => ?_⟩
  -- Each of the two command lines holds the other one.
  have hp : "cli-proxy-api -config ".toList ++ p <:+: "cli-proxy-api -config ".toList ++ q :=
    (hfinds p _).1 (hpq ▸ (hfinds q _).2 List.infix_rfl)
  have hq : "cli-proxy-api -config ".toList ++ q <:+: "cli-proxy-api -config ".toList ++ p :=
    (hfinds q _).1 (hpq ▸ (hfinds p _).2 List.infix_rfl)
  exact List.append_cancel_left (hp.eq_of_length_le hq.length_le)

end Service
end ProxySteward
