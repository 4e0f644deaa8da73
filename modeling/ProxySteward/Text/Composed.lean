import ProxySteward.Text.Decomposition
import ProxySteward.Text.Mark

/-!
# Composed texts

The same text can be written with composed characters or with letters and marks, and the marks
behind a letter can stand in several orders.  `Text.composed` brings a text to one form of these:
everything is taken apart (`decomposed`), marks are put in the order of their combining classes
(`ordered`), and each letter is composed with the marks behind it as far as that goes
(`composeFrom`).

A mark can reach its letter only across marks of a lower class.
-/

namespace ProxySteward
namespace Text

/-- A text taken apart; a character falls apart in at most three steps. -/
def decomposed (t : Text) : Text :=
  ((t.flatMap decomposeStep).flatMap decomposeStep).flatMap decomposeStep

/-- An ordered text with a character put in front, which moves behind the marks of a lower class. -/
def insertOrdered (c : Char) : Text → Text
  | [] => [c]
  | d :: ds =>
    if combiningClass d ≠ 0 ∧ combiningClass d < combiningClass c then d :: insertOrdered c ds
    else c :: d :: ds

/-- A text with the marks behind each letter in the order of their combining classes. -/
def ordered (t : Text) : Text := t.foldr insertOrdered []

/-- Composes a letter with what follows it; `between` are the marks passed so far, the last one
first. -/
def composeFrom (letter : Char) (between : Text) : Text → Text
  | [] => letter :: between.reverse
  | c :: cs =>
    let reaches := match between with
      | [] => true
      | mark :: _ => combiningClass mark < combiningClass c
    match if reaches then composePair? letter c else none with
    | some whole => composeFrom whole between cs
    | none =>
      if combiningClass c = 0 then letter :: between.reverse ++ composeFrom c [] cs
      else composeFrom letter (c :: between) cs

/-- An ordered text with its letters composed with their marks. -/
def compose : Text → Text
  | [] => []
  | c :: cs => if combiningClass c = 0 then composeFrom c [] cs else c :: compose cs

/-- The composed form of a text.  Below the first combining mark every text is composed. -/
def composed (t : Text) : Text :=
  if t.all (·.toNat < 0x300) then t else compose (ordered (decomposed t))

end Text
end ProxySteward
