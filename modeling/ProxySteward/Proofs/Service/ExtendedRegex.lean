import Mathlib.Data.List.Infix
import ProxySteward.Text.Digits
import ProxySteward.Text.Search

/-!
# Extended regular expressions

A pattern is read character by character (`Reader.step?`): an escaped character stands for itself,
the characters `. + * ? ( ) | [ ] { } ^ $` and the backslash mean something, and any other character
stands for itself.  A pattern to which the notation gives no meaning is not read (a repetition of
nothing, a closing bracket without an opening one, bounds out of order); nor is one with a named
class inside of brackets.

* `Regex.Spans` says which part of a line an expression spans between what stands before and behind
  it, and `FindsIn`, that a pattern is found somewhere in a line.
* `finds_literal_iff`: the expression of a text is found exactly where the text stands.
* `Reader.finish?_addText_fresh`: what is read from characters that stand for themselves is the
  expression of their text.
-/

namespace ProxySteward

open Text

/-- An extended regular expression. -/
inductive Regex where
  /-- Nothing at all, which every line holds everywhere. -/
  | empty
  | char (c : Char)
  | any
  /-- A bracket expression: a character in one of the ranges, or in none of them. -/
  | oneOf (negated : Bool) (ranges : List (Char × Char))
  /-- The start of the line. -/
  | start
  /-- The end of the line. -/
  | finish
  | seq (e e' : Regex)
  | alt (e e' : Regex)
  /-- At least `least` and, if there is a bound, at most `most` times the same expression. -/
  | iterate (e : Regex) (least : Nat) (most : Option Nat)
  deriving DecidableEq, Repr

namespace Regex

/-! ## Matching -/

/-- The expression spans the middle part of a line. -/
inductive Spans : Regex → (front mid back : Text) → Prop
  | empty {front back} : Spans .empty front [] back
  | char {c front back} : Spans (.char c) front [c] back
  | any {c front back} : Spans .any front [c] back
  | oneOf {negated ranges c front back}
      (h : (ranges.any fun r => r.1 ≤ c && c ≤ r.2) = !negated) :
      Spans (.oneOf negated ranges) front [c] back
  | start {back} : Spans .start [] [] back
  | finish {front} : Spans .finish front [] []
  | seq {e e' front mid mid' back} (h : Spans e front mid (mid' ++ back))
      (h' : Spans e' (front ++ mid) mid' back) : Spans (.seq e e') front (mid ++ mid') back
  | altLeft {e e' front mid back} (h : Spans e front mid back) : Spans (.alt e e') front mid back
  | altRight {e e' front mid back} (h : Spans e' front mid back) : Spans (.alt e e') front mid back
  | enough {e most front back} : Spans (.iterate e 0 most) front [] back
  | again {e least most front mid mid' back} (h : Spans e front mid (mid' ++ back))
      (hm : most ≠ some 0)
      (h' : Spans (.iterate e (least - 1) (most.map (· - 1))) (front ++ mid) mid' back) :
      Spans (.iterate e least most) front (mid ++ mid') back

/-- The expression spans some part of the line. -/
def Finds (e : Regex) (s : Text) : Prop :=
  ∃ front mid back, s = front ++ mid ++ back ∧ e.Spans front mid back

/-- The expression of a text, character by character. -/
def literal : Text → Regex
  | [] => .empty
  | c :: cs => .seq (.char c) (literal cs)

theorem spans_literal_iff {t front mid back : Text} :
    (literal t).Spans front mid back ↔ mid = t := by
  induction t generalizing front mid with
  | nil =>
    constructor
    · rintro ⟨⟩
      rfl
    · rintro rfl
      exact .empty
  | cons c cs ih =>
    constructor
    · intro h
      cases h with
      | seq h h' =>
        cases h
        rw [ih.1 h']
        rfl
    · rintro rfl
      show Spans (.seq (.char c) (literal cs)) front ([c] ++ cs) back
      exact .seq .char (ih.2 rfl)

/-- **The expression of a text is found exactly where the text stands.** -/
theorem finds_literal_iff {t s : Text} : (literal t).Finds s ↔ t <:+: s := by
  constructor
  · rintro ⟨front, mid, back, rfl, h⟩
    exact ⟨front, back, by rw [spans_literal_iff.1 h]⟩
  · rintro ⟨front, back, rfl⟩
    exact ⟨front, t, back, rfl, spans_literal_iff.2 rfl⟩

/-! ## Reading a pattern -/

/-- One level of groups: the alternatives before the open one, and the pieces of the open one, both
the latest first. -/
structure Level where
  alternatives : List Regex
  pieces : List Regex
  deriving DecidableEq, Repr

namespace Level

/-- The pieces of the open alternative as one expression. -/
def last (l : Level) : Regex := l.pieces.foldl (fun rest e => .seq e rest) .empty

/-- The whole level as one expression. -/
def close (l : Level) : Regex := l.alternatives.foldl (fun rest e => .alt e rest) l.last

end Level

/-- What a character is read as. -/
inductive Mode where
  | plain
  /-- Behind a backslash. -/
  | escaped
  /-- Inside of brackets, with the characters so far, the latest first. -/
  | bracket (negated : Bool) (inside : Text)
  /-- Inside of braces, with the characters so far, the latest first. -/
  | braces (inside : Text)
  deriving DecidableEq, Repr

/-- The ranges that a bracket expression lists.  A character alone is a range of one. -/
def ranges? : Text → Option (List (Char × Char))
  | a :: '-' :: b :: cs => if a ≤ b then (ranges? cs).map ((a, b) :: ·) else none
  | c :: cs => (ranges? cs).map ((c, c) :: ·)
  | [] => some []

/-- The bounds that braces hold: a number, a number and a comma, or two numbers in order. -/
def bounds? (t : Text) : Option (Nat × Option Nat) :=
  let number? := fun t => (readNat? t).filter (· ≤ 255)
  match cutAt? ',' t with
  | none => (number? t).map fun least => (least, some least)
  | some (least, []) => (number? least).map fun least => (least, none)
  | some (least, most) => do
    let least ← number? least
    let most ← number? most
    if least ≤ most then some (least, some most) else none

/-- A reader in the middle of a pattern. -/
structure Reader where
  mode : Mode
  /-- The groups that are open around the current one, the innermost first. -/
  outer : List Level
  level : Level
  deriving DecidableEq, Repr

namespace Reader

/-- The reader at the start of a pattern. -/
def fresh : Reader := ⟨.plain, [], ⟨[], []⟩⟩

/-- Adds a piece. -/
def add (r : Reader) (e : Regex) : Reader :=
  { r with mode := .plain, level := { r.level with pieces := e :: r.level.pieces } }

/-- Repeats the latest piece. -/
def repeat? (r : Reader) (least : Nat) (most : Option Nat) : Option Reader :=
  match r.level.pieces with
  | [] => none
  | e :: es =>
    some { r with mode := .plain, level := { r.level with pieces := .iterate e least most :: es } }

/-- Reads a character outside of brackets and braces. -/
def plain? (r : Reader) (c : Char) : Option Reader :=
  match c with
  | '\\' => some { r with mode := .escaped }
  | '[' => some { r with mode := .bracket false [] }
  | '{' => some { r with mode := .braces [] }
  | '(' => some { r with outer := r.level :: r.outer, level := ⟨[], []⟩ }
  | ')' => match r.outer with
    | [] => none
    | l :: outer => some ({ r with outer := outer, level := l }.add r.level.close)
  | '|' => some { r with level := ⟨r.level.last :: r.level.alternatives, []⟩ }
  | '*' => r.repeat? 0 none
  | '+' => r.repeat? 1 none
  | '?' => r.repeat? 0 (some 1)
  | '.' => some (r.add .any)
  | '^' => some (r.add .start)
  | '$' => some (r.add .finish)
  | ']' | '}' => none
  | c => some (r.add (.char c))

/-- Reads a character inside of brackets.  A bracket there closes unless it is the first
character. -/
def bracket? (r : Reader) (negated : Bool) (inside : Text) (c : Char) : Option Reader :=
  match inside, c with
  | [], '^' => some { r with mode := if negated then .bracket true ['^'] else .bracket true [] }
  | _ :: _, ']' => (ranges? inside.reverse).map fun ranges => r.add (.oneOf negated ranges)
  | '[' :: _, ':' | '[' :: _, '.' | '[' :: _, '=' => none
  | inside, c => some { r with mode := .bracket negated (c :: inside) }

/-- Reads a character. -/
def step? (r : Reader) (c : Char) : Option Reader :=
  match r.mode with
  | .plain => r.plain? c
  | .escaped => some (r.add (.char c))
  | .bracket negated inside => r.bracket? negated inside c
  | .braces inside =>
    if c = '}' then (bounds? inside.reverse).bind fun (least, most) => r.repeat? least most
    else some { r with mode := .braces (c :: inside) }

/-- The expression that was read, at the end of a pattern. -/
def finish? (r : Reader) : Option Regex :=
  if r.mode = .plain ∧ r.outer = [] then some r.level.close else none

/-- Adds characters that stand for themselves. -/
def addText (r : Reader) (t : Text) : Reader := t.foldl (fun r c => r.add (.char c)) r

theorem addText_eq {r : Reader} (hr : r.mode = .plain) (t : Text) :
    r.addText t =
      { r with level := { r.level with pieces := (t.map .char).reverse ++ r.level.pieces } } := by
  induction t generalizing r with
  | nil => rfl
  | cons c cs ih =>
    calc r.addText (c :: cs)
      _ = (r.add (.char c)).addText cs := rfl
      _ = _ := ih rfl
      _ = _ := by simp [add, hr]

/-- The pieces of characters that stand for themselves are the expression of their text. -/
theorem last_chars (alternatives : List Regex) (t : Text) :
    Level.last ⟨alternatives, (t.map .char).reverse⟩ = literal t := by
  induction t with
  | nil => rfl
  | cons c cs ih => simpa [Level.last, literal] using ih

/-- **What is read from characters that stand for themselves is the expression of their text.** -/
theorem finish?_addText_fresh (t : Text) : (fresh.addText t).finish? = some (literal t) := by
  have h : fresh.addText t = ⟨.plain, [], ⟨[], (t.map .char).reverse⟩⟩ := by
    rw [addText_eq rfl]
    simp [fresh]
  rw [h]
  exact congrArg some (last_chars [] t)

end Reader

/-- The expression that a pattern stands for. -/
def read? (pattern : Text) : Option Regex :=
  (pattern.foldlM Reader.step? Reader.fresh).bind Reader.finish?

/-- The pattern is found somewhere in a line. -/
def FindsIn (pattern s : Text) : Prop := ∃ e, read? pattern = some e ∧ e.Finds s

end Regex
end ProxySteward
