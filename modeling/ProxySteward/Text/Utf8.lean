import ProxySteward.Text.Blank

/-!
# Texts as bytes

UTF-8 in both directions.  `decode?` accepts well-formed input only; `decodeLossy` puts the
replacement character in the place of each maximal ill-formed part: the longest run of bytes that
could start a character but does not finish one, or else one byte.

Both read the bytes through one function, `leading`, which says what stands in front.
-/

namespace ProxySteward

/-- The content of a file or a message. -/
abbrev Bytes := List UInt8

namespace Text

/-- What stands in front of a sequence of bytes. -/
inductive Leading where
  /-- A character, and how many bytes after the first belong to it. -/
  | scalar (c : Char) (more : Nat)
  /-- An ill-formed part, and how many bytes after the first belong to it. -/
  | broken (more : Nat)

/-- Whether a byte continues a character. -/
def isTail (b : UInt8) : Bool := 0x80 ≤ b && b ≤ 0xBF

/-- The six bits that a continuing byte contributes. -/
def tailBits (b : UInt8) : Nat := b.toNat % 64

/-- A character of three bytes whose second byte lies between `low` and `high`. -/
def leading3 (first : Nat) (low high : UInt8) : Bytes → Leading
  | b :: rest =>
    if low ≤ b && b ≤ high then
      match rest with
      | c :: _ =>
        if isTail c then .scalar (Char.ofNat ((first * 64 + tailBits b) * 64 + tailBits c)) 2
        else .broken 1
      | [] => .broken 1
    else .broken 0
  | [] => .broken 0

/-- A character of four bytes whose second byte lies between `low` and `high`. -/
def leading4 (first : Nat) (low high : UInt8) : Bytes → Leading
  | b :: rest =>
    if low ≤ b && b ≤ high then
      match rest with
      | c :: rest =>
        if isTail c then
          match rest with
          | d :: _ =>
            if isTail d then
              .scalar (Char.ofNat
                (((first * 64 + tailBits b) * 64 + tailBits c) * 64 + tailBits d)) 3
            else .broken 2
          | [] => .broken 2
        else .broken 1
      | [] => .broken 1
    else .broken 0
  | [] => .broken 0

/-- What stands in front of `b :: rest`: the well-formed sequences are those of the Unicode
standard, table 3-7. -/
def leading (b : UInt8) (rest : Bytes) : Leading :=
  if b < 0x80 then .scalar (Char.ofNat b.toNat) 0
  else if 0xC2 ≤ b && b ≤ 0xDF then
    match rest with
    | c :: _ =>
      if isTail c then .scalar (Char.ofNat (b.toNat % 32 * 64 + tailBits c)) 1 else .broken 0
    | [] => .broken 0
  else if b == 0xE0 then leading3 0 0xA0 0xBF rest
  else if b == 0xED then leading3 13 0x80 0x9F rest
  else if 0xE1 ≤ b && b ≤ 0xEF then leading3 (b.toNat % 16) 0x80 0xBF rest
  else if b == 0xF0 then leading4 0 0x90 0xBF rest
  else if 0xF1 ≤ b && b ≤ 0xF3 then leading4 (b.toNat % 8) 0x80 0xBF rest
  else if b == 0xF4 then leading4 4 0x80 0x8F rest
  else .broken 0

/-- The text that well-formed bytes stand for. -/
def decode? : Bytes → Option Text
  | [] => some []
  | b :: rest =>
    match leading b rest with
    | .scalar c more => (decode? (rest.drop more)).map (c :: ·)
    | .broken _ => none
termination_by bytes => bytes.length
decreasing_by simp only [List.length_drop, List.length_cons]; omega

/-- The text of any bytes, with `U+FFFD` for each ill-formed part. -/
def decodeLossy : Bytes → Text
  | [] => []
  | b :: rest =>
    match leading b rest with
    | .scalar c more => c :: decodeLossy (rest.drop more)
    | .broken more => Char.ofNat 0xFFFD :: decodeLossy (rest.drop more)
termination_by bytes => bytes.length
decreasing_by all_goals simp only [List.length_drop, List.length_cons]; omega

/-- The bytes of a text. -/
def encode (t : Text) : Bytes := t.flatMap String.utf8EncodeChar

end Text
end ProxySteward
