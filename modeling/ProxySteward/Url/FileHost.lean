import ProxySteward.Url.Host

/-!
# Hosts of file addresses

The host of a file address names the machine that has the file.  It is left out for this machine:
where no host is given, where it is `localhost`, and where the path starts at a drive, because
drives are on this machine.

## Drives

A drive is a segment of one letter with a colon or a bar.  The path starts at a drive if one stands
just below the root, after the steps that lead up have been taken (`reachesDrive`); such a step
never leaves a drive.
-/

namespace ProxySteward
namespace Url

open Text

/-- Whether a text is a drive letter with a colon or a bar. -/
def isDrive : Text → Bool
  | [c, d] => c.isAlpha && (d == ':' || d == '|')
  | _ => false

/-- Whether a character separates the segments of a path in a web address or a file address. -/
def isSlash (c : Char) : Bool := c == '/' || c == '\\'

/-- Where a segment of a path leads. -/
inductive Segment where
  | down (name : Text)
  | stay
  | up
  deriving DecidableEq, Repr

/-- Reads a segment; a dot may be percent-encoded. -/
def Segment.read (t : Text) : Segment :=
  match plainDots t with
  | ['.'] => .stay
  | ['.', '.'] => .up
  | _ => .down t
where
  /-- A text with its encoded dots put in. -/
  plainDots : Text → Text
    | '%' :: '2' :: e :: rest =>
      if e = 'e' ∨ e = 'E' then '.' :: plainDots rest else '%' :: plainDots ('2' :: e :: rest)
    | c :: rest => c :: plainDots rest
    | [] => []

/-- The segments after a step up, which does not leave a drive; the innermost one comes first. -/
def goUp : List Text → List Text
  | [] => []
  | inner :: outer => if isDrive inner then inner :: outer else outer

/-- Whether a path comes to a drive letter just below the root; `above` are the segments above the
ones that follow, the innermost one first. -/
def reachesDrive (above : List Text) : List Text → Bool
  | [] => false
  | segment :: rest =>
    match Segment.read segment with
    | .stay => reachesDrive above rest
    | .up => reachesDrive (goUp above) rest
    | .down name => (above.isEmpty && isDrive name) || reachesDrive (name :: above) rest

/-- The host of a file address, empty for a path of this machine.  Drives are on this machine, so a
path that starts with a drive letter needs no host. -/
def fileHost? (t : Text) : Option Text :=
  let server := t.takeWhile fun c => !isSlash c
  if server.isEmpty || isDrive server then some []
  else (readHost? server).map fun host =>
    let path := (t.dropWhile fun c => !isSlash c).drop 1
    if host = "localhost".toList ∨ reachesDrive [] (path.splitOnP isSlash) then [] else host

end Url
end ProxySteward
