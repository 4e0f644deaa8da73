import ProxySteward.Text.Blank

/-!
# Paths

A path is kept as the text the operator gave, because that text is shown and handed to the proxy.
Two paths are the same when their parts are: empty parts and single dots name nothing, except a dot
that starts a relative path.

`parent?` cuts the last part off the text, together with the separators and dots that surround it,
and leaves the rest of the text as it was.
-/

namespace ProxySteward

/-- A path as text. -/
abbrev Path := Text

namespace Path

/-- Whether a path starts at the root. -/
def isAbsolute (p : Path) : Bool := p.head? == some '/'

/-- The pieces between separators, the root's separator not counted. -/
def pieces (p : Path) : List Text :=
  (if isAbsolute p then p.drop 1 else p).splitOn '/'

/-- Whether a piece names something; `start` says that it starts a relative path. -/
def isPart (start : Bool) (piece : Text) : Bool :=
  !piece.isEmpty && (start || piece != ['.'])

/-- The parts of a path. -/
def parts (p : Path) : List Text :=
  match pieces p with
  | [] => []
  | piece :: rest =>
    [piece].filter (isPart !isAbsolute p) ++ rest.filter (isPart false)

/-- Whether two texts name the same path. -/
def same (p q : Path) : Bool := isAbsolute p == isAbsolute q && parts p == parts q

/-- Pieces without those at the end that name nothing; `start` says that the first one starts a
relative path. -/
def dropIdle (start : Bool) : List Text → List Text
  | [] => []
  | piece :: rest =>
    match dropIdle false rest with
    | [] => if isPart start piece then [piece] else []
    | more => piece :: more

/-- The path that contains a path; none at the root and for the empty path. -/
def parent? (p : Path) : Option Path :=
  let start := !isAbsolute p
  match dropIdle start (pieces p) with
  | [] => none
  | kept =>
    let front := ['/'].intercalate (dropIdle start kept.dropLast)
    some (if isAbsolute p then '/' :: front else front)

/-- A path below another one; an absolute path stands alone. -/
def join (p q : Path) : Path :=
  if isAbsolute q || p.isEmpty then q
  else if p.getLast? == some '/' then p ++ q
  else p ++ '/' :: q

end Path
end ProxySteward
