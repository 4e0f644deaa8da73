import ProxySteward.Url.FileHost

/-!
# Addresses of servers

The operator names a server by an address.  Of that address a request keeps the scheme, the user
information, the host, the port and the fragment, while path and query are replaced; so `Address`
holds just these parts, each in the form in which it is written, and the reader passes over path and
query.

An address that has no authority and no path from the root, such as `mailto:a@b.c`, cannot be the
base of a request; `Address.rooted` is false for it.
-/

namespace ProxySteward

open Text

/-- The parts of an address that a request to its server keeps. -/
structure Address where
  scheme : Text
  /-- User name and password, empty if the address has neither. -/
  userInfo : Text
  /-- The host, if the address has an authority. -/
  host : Option Text
  /-- The port, unless it is the one the scheme implies. -/
  port : Option Nat
  /-- Whether a path from the root can follow. -/
  rooted : Bool
  fragment : Option Text
  deriving DecidableEq, Repr

namespace Address

open Url

/-- The port a scheme implies. -/
def impliedPort? (scheme : Text) : Option Nat :=
  if scheme = "http".toList ∨ scheme = "ws".toList then some 80
  else if scheme = "https".toList ∨ scheme = "wss".toList then some 443
  else if scheme = "ftp".toList then some 21
  else none

/-- Whether the addresses of a scheme always have a host. -/
def isWebScheme (scheme : Text) : Bool := (impliedPort? scheme).isSome

/-- The scheme in lower case and what follows its colon. -/
def scheme? (t : Text) : Option (Text × Text) :=
  match t.span fun c => c.isAlphanum || c == '+' || c == '-' || c == '.' with
  | (c :: cs, ':' :: rest) => if c.isAlpha then some (lower (c :: cs), rest) else none
  | _ => none

/-- A port number; an empty one and the one the scheme implies count as absent. -/
def port? (scheme t : Text) : Option (Option Nat) :=
  let digits := t.takeWhile (· != '\\')
  if digits.isEmpty then some none
  else if digits.all Char.isDigit then
    match readBounded? 65535 digits with
    | some n => some (if impliedPort? scheme = some n then none else some n)
    | none => none
  else none

/-- User information as it is written, from the text in front of the last at sign. -/
def writeUserInfo (t : Text) : Text :=
  match cutAt? ':' t with
  | some (name, word) =>
    percentEncode inUserInfo name
      ++ (if word.isEmpty then [] else ':' :: percentEncode inUserInfo word)
  | none => percentEncode inUserInfo t

/-- The text in front of the last at sign, if there is one, and the text behind it. -/
def cutUserInfo (t : Text) : Option Text × Text :=
  match cutAt? '@' t.reverse with
  | some (behind, front) => (some front.reverse, behind.reverse)
  | none => (none, t)

/-- Host and port of an authority: the first colon outside brackets divides them. -/
def cutPort : (inside : Bool) → Text → Text × Option Text
  | _, [] => ([], none)
  | inside, c :: cs =>
    if c = ':' ∧ !inside then ([], some cs)
    else
      let (host, port) := cutPort (if c = '[' then true else if c = ']' then false else inside) cs
      (c :: host, port)

/-- User information, host and port of an authority; `followed` says that something stands behind
it. -/
def authority? (scheme : Text) (followed : Bool) (t : Text) :
    Option (Text × Option Text × Option Nat) := do
  let (user, server) := cutUserInfo t
  let (hostText, portText) := cutPort false server
  let host ← if isWebScheme scheme then readHost? hostText else readVerbatimHost? hostText
  let port ← match portText with
    | some digits => port? scheme digits
    | none => some none
  let userInfo := (user.map writeUserInfo).getD []
  let needsHost := portText.isSome || !userInfo.isEmpty || (user == some [] && followed)
  if host.isEmpty && needsHost then none
  else some (userInfo, some host, port)

/-- Without the characters that an address may be surrounded by and without line ends and tabs. -/
def cleaned (t : Text) : Text :=
  (trimBoth (fun c => c.toNat ≤ 0x20) t).filter fun c => !(c == '\t' || c == '\n' || c == '\r')

/-- The part of an address between scheme and query; `followed` says that a query or a fragment
stands behind it. -/
def hierarchy? (scheme : Text) (followed : Bool) (t : Text) :
    Option (Text × Option Text × Option Nat × Bool) :=
  if scheme = "file".toList then
    match t with
    | a :: b :: rest =>
      if isSlash a && isSlash b then
        (fileHost? rest).map fun host => ([], some host, none, true)
      else some ([], some [], none, true)
    | _ => some ([], some [], none, true)
  else if isWebScheme scheme then
    let server := t.dropWhile isSlash
    (authority? scheme (followed || server.any isSlash) (server.takeWhile fun c => !isSlash c)).map
      fun (user, host, port) => (user, host, port, true)
  else match t with
    | '/' :: '/' :: rest =>
      (authority? scheme (followed || rest.contains '/') (rest.takeWhile (· != '/'))).map
        fun (user, host, port) => (user, host, port, true)
    | '/' :: _ => some ([], none, none, true)
    | _ => some ([], none, none, false)

/-- The address a text names. -/
def parse? (t : Text) : Option Address := do
  let (scheme, rest) ← scheme? (cleaned t)
  let (front, fragment) := match cutAt? '#' rest with
    | some (front, fragment) => (front, some (percentEncode inFragment fragment))
    | none => (rest, none)
  let path := front.takeWhile (· != '?')
  let (user, host, port, rooted) ← hierarchy? scheme (path.length < rest.length) path
  some ⟨scheme, user, host, port, rooted, fragment⟩

/-- The port of an address, if it has one or its scheme implies one. -/
def portOrImplied? (a : Address) : Option Nat := a.port <|> impliedPort? a.scheme

/-- What stands in front of the path. -/
def origin (a : Address) : Text :=
  a.scheme ++ ':' :: match a.host with
    | some host =>
      "//".toList ++ (if a.userInfo.isEmpty then [] else a.userInfo ++ ['@']) ++ host
        ++ (match a.port with
          | some n => ':' :: Text.ofNat n
          | none => [])
    | none => []

/-- An address of the same server with another path and query. -/
def withTarget (a : Address) (target : Text) : Text :=
  a.origin ++ target ++ (match a.fragment with
    | some f => '#' :: f
    | none => [])

end Address
end ProxySteward
