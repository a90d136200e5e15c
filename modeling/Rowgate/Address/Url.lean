/-
  Absolute addresses with a host.

  Control characters and spaces at both ends and all tabs and line breaks are
  dropped first.  The schemes `http`, `https`, `ws`, `wss` and `ftp` always have
  a host, `file` may have one, and any other scheme has one after two slashes.
-/
import Rowgate.Address.Host

namespace Rowgate.Address

/-- How the text after a scheme is read. -/
inductive SchemeKind where
  | web
  | file
  | other
deriving DecidableEq

def SchemeKind.ofName (s : List Char) : SchemeKind :=
  if ["http", "https", "ws", "wss", "ftp"].any (Text.sameWord s ·.toList) then .web
  else if Text.sameWord s "file".toList then .file
  else .other

/-- Whether backslashes count as slashes. -/
def SchemeKind.isSpecial (k : SchemeKind) : Bool :=
  k ≠ .other

/-- The scheme and what follows its colon. -/
def scheme? (s : List Char) : Option (List Char × List Char) :=
  let name := s.takeWhile fun c => c.isAlphanum || c = '+' || c = '-' || c = '.'
  match s.drop name.length with
  | ':' :: r => if name.head?.any Char.isAlpha then some (name, r) else none
  | _ => none

/-- Whether `c` ends the part of an address that names user, host and socket. -/
def endsAuthority (special : Bool) (c : Char) : Bool :=
  c = '/' || c = '?' || c = '#' || (special && c = '\\')

/-- The number of a socket: digits below 65536, or nothing. -/
def isSocketNumber (s : List Char) : Bool :=
  s.isEmpty || (Text.digits? s).any (· < 65536)

/-- Splits at the first colon outside of brackets. -/
def hostAndRest (inside : Bool) : List Char → List Char × List Char
  | [] => ([], [])
  | c :: r =>
    if c = ':' && !inside then ([], c :: r)
    else
      let (h, rest) := hostAndRest (if c = '[' then true else if c = ']' then false else inside) r
      (c :: h, rest)

/-- Whether user, host and socket are well formed and the host is not empty.  The user
    ends at the last at sign. -/
def hasHost (special : Bool) (s : List Char) : Bool :=
  let authority := s.takeWhile (!endsAuthority special ·)
  let afterUser := (authority.reverse.takeWhile (· ≠ '@')).reverse
  let (host, socket) := hostAndRest false afterUser
  !host.isEmpty && (if special then isDomain host else isOpaque host) &&
    isSocketNumber (socket.drop 1)

/-- A letter and a colon or bar: the name of a drive. -/
def isDrive : List Char → Bool
  | [c, d] => c.isAlpha && (d = ':' || d = '|')
  | _ => false

def isSlash (c : Char) : Bool :=
  c = '/' || c = '\\'

/-- Whether a file address names a machine other than this one and no drive. -/
def fileHasHost : List Char → Bool
  | a :: b :: r =>
    let host := r.takeWhile (!endsAuthority true ·)
    let path := (r.drop host.length).takeWhile fun c => c ≠ '?' && c ≠ '#'
    let first := ((path.drop 1).takeWhile (!isSlash ·))
    isSlash a && isSlash b && !host.isEmpty && !isDrive host && isDomain host &&
      !Text.sameWord host "localhost".toList && !isDrive first
  | _ => false

/-- Drops characters up to the plain space at both ends, and all tabs and line
    breaks. -/
def cleaned (s : List Char) : List Char :=
  let low (c : Char) : Bool := c.toNat ≤ 0x20
  (((s.dropWhile low).reverse.dropWhile low).reverse).filter fun c =>
    c ≠ '\t' && c ≠ '\n' && c ≠ '\r'

/-- Whether a text is an absolute address with a host. -/
def isUrl (s : String) : Bool :=
  match scheme? (cleaned s.toList) with
  | none => false
  | some (name, r) =>
    match SchemeKind.ofName name with
    | .web => hasHost true (r.dropWhile isSlash)
    | .file => fileHasHost r
    | .other =>
      match r with
      | '/' :: '/' :: r => hasHost false r
      | _ => false

end Rowgate.Address
