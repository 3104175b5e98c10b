import StakingGateway.Bytes.Hex

/-!
# Request targets

A target is a path, which may follow a scheme and an authority and may have a query and a fragment
behind it.  A scheme ends before a colon and two slashes; an authority is a host with its port,
which may follow the name of a user and an at sign.  Only the path tells where a request goes:
`path?` reads it with its escapes replaced.
-/

namespace StakingGateway.Target

def lengthLimit : Nat := 65534

def schemeLimit : Nat := 64

/-- The most colons between the marks of an authority, as a written-out address has them. -/
def colonLimit : Nat := 8

def isVisible (c : Char) : Bool :=
  0x21 ≤ c.toNat && c.toNat < 0x7f

def isSchemeChar (c : Char) : Bool :=
  c.isAlphanum || "+-.~".toList.contains c

def isAuthorityChar (c : Char) : Bool :=
  c.isAlphanum || "!$%&'()*+,-.:;=@[]_~".toList.contains c

def isPathChar (c : Char) : Bool :=
  isVisible c && !"#<>?`".toList.contains c

def isQueryChar (c : Char) : Bool :=
  isVisible c && !"\"#<>".toList.contains c

/-- Whether a stretch of an authority, up to an at sign or a closing bracket, has no escape before a
bracket and not too many colons. -/
def isStretch (text : List Char) : Bool :=
  text.count ':' ≤ colonLimit &&
    !(text.contains '[' && (text.takeWhile (· != '[')).contains '%')

/-- Whether a text is an authority.  It holds one pair of brackets at most; a host follows the last
at sign, and behind the closing bracket, if it has one, the host has no escape and one colon at most,
that of its port. -/
def isAuthority (text : List Char) : Bool :=
  let brackets := text.filter fun c => c = '[' || c = ']'
  let host := (text.reverse.takeWhile (· != '@')).reverse
  let last := (host.reverse.takeWhile (· != ']')).reverse
  text.all isAuthorityChar && (brackets.isEmpty || brackets = ['[', ']']) && !host.isEmpty &&
    (text.splitOnP fun c => c = '@' || c = ']').all isStretch &&
    last.count ':' ≤ 1 && !last.contains '%'

/-- What stands behind the scheme of a target, if it has one. -/
def behindScheme? (target : List Char) : Option (List Char) :=
  let scheme := target.takeWhile isSchemeChar
  match target.drop scheme.length with
  | ':' :: '/' :: '/' :: rest => if scheme.length ≤ schemeLimit then some rest else none
  | _ => none

def readPath? (text : List Char) : Option (List Char) :=
  let path := text.takeWhile fun c => c != '?' && c != '#'
  let query :=
    match text.drop path.length with
    | '?' :: rest => rest.takeWhile (· != '#')
    | _ => []
  if path.all isPathChar && query.all isQueryChar then some path else none

/-- Replaces escapes in a path by the characters they stand for, but for those that would change
its structure. -/
def unescape : List Char → List Char
  | '%' :: high :: low :: rest =>
    match Hex.decode? (String.ofList [high, low]) with
    | some [byte] =>
      let c := Char.ofNat byte.toNat
      if c = '%' || c = '/' || c = '+' then '%' :: high :: low :: unescape rest
      else c :: unescape rest
    | _ => '%' :: unescape (high :: low :: rest)
  | c :: rest => c :: unescape rest
  | [] => []

def path? (target : String) : Option String := do
  if lengthLimit < target.utf8ByteSize then none
  else
    let path ← match target.toList with
      | '/' :: rest => readPath? ('/' :: rest)
      | chars => do
        let rest ← behindScheme? chars
        let authority := rest.takeWhile fun c => c != '/' && c != '?' && c != '#'
        if isAuthority authority then readPath? (rest.drop authority.length) else none
    return String.ofList (unescape path)

end StakingGateway.Target
