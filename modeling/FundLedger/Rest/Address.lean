import FundLedger.Rest.Host
/-!
# Addresses of servers

The address of a server gives a scheme, a host, perhaps a port, and a directory below which the server's paths are.
Some schemes need a host; an address of another scheme may have no directory, and then no path can follow it.

* `Address`, `Address.ofText?`: addresses, and reading them.
* `Address.ofBase?`: the address of a server.
* `Address.origin`: what stands in front of the directory.
-/

namespace FundLedger

/-- The address of a server. -/
structure Address where
  scheme : String
  /-- The user and the password, encoded, if the address has them. -/
  credentials : Option (String × Option String)
  host : String
  /-- The port, unless it is the usual one of the scheme. -/
  port : Option Nat
  /-- The path up to its last `/`; none where no path can follow. -/
  directory : Option String
deriving DecidableEq

namespace Address

/-- Whether the scheme needs a host. -/
def isSpecial (scheme : String) : Bool := ["http", "https", "ws", "wss", "ftp", "file"].contains scheme

/-- The usual port of a scheme. -/
def usualPort : String → Option Nat
  | "http" | "ws" => some 80
  | "https" | "wss" => some 443
  | "ftp" => some 21
  | _ => none

/-- Whether a character may stand in a scheme, behind its first letter. -/
def isSchemeChar (c : Char) : Bool := c.isAlphanum || c == '+' || c == '-' || c == '.'

/-- The scheme in front of the first colon, in lower case, and what follows. -/
def scheme? (cs : List Char) : Option (String × List Char) :=
  match cs.takeWhile isSchemeChar, cs.dropWhile isSchemeChar with
  | c :: name, ':' :: rest => if c.isAlpha then some (String.ofList ((c :: name).map Char.toLower), rest) else none
  | _, _ => none

/-- Whether a text is the name of a disk: a letter and a colon or bar. -/
def isDisk : List Char → Bool
  | [letter, mark] => letter.isAlpha && (mark == ':' || mark == '|')
  | _ => false

/-! ## Hosts with their surroundings -/

/-- The host and the port behind it.  A colon between brackets does not end the host. -/
def splitPort (inBrackets : Bool) : List Char → List Char × List Char
  | [] => ([], [])
  | c :: cs =>
    if c = ':' ∧ !inBrackets then ([], c :: cs)
    else
      let (host, behind) := splitPort (if c = '[' then true else if c = ']' then false else inBrackets) cs
      (c :: host, behind)

/-- The port behind a host, if it is one; a backslash may end it under any scheme. -/
def port? : List Char → Option (Option Nat)
  | [] => some none
  | _ :: behind =>
    let ds := behind.takeWhile (· != '\\')
    if ds.isEmpty then some none else ((natOfDigits? ds).filter (· < UInt16.size)).map some

/-- What stands in front of the last `@`, if there is one, and behind it. -/
def splitCredentials (cs : List Char) : Option (List Char) × List Char :=
  let back := (cs.reverse.takeWhile (· != '@')).reverse
  (if back.length < cs.length then some (cs.take (cs.length - back.length - 1)) else none, back)

/-- Whether a character stands for itself in a user or password. -/
def isCredentialSafe (c : Char) : Bool :=
  0x20 < c.toNat && c.toNat < 0x7F && !("\"#<>?\x60\x7b\x7d/:;=@[\\]^|".toList.contains c)

/-- The user and the password in front of an `@`, with a colon between them; an empty password does not count. -/
def credentialsOf (cs : List Char) : Option (String × Option String) :=
  let encoded (part : List Char) : String := String.ofList (percentEncoded isCredentialSafe part)
  let (user, password) := cutAtChar ':' cs
  if user.isEmpty && password.isEmpty then none
  else some (encoded user, if password.isEmpty then none else some (encoded password))

/-! ## Paths -/

/-- Whether a character stands for itself in a path. -/
def isPathSafe (c : Char) : Bool := 0x20 < c.toNat && c.toNat < 0x7F && !("\"#<>?\x60\x7b\x7d".toList.contains c)

/-- How many points a segment consists of, each written as itself or as `%2e`; none for any other segment. -/
def pointCount? : List Char → Option Nat
  | [] => some 0
  | '.' :: rest | '%' :: '2' :: 'e' :: rest | '%' :: '2' :: 'E' :: rest => (pointCount? rest).map (· + 1)
  | _ => none

/-- The segments of a path without those that stand for the same or the upper directory.  There is none above a disk. -/
def resolveDots (segments : List (List Char)) : List (List Char) :=
  (segments.foldl (fun kept segment =>
    match pointCount? segment with
    | some 1 => kept
    | some 2 => if kept.head?.any isDisk then kept else kept.drop 1
    | _ => segment :: kept) []).reverse

/-- The directory of a path, which may have parameters or a mark behind it. -/
def directoryOf (special : Bool) (cs : List Char) : String :=
  let path := cs.takeWhile fun c => c != '?' && c != '#'
  let path := if special then path.map fun c => if c = '\\' then '/' else c else path
  let path := if path.head? = some '/' then path.drop 1 else path
  let folders := (splitAtChar '/' (percentEncoded isPathSafe path)).dropLast
  String.ofList ('/' :: (resolveDots folders).flatMap fun segment => segment ++ ['/'])

/-! ## Reading -/

/-- Reads what follows the two slashes. -/
def ofAuthority? (scheme : String) (special : Bool) (cs : List Char) : Option Address := do
  let ends (c : Char) : Bool := c == '/' || c == '?' || c == '#' || (special && c == '\\')
  let (inFront, hostAndPort) := splitCredentials (cs.takeWhile fun c => !ends c)
  let (host, behind) := splitPort false hostAndPort
  let credentials := inFront.bind credentialsOf
  if host.isEmpty && (special || !behind.isEmpty || inFront.any (·.isEmpty) || credentials.isSome) then none
  let host ← if special then hostOf? host else opaqueHostOf? host
  let port ← port? behind
  return { scheme
           credentials
           host := String.ofList host
           port := if port = usualPort scheme then none else port
           directory := some (directoryOf special (cs.dropWhile fun c => !ends c)) }

/-- An address without a host. -/
def withoutHost (scheme : String) (directory : Option String) : Address :=
  { scheme, credentials := none, host := "", port := none, directory }

/-- Reads what follows the scheme of a file.  A host may stand behind two slashes. -/
def ofFile? (cs : List Char) : Option Address :=
  let isSlash (c : Char) : Bool := c == '/' || c == '\\'
  match cs with
  | a :: b :: rest =>
    let host := rest.takeWhile fun c => !(isSlash c || c == '?' || c == '#')
    let address := withoutHost "file" (some (directoryOf true (rest.drop host.length)))
    if !(isSlash a && isSlash b) then some (withoutHost "file" (some (directoryOf true cs)))
    else if isDisk host then some (withoutHost "file" (some (directoryOf true rest)))
    else if host.isEmpty then some address
    else (hostOf? host).map fun host => if host = "localhost".toList then address else { address with host := String.ofList host }
  | _ => some (withoutHost "file" (some (directoryOf true cs)))

/-- Reads an address.  Blanks around it do not count, nor do line ends and tabs anywhere. -/
def ofText? (s : String) : Option Address := do
  let isOuter (c : Char) : Bool := c.toNat ≤ 0x20
  let inner := ((s.toList.dropWhile isOuter).reverse.dropWhile isOuter).reverse
  let (scheme, rest) ← scheme? (inner.filter fun c => c != '\t' && c != '\n' && c != '\r')
  if scheme = "file" then ofFile? rest
  else if isSpecial scheme then ofAuthority? scheme true (rest.dropWhile fun c => c == '/' || c == '\\')
  else
    match rest with
    | '/' :: '/' :: rest => ofAuthority? scheme false rest
    | '/' :: rest => some (withoutHost scheme (some (directoryOf false ('/' :: rest))))
    | _ => some (withoutHost scheme none)

/-- Reads the address of a server, to which paths are added. -/
def ofBase? (s : String) : Option Address :=
  ofText? (if s.toList.getLast? = some '/' then s else s ++ "/")

/-- The host with its port. -/
def authority (a : Address) : String :=
  a.host ++ (a.port.elim "" fun port => ":" ++ toString port)

/-- The address in front of the directory, without credentials. -/
def origin (a : Address) : String := a.scheme ++ "://" ++ a.authority

end Address

end FundLedger
