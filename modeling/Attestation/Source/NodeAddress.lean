import Attestation.HostName.Basic
import Attestation.Text.Percent

/-!
# Addresses of nodes

The address of a node names a scheme, a host and a port. `http` and `https` have a default port and
are lenient about the slashes before the host, which is a domain or an IP address; `tcp` asks for
two slashes, a host and a port. Blanks around an address and line breaks within do not count, and
what follows the port is not looked at.
-/

namespace Attestation

/-- How a node is reached. -/
inductive NodeScheme where
  | http
  | https
  | tcp
deriving DecidableEq

/-- The port that is meant where none is given. -/
def NodeScheme.defaultPort? : NodeScheme → Option Nat
  | http => some 80
  | https => some 443
  | tcp => none

/-- The address of a node. -/
structure NodeAddress where
  /-- How the node is reached. -/
  scheme : NodeScheme
  /-- The host, as written. -/
  host : String
  /-- The port. -/
  port : Nat
  port_lt : port < 65536

namespace NodeAddress

/-! ### Hosts -/

/-- A part of an IPv4 address: hexadecimal behind `0x`, octal behind `0`, or decimal. -/
def ipv4Part? : List Char → Option Nat
  | [] => none
  | '0' :: 'x' :: digits | '0' :: 'X' :: digits => Text.numeral? 16 digits
  | '0' :: digit :: digits => Text.numeral? 8 (digit :: digits)
  | digits => Text.numeral? 10 digits

/-- Whether parts form an IPv4 address: at most four, all but the last below 256, and the last one
filling the remaining bytes. -/
def isIPv4 (parts : List (List Char)) : Bool :=
  match parts.mapM ipv4Part? with
  | none => false
  | some values =>
    0 < values.length && values.length ≤ 4 && values.dropLast.all (· < 256) &&
      values.getLast?.any (· < Nat.pow 256 (5 - values.length))

/-- The labels of a domain without an empty one at its end, which does not count. -/
def significant (labels : List (List Char)) : List (List Char) :=
  if labels.length ≠ 1 ∧ labels.getLast? = some [] then labels.dropLast else labels

/-- Whether the last label is a number, so that the domain has to be an IPv4 address. -/
def endsInNumber (labels : List (List Char)) : Bool :=
  match labels.getLast? with
  | none => false
  | some last => (last ≠ [] && last.all Char.isDigit) || (ipv4Part? last).isSome

/-- Whether a percent-decoded domain is a host. -/
def isDomain (domain : List Char) : Bool :=
  match HostName.labels? domain with
  | none => false
  | some labels =>
    labels ≠ [[]] && (!endsInNumber (significant labels) || isIPv4 (significant labels))

/-- Characters that no other host contains: blanks, and those with a meaning in addresses. -/
def isForbidden (c : Char) : Bool :=
  "\x00 #/:<>?@[\\]^|".toList.contains c

/-- Whether a piece of an IPv6 address is a group of up to four hexadecimal digits. -/
def isGroup (piece : List Char) : Bool :=
  0 < piece.length && piece.length ≤ 4 && piece.all fun c => (Bytes.hexValue? c).isSome

/-- Whether a piece is an IPv4 address of four decimal numbers without leading zeros. -/
def isDottedQuad (piece : List Char) : Bool :=
  let parts := piece.splitOn '.'
  parts.length = 4 && parts.all fun part =>
    part ≠ [] && part.all Char.isDigit && (part.length = 1 || part.head? ≠ some '0') &&
      (Text.numeral? 10 part).any (· < 256)

/-- The number of groups of pieces between colons, the last of which may be an IPv4 address where
`closing` says so. -/
def groupCount? (closing : Bool) : List (List Char) → Option Nat
  | [] => some 0
  | [piece] =>
    if isGroup piece then some 1 else if closing && isDottedQuad piece then some 2 else none
  | piece :: pieces => if isGroup piece then (groupCount? closing pieces).map (· + 1) else none

/-- Splits a text at the first pair of colons. -/
def splitAtGap : List Char → Option (List Char × List Char)
  | ':' :: ':' :: rest => some ([], rest)
  | c :: rest => (splitAtGap rest).map fun (before, behind) => (c :: before, behind)
  | [] => none

/-- The number of groups between colons; an empty text has none. -/
def countGroups? (closing : Bool) (text : List Char) : Option Nat :=
  if text = [] then some 0 else groupCount? closing (text.splitOn ':')

/-- Whether a text is an IPv6 address: eight groups, or fewer around one gap. -/
def isIPv6 (text : List Char) : Bool :=
  match splitAtGap text with
  | none => countGroups? true text = some 8
  | some (before, behind) =>
    match countGroups? false before, countGroups? true behind with
    | some m, some n => m + n ≤ 7
    | _, _ => false

/-- Whether a text is a host under a scheme. -/
def isHost (scheme : NodeScheme) (host : List Char) : Bool :=
  match host with
  | '[' :: rest => rest.getLast? = some ']' && isIPv6 rest.dropLast
  | _ =>
    match scheme with
    | .tcp => host ≠ [] && host.all (!isForbidden ·)
    | _ => isDomain (Text.lossy (Text.percentDecode (Bytes.ofText (String.ofList host)))).toList

/-! ### Addresses -/

/-- Removes blanks and control characters at both ends, and line breaks and tabs everywhere. -/
def clean (text : List Char) : List Char :=
  let trimmed := ((text.dropWhile (· ≤ ' ')).reverse.dropWhile (· ≤ ' ')).reverse
  trimmed.filter fun c => c ≠ '\t' && c ≠ '\n' && c ≠ '\r'

/-- The scheme in front of the first colon, in letters of either case, and what follows it. -/
def takeScheme? (text : List Char) : Option (NodeScheme × List Char) :=
  match (text.takeWhile (· ≠ ':')).map Char.toLower, text.dropWhile (· ≠ ':') with
  | ['h', 't', 't', 'p'], ':' :: rest => some (.http, rest)
  | ['h', 't', 't', 'p', 's'], ':' :: rest => some (.https, rest)
  | ['t', 'c', 'p'], ':' :: rest => some (.tcp, rest)
  | _, _ => none

/-- Whether a character is a slash under a scheme. -/
def isSlash (scheme : NodeScheme) (c : Char) : Bool :=
  c = '/' || (c = '\\' && scheme ≠ .tcp)

/-- The text between the slashes in front of the host and the path behind the port. -/
def takeAuthority? (scheme : NodeScheme) (text : List Char) : Option (List Char) :=
  let upToPath (s : List Char) := s.takeWhile fun c => !isSlash scheme c && c ≠ '?' && c ≠ '#'
  match scheme, text with
  | .tcp, '/' :: '/' :: rest => some (upToPath rest)
  | .tcp, _ => none
  | _, _ => some (upToPath (text.dropWhile (isSlash scheme)))

/-- What follows the last `@`: the part in front of it names a user. -/
def dropUser (authority : List Char) : List Char :=
  (authority.reverse.takeWhile (· ≠ '@')).reverse

/-- Splits a host from the port behind its last colon outside brackets. -/
def splitPort (text : List Char) : List Char × List Char :=
  match text with
  | '[' :: _ =>
    let host := text.takeWhile (· ≠ ']')
    let behind := text.drop host.length
    (host ++ behind.take 1, behind.drop 1)
  | _ => (text.takeWhile (· ≠ ':'), text.dropWhile (· ≠ ':'))

/-- The port that a text behind the host gives: none, or a colon and perhaps digits. A backslash
ends the digits also under a scheme where it is no slash. -/
def port? (scheme : NodeScheme) : List Char → Option Nat
  | [] => scheme.defaultPort?
  | ':' :: rest =>
    let digits := rest.takeWhile (· ≠ '\\')
    if digits = [] then scheme.defaultPort?
    else if digits.all Char.isDigit then Text.numeral? 10 digits
    else none
  | _ => none

/-- The address that a text spells. -/
def ofText? (text : String) : Option NodeAddress :=
  match takeScheme? (clean text.toList) with
  | none => none
  | some (scheme, rest) =>
    match (takeAuthority? scheme rest).map fun authority => splitPort (dropUser authority) with
    | none => none
    | some (host, behind) =>
      match port? scheme behind with
      | none => none
      | some port =>
        if h : port < 65536 then
          if isHost scheme host then some ⟨scheme, String.ofList host, port, h⟩ else none
        else none

end NodeAddress

end Attestation
