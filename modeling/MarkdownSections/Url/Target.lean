import MarkdownSections.Text.Fold
import MarkdownSections.Text.LetterCase
import MarkdownSections.Url.Percent
import MarkdownSections.Url.Punycode

/-!
# Link targets

A link target is split into its parts, its host name is written in ASCII, and the whole is percent
encoded. The text shown for a target goes the other way. Two slashes in front always announce a
host; so does every protocol that is not known to need slashes.
-/

set_option autoImplicit false

namespace MarkdownSections.Url

/-- The parts of a link target; a part that is missing is empty. -/
structure Target where
  protocol : List Char := []
  slashes : Bool := false
  user : List Char := []
  host : List Char := []
  port : List Char := []
  path : List Char := []
  query : List Char := []
  fragment : List Char := []
deriving DecidableEq, Repr

/-! ## Splitting -/

/-- The characters of a protocol name. -/
def isProtocolChar (c : Char) : Bool :=
  Text.isFoldedAlphanum c || c = '.' || c = '+' || c = '-'

/-- Splits off a protocol with its colon. -/
def splitProtocol (cs : List Char) : List Char × List Char :=
  match cs.takeWhile isProtocolChar, cs.dropWhile isProtocolChar with
  | name@(_ :: _), ':' :: rest => (name ++ [':'], rest)
  | _, _ => ([], cs)

/-- Protocols whose targets have two slashes in front of the host. -/
def needsSlashes (protocol : List Char) : Bool :=
  ["http:", "https:", "ftp:", "gopher:", "file:"].contains (String.ofList protocol)

/-- Protocols whose targets have no host. -/
def isHostless (protocol : List Char) : Bool :=
  String.ofList protocol == "javascript:"

/-- The characters at which a user name has to have ended. -/
def endsAuthority (c : Char) : Bool :=
  c = '/' || c = '?' || c = '#'

/-- The characters at which a host name ends. -/
def endsHost (c : Char) : Bool :=
  endsAuthority c || ['%', ';', '\'', '{', '}', '|', '\\', '^', '\x60', '<', '>', '"', ' ', '\r',
    '\n', '\t'].contains c

/-- Splits a text at the last character that satisfies `p`: what stands in front of it and what
follows. -/
def splitLast? (p : Char → Bool) (cs : List Char) : Option (List Char × List Char) :=
  let back := cs.reverse
  match back.dropWhile (!p ·) with
  | [] => none
  | _ :: front => some (front.reverse, (back.takeWhile (!p ·)).reverse)

/-- Splits off a user name: everything up to the last at sign of the authority. -/
def splitUser (cs : List Char) : List Char × List Char :=
  match splitLast? (· == '@') (cs.takeWhile (!endsAuthority ·)) with
  | some (user, _) => (user, cs.drop (user.length + 1))
  | none => ([], cs)

/-- Splits off the text of a host and its port; a colon at its end is left behind. -/
def splitHostText (cs : List Char) : List Char × List Char :=
  let host := cs.takeWhile (!endsHost ·)
  let host := if host.getLast? = some ':' then host.dropLast else host
  (host, cs.drop host.length)

/-- Splits a host text into the name and the port. -/
def splitPort (cs : List Char) : List Char × List Char :=
  match splitLast? (!Char.isDigit ·) cs with
  | some (front, digits) =>
    if (cs.drop front.length).head? = some ':' then (front, digits) else (cs, [])
  | none => (cs, [])

/-- The characters of a host label. -/
def isHostChar (c : Char) : Bool :=
  c.isAlphanum || c = '+' || c = '_' || c = '-'

/-- Whether a label of a host name is valid, characters beyond ASCII admitted. -/
def isHostLabel (cs : List Char) : Bool :=
  cs.length ≤ 63 && cs.all fun c => isHostChar c || 0x7F < c.toNat

/-- The valid start of a list of labels, and what follows it: nothing, if all are valid. -/
def validLabels : List (List Char) → List (List Char) × List (List Char)
  | [] => ([], [])
  | label :: labels =>
    if isHostLabel label then
      let (valid, rest) := validLabels labels
      (label :: valid, rest)
    else
      let front := (label.take 63).takeWhile isHostChar
      ([front], label.drop front.length :: labels)

/-- Cuts a host name at its first invalid label; what is cut off goes back in front of the rest. -/
def validateHost (host rest : List Char) : List Char × List Char :=
  let (valid, cut) := validLabels (Text.splitWhen (· == '.') host)
  let rest := if cut.isEmpty then rest else ['.'].intercalate cut ++ rest
  let host := ['.'].intercalate valid
  (if 255 < host.length then [] else host, rest)

/-- Whether a host name is an address in brackets. -/
def isBracketed (host : List Char) : Bool :=
  host.head? = some '[' && host.getLast? = some ']' && 2 ≤ host.length

/-- Splits off user name, host and port in front of a text. -/
def splitAuthority (target : Target) (cs : List Char) : Target × List Char :=
  let (user, rest) := splitUser cs
  let (hostText, rest) := splitHostText rest
  let (host, port) := splitPort hostText
  if isBracketed host then
    let host := if 255 < host.length then [] else (host.drop 1).dropLast
    ({ target with user, port, host }, rest)
  else
    let (host, rest) := validateHost host rest
    ({ target with user, port, host }, rest)

/-- Splits a link target into its parts. -/
def Target.parse (url : List Char) : Target :=
  let (protocol, rest) := splitProtocol (Text.trim url)
  let slashed := ['/', '/'].isPrefixOf rest
  let hostless := isHostless protocol
  let start : Target := { protocol, slashes := slashed && !hostless }
  let rest := if start.slashes then rest.drop 2 else rest
  let hasHost := !hostless && (slashed || (!protocol.isEmpty && !needsSlashes protocol))
  let (target, rest) := if hasHost then splitAuthority start rest else (start, rest)
  let fragment := rest.dropWhile (· != '#')
  let rest := rest.takeWhile (· != '#')
  { target with
    fragment
    query := rest.dropWhile (· != '?')
    path := rest.takeWhile (· != '?') }

/-! ## Joining -/

/-- The text in front of the host name. -/
def Target.front (t : Target) : List Char :=
  t.protocol ++ (if t.slashes then ['/', '/'] else [])
    ++ (if t.user.isEmpty then [] else t.user ++ ['@'])

/-- The text behind the host name. -/
def Target.back (t : Target) : List Char :=
  (if t.port.isEmpty then [] else ':' :: t.port) ++ t.path ++ t.query ++ t.fragment

/-- Whether the host is a numeric address, which stands in brackets. -/
def Target.hasAddress (t : Target) : Bool :=
  t.host.contains ':'

/-- The text of a link target. -/
def Target.toText (t : Target) : List Char :=
  t.front ++ (if t.hasAddress then '[' :: t.host ++ [']'] else t.host) ++ t.back

/-- The percent-encoded text of a link target; the brackets around an address stay. -/
def Target.toEncoded (t : Target) : List Char :=
  if t.hasAddress then encode t.front ++ '[' :: encode t.host ++ ']' :: encode t.back
  else encode t.toText

/-- Protocols whose host names may be spelled anew; so may those of a target without a protocol. -/
def respellsHost (protocol : List Char) : Bool :=
  protocol.isEmpty || ["http:", "https:", "mailto:"].contains (String.ofList protocol)

/-- Replaces the host name of a target by its image under `f`, where its protocol allows that. -/
def Target.mapHost (f : List Char → List Char) (t : Target) : Target :=
  if respellsHost t.protocol && !t.host.isEmpty then { t with host := f t.host } else t

/-- The form in which a link target is stored. -/
def normalize (url : List Char) : List Char :=
  ((Target.parse url).mapHost Punycode.toAscii).toEncoded

/-- The form in which a link target is shown. -/
def display (url : List Char) : List Char :=
  decode ((Target.parse url).mapHost Punycode.toUnicode).toText

/-- Whether a link may have a target: protocols that run code or read files are refused, except
images given as data. -/
def isAllowed (url : List Char) : Bool :=
  let cs := Text.lower (Text.trim url)
  let starts (s : String) : Bool := s.toList.isPrefixOf cs
  if starts "data:" then
    ["data:image/gif;", "data:image/png;", "data:image/jpeg;", "data:image/webp;"].any starts
  else !(["vbscript:", "javascript:", "file:"].any starts)

end MarkdownSections.Url
