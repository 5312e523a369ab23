import ServerLauncher.Url.Address
import ServerLauncher.Url.Basic
import ServerLauncher.Url.Domain

/-!
This module contains the reading of URLs: `Url.parse` reads one that stands for itself, and
`Url.join` one that may be relative to another.
-/

namespace ServerLauncher.Url

/--
Whether a character ends an authority.
-/
def endsAuthority (special : Bool) (c : Char) : Bool :=
  c = '/' || c = '?' || c = '#' || (special && c = '\\')

/--
Whether a character separates segments.
-/
def isSlash (special : Bool) (c : Char) : Bool :=
  c = '/' || (special && c = '\\')

def endsPath (c : Char) : Bool :=
  c = '?' || c = '#'

/--
Read the host of a URL whose scheme has one.
-/
def specialHost (cs : List Char) : Except ParseError String := do
  if cs.head? = some '[' then ipv6 cs.tail
  else
    let some domain := asciiDomain? cs | throw .invalidDomainName
    if domain.isEmpty then throw .emptyHost
    else if endsInNumber domain then
      match ipv4? domain with
      | some address => return String.ofList (ipv4Text address)
      | none => throw .invalidIpv4Address
    else return String.ofList domain
where
  /--
  Read an address with eight groups behind its opening bracket.
  -/
  ipv6 (cs : List Char) : Except ParseError String :=
    match cs.getLast?, ipv6? cs.dropLast with
    | some ']', some groups => .ok (String.ofList ('[' :: ipv6Text groups ++ [']']))
    | _, _ => .error .invalidIpv6Address

/--
Read the host of a URL with another scheme.
-/
def otherHost (cs : List Char) : Except ParseError String :=
  let forbidden := ['\x00', ' ', '#', '/', ':', '<', '>', '?', '@', '[', '\\', ']', '^', '|']
  if cs.head? = some '[' then specialHost.ipv6 cs.tail
  else if cs.any forbidden.contains then .error .invalidDomainCharacter
  else .ok (String.ofList (encode isControl cs))

/--
The characters of a host and what is behind them. A colon ends the host unless it is inside of
brackets.
-/
def splitHost (special inBrackets : Bool) (cs : List Char) : List Char × List Char :=
  match cs with
  | [] => ([], [])
  | c :: rest =>
    if endsAuthority special c || (c = ':' && !inBrackets) then ([], c :: rest)
    else
      let inBrackets := if c = '[' then true else if c = ']' then false else inBrackets
      let (host, behind) := splitHost special inBrackets rest
      (c :: host, behind)

/--
Read a port behind its colon. Leading zeros do not matter.
-/
def readPort (scheme : String) (cs : List Char) : Except ParseError (Option Nat × List Char) :=
  let digits := cs.takeWhile Char.isDigit
  let behind := cs.dropWhile Char.isDigit
  match Text.numberBelow? 65536 digits with
  | none => .error .invalidPort
  | some port =>
    if behind.head?.all (endsAuthority true) then
      let usual := digits.isEmpty || usualPorts.lookup scheme = some port
      .ok (if usual then none else some port, behind)
    else .error .invalidPort

/--
The user name and password in front of the last at sign of an authority, encoded.
-/
def readUser (cs : List Char) : String × String :=
  let (name, password) := Text.cutAt ':' cs
  let text (cs : List Char) : String := String.ofList (encode inUserSet cs)
  (text name, text (password.getD []))

/--
Read an authority behind its two slashes.
-/
def readAuthority (scheme : String) (cs : List Char) :
    Except ParseError (Authority × List Char) := do
  let special := isSpecialScheme scheme
  let inside := cs.takeWhile fun c => !endsAuthority special c
  let behind := cs.dropWhile fun c => !endsAuthority special c
  let hostPart := (inside.reverse.takeWhile (· ≠ '@')).reverse
  let userPart := inside.take (inside.length - hostPart.length - 1)
  let hasUser := inside.contains '@'
  if hasUser ∧ userPart.isEmpty ∧ hostPart.isEmpty ∧ !behind.isEmpty then throw .emptyHost
  let (username, password) := if hasUser then readUser userPart else ("", "")
  let (hostChars, rest) := splitHost special false (hostPart ++ behind)
  if special ∧ hostChars.isEmpty then throw .emptyHost
  let host ← if special then specialHost hostChars else otherHost hostChars
  match rest with
  | ':' :: rest =>
    if host = "" then throw .emptyHost
    let (port, rest) ← readPort scheme rest
    return (⟨username, password, host, port⟩, rest)
  | rest =>
    if host = "" ∧ (username ≠ "" ∨ password ≠ "") then throw .emptyHost
    return (⟨username, password, host, none⟩, rest)

/--
Whether a segment stands for the directory itself.
-/
def isDot (segment : List Char) : Bool :=
  let plain := segment.map Char.toLower
  plain = ".".toList || plain = "%2e".toList

/--
Whether a segment stands for the directory above.
-/
def isDoubleDot (segment : List Char) : Bool :=
  let plain := segment.map Char.toLower
  ["..", ".%2e", "%2e.", "%2e%2e"].any fun text => plain = text.toList

/--
The segments of a path as they are written.
-/
def rawSegments (special : Bool) (cs : List Char) : List (List Char) :=
  Text.pieces '/' (cs.map fun c => if isSlash special c then '/' else c)

/--
Drop the last of the segments, which come last first. The letter of a disk stays.
-/
def dropSegment (ofFile : Bool) (before : List String) : List String :=
  match before with
  | [] => []
  | last :: rest => if ofFile && isDiskLetter last.toList then last :: rest else rest

/--
Take segments behind those in `before`, which come last first. Dots lead nowhere and double dots
back; if they come last, an empty segment stands for the slash in front of them.
-/
def takeSegments (ofFile : Bool) (before : List String) : List (List Char) → List String
  | [] => before
  | segment :: rest =>
    let slash (before : List String) : List String := if rest.isEmpty then "" :: before else before
    let next :=
      if isDoubleDot segment then slash (dropSegment ofFile before)
      else if isDot segment then slash before
      else String.ofList (encode inPathSet segment) :: before
    takeSegments ofFile next rest

/--
The segments of a path behind its first slash, relative to the segments in `base`.
-/
def readNames (scheme : String) (base : List String) (cs : List Char) : List String :=
  let raw := rawSegments (isSpecialScheme scheme) (cs.takeWhile fun c => !endsPath c)
  (takeSegments (scheme = "file") base.reverse raw).reverse

/--
The segments without empty ones in front of the others.
-/
def trimNames (names : List String) : List String :=
  match names.dropWhile (· = "") with
  | [] => [""]
  | names => names

/--
Read a path behind its first slash, relative to the segments in `base`. The paths of files do not
start with several slashes.
-/
def readSegments (scheme : String) (base : List String) (cs : List Char) : UrlPath × List Char :=
  let names := readNames scheme base cs
  (.segments (if scheme = "file" then trimNames names else names), cs.dropWhile fun c => !endsPath c)

/--
Drop a slash in front.
-/
def dropSlash (special : Bool) (cs : List Char) : List Char :=
  match cs with
  | c :: rest => if isSlash special c then rest else c :: rest
  | [] => []

/--
Read the path behind an authority. Only schemes that are not special know a missing one.
-/
def readPath (scheme : String) (cs : List Char) : UrlPath × List Char :=
  let special := isSpecialScheme scheme
  if !special && cs.head?.all endsPath then (.segments [], cs)
  else readSegments scheme [] (dropSlash special cs)

/--
Read query and fragment.
-/
def readTail (scheme : String) (cs : List Char) : Option String × Option String :=
  let fragmentText (cs : List Char) : String := String.ofList (encode inFragmentSet cs)
  match cs with
  | '#' :: rest => (none, some (fragmentText rest))
  | '?' :: rest =>
    let (query, fragment) := Text.cutAt '#' rest
    let inSet := if isSpecialScheme scheme then inSpecialQuerySet else inQuerySet
    (some (String.ofList (encode inSet query)), fragment.map fragmentText)
  | _ => (none, none)

/--
Complete a URL by its query and fragment.
-/
def finish (scheme : String) (authority : Option Authority) (path : UrlPath × List Char) : Url :=
  let (query, fragment) := readTail scheme path.2
  ⟨scheme, authority, path.1, query, fragment⟩

/--
Read a URL behind the two slashes in front of its authority.
-/
def readBehindSlashes (scheme : String) (cs : List Char) : Except ParseError Url := do
  let (authority, rest) ← readAuthority scheme cs
  return finish scheme (some authority) (readPath scheme rest)

def UrlPath.list : UrlPath → List String
  | .whole _ => []
  | .segments names => names

/--
The authority of a file on this machine.
-/
def Authority.local : Authority :=
  ⟨"", "", "", none⟩

/--
Whether a text starts with a segment that is the letter of a disk.
-/
def startsWithDisk (cs : List Char) : Bool :=
  isDiskLetter (cs.takeWhile fun c => !endsAuthority true c)

/--
Read a reference relative to a URL that has segments, and whose scheme is not that of files.
-/
def readRelative (base : Url) (cs : List Char) : Except ParseError Url :=
  match cs with
  | [] => .ok base.withoutFragment
  | c :: rest =>
    if c = '?' then .ok (finish base.scheme base.authority (base.path, cs))
    else if c = '#' then
      .ok { base with fragment := (readTail base.scheme cs).2 }
    else if isSlash true c then
      let behind := rest.dropWhile (isSlash true)
      match rest with
      | next :: others =>
        if isSlash true next then
          readBehindSlashes base.scheme (if c = '/' ∧ next = '/' then others else behind)
        else
          .ok (finish base.scheme base.authority (readSegments base.scheme [] rest))
      | [] => .ok (finish base.scheme base.authority (readSegments base.scheme [] rest))
    else
      .ok (finish base.scheme base.authority
        (readSegments base.scheme base.path.list.dropLast cs))

/--
Read the URL of a file behind its scheme, or a reference relative to one.
-/
def readFileUrl (base : Option Url) (cs : List Char) : Except ParseError Url :=
  match cs with
  | first :: second :: rest =>
    if isSlash true first && isSlash true second then do
      let host := rest.takeWhile fun c => !endsAuthority true c
      let behind := rest.dropWhile fun c => !endsAuthority true c
      if isDiskLetter host then
        return finish "file" (some .local) (readSegments "file" [] rest)
      else
        let host ← if host.isEmpty then pure "" else specialHost host
        let host := if host = "localhost" then "" else host
        return (onDisk host (dropSlash true behind)).getD
          (finish "file" (some ⟨"", "", host, none⟩) (readSegments "file" [] (dropSlash true behind)))
    else .ok (single first (second :: rest))
  | [first] => .ok (single first [])
  | [] => .ok ((base.map withoutFragment).getD (finish "file" (some .local) (.segments [""], [])))
where
  /--
  Read a path that starts with the letter for a disk, behind a host. A disk is local, so that the
  host does not count.
  -/
  onDisk (host : String) (cs : List Char) : Option Url :=
    match readNames "file" [] cs with
    | disk :: names =>
      if host ≠ "" ∧ isDiskLetter disk.toList then
        let path := .segments (withDiskColon disk :: names)
        some (finish "file" (some .local) (path, cs.dropWhile fun c => !endsPath c))
      else none
    | [] => none
  /--
  Read a reference that does not start with two slashes.
  -/
  single (first : Char) (rest : List Char) : Url :=
    let cs := first :: rest
    match base with
    | none => finish "file" (some .local) (readSegments "file" [] (dropSlash true cs))
    | some base =>
      if isSlash true first then
        let disk := base.path.list.head?.filter fun s => isDiskLetter s.toList
        if startsWithDisk rest then
          finish "file" (some .local) (readSegments "file" [] rest)
        else match disk with
          | some disk => finish "file" (some .local) (readSegments "file" [disk] rest)
          | none => finish "file" base.authority (readSegments "file" [] rest)
      else if first = '?' then finish "file" base.authority (base.path, cs)
      else if first = '#' then { base with fragment := (readTail "file" cs).2 }
      else if startsWithDisk cs then finish "file" (some .local) (readSegments "file" [] cs)
      else
        finish "file" base.authority (readSegments "file" base.path.list.dropLast cs)

/--
Read the scheme of a URL, in lower case, and what is behind its colon.
-/
def readScheme? (cs : List Char) : Option (String × List Char) :=
  match Text.cutAt ':' cs with
  | (scheme, some rest) =>
    let isSchemeChar (c : Char) : Bool := c.isAlphanum || c = '+' || c = '-' || c = '.'
    if scheme.head?.any Char.isAlpha && scheme.all isSchemeChar then
      some (String.ofList (scheme.map Char.toLower), rest)
    else none
  | (_, none) => none

/--
Read a URL behind its scheme.
-/
def readBehindScheme (base : Option Url) (scheme : String) (cs : List Char) :
    Except ParseError Url :=
  if scheme = "file" then readFileUrl (base.filter fun b => b.scheme = "file") cs
  else if isSpecialScheme scheme then
    let slashes := cs.takeWhile (isSlash true)
    match base with
    | some base =>
      if slashes.length < 2 ∧ base.scheme = scheme then readRelative base cs
      else readBehindSlashes scheme (cs.drop slashes.length)
    | none => readBehindSlashes scheme (cs.drop slashes.length)
  else match cs with
    | '/' :: '/' :: rest => readBehindSlashes scheme rest
    | '/' :: rest => .ok (finish scheme none (readSegments scheme [] rest))
    | cs =>
      let whole := encode isControl (cs.takeWhile fun c => !endsPath c)
      .ok (finish scheme none
        (.whole (String.ofList whole), cs.dropWhile fun c => !endsPath c))

/--
The characters of a text that count: control characters and spaces at its ends do not, and neither do
tabs and line breaks anywhere.
-/
def significant (text : String) : List Char :=
  let idle (c : Char) : Bool := c.toNat ≤ 0x20
  let trimmed := ((text.toList.dropWhile idle).reverse.dropWhile idle).reverse
  trimmed.filter fun c => c ≠ '\t' && c ≠ '\n' && c ≠ '\r'

/--
Read a reference, which may be relative if there is a base.
-/
def read (base : Option Url) (text : String) : Except ParseError Url :=
  let cs := significant text
  match readScheme? cs, base with
  | some (scheme, rest), base => readBehindScheme base scheme rest
  | none, none => .error .relativeWithoutBase
  | none, some base =>
    if cs.head? = some '#' then .ok { base with fragment := (readTail base.scheme cs).2 }
    else match base.path with
      | .whole _ => .error .relativeToWholePath
      | .segments _ =>
        if base.scheme = "file" then readFileUrl (some base) cs else readRelative base cs

def parse (text : String) : Except ParseError Url :=
  read none text

/--
The URL that a reference means in a place with the URL `base`.
-/
def join (base : Url) (reference : String) : Except ParseError Url :=
  read (some base) reference

end ServerLauncher.Url
