import ServerLauncher.Text.Pieces

/-!
This module contains URLs in their parts, and their written form.
-/

namespace ServerLauncher

/--
Who a URL leads to. The host is in its written form, and the port is there if it is not the usual
one of the scheme.
-/
structure Url.Authority where
  username : String
  password : String
  host : String
  port : Option Nat
deriving DecidableEq, Repr

/--
The path of a URL. One that does not start with a slash is a single text; otherwise it consists of
the segments behind the slashes.
-/
inductive Url.UrlPath where
  | whole (text : String)
  | segments (names : List String)
deriving DecidableEq, Repr

/--
A URL. All parts are in their encoded form.
-/
structure Url where
  scheme : String
  authority : Option Url.Authority
  path : Url.UrlPath
  query : Option String
  fragment : Option String
deriving DecidableEq, Repr

namespace Url

/--
The schemes of which a host is required, and the ports that are usual there.
-/
def usualPorts : List (String × Nat) :=
  [("http", 80), ("https", 443), ("ws", 80), ("wss", 443), ("ftp", 21)]

/--
Whether a scheme is one that is read by the special rules, where a backslash is as good as a slash.
-/
def isSpecialScheme (scheme : String) : Bool :=
  scheme = "file" || (usualPorts.lookup scheme).isSome

/--
A character that is left out where what follows it is missing.
-/
def partText (lead : String) (part : Option String) : String :=
  match part with
  | none => ""
  | some text => lead ++ text

def Authority.text (a : Authority) : String :=
  let password := if a.password = "" then "" else ":" ++ a.password
  let user := a.username ++ password
  let user := if user = "" then "" else user ++ "@"
  "//" ++ user ++ a.host ++ partText ":" (a.port.map toString)

def UrlPath.text : UrlPath → String
  | .whole text => text
  | .segments names => String.join (names.map ("/" ++ ·))

/--
The written form of a URL. A path that would look like an authority gets a dot in front.
-/
def text (u : Url) : String :=
  let path := match u.authority, u.path with
    | none, .segments ("" :: _ :: _) => "/." ++ u.path.text
    | _, path => path.text
  u.scheme ++ ":" ++ partText "" (u.authority.map Authority.text) ++ path ++
    partText "?" u.query ++ partText "#" u.fragment

instance : ToString Url := ⟨text⟩

def withoutFragment (u : Url) : Url :=
  { u with fragment := none }

def withoutUser (u : Url) : Url :=
  { u with authority := u.authority.map fun a => { a with username := "", password := "" } }

/--
Whether a text is a letter for a disk, with a colon or a bar behind it.
-/
def isDiskLetter (cs : List Char) : Bool :=
  match cs with
  | [letter, mark] => letter.isAlpha && (mark = ':' || mark = '|')
  | _ => false

/--
A segment in which a colon is behind the letter for a disk.
-/
def withDiskColon (segment : String) : String :=
  match segment.toList with
  | [letter, mark] => if isDiskLetter [letter, mark] then String.ofList [letter, ':'] else segment
  | _ => segment

/--
The URL with a slash at the end of its path. The path of a single text cannot start with a slash, so
that one is encoded. Where the path of a file gets a slash, it also gets a colon behind the letter
for a disk in front.
-/
def asDirectory (u : Url) : Url :=
  match u.path with
  | .whole text =>
    if text = "" then { u with path := .whole "%2F" }
    else if text.toList.getLast? = some '/' then u
    else { u with path := .whole (text ++ "/") }
  | .segments names =>
    if names.getLast? = some "" then u
    else
      let names := if u.scheme = "file" then names.modifyHead withDiskColon else names
      { u with path := .segments (names ++ [""]) }

inductive ParseError where
  | emptyHost
  | invalidDomainName
  | invalidPort
  | invalidIpv4Address
  | invalidIpv6Address
  | invalidDomainCharacter
  | relativeWithoutBase
  | relativeToWholePath
deriving DecidableEq, Repr

def ParseError.message : ParseError → String
  | .emptyHost => "empty host"
  | .invalidDomainName => "invalid international domain name"
  | .invalidPort => "invalid port number"
  | .invalidIpv4Address => "invalid IPv4 address"
  | .invalidIpv6Address => "invalid IPv6 address"
  | .invalidDomainCharacter => "invalid domain character"
  | .relativeWithoutBase => "relative URL without a base"
  | .relativeToWholePath => "relative URL with a cannot-be-a-base base"

end Url

end ServerLauncher
