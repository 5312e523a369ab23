import ServerLauncher.Url.Parser
import ServerLauncher.World

/-!
This module contains requests to the web that follow redirects.
-/

namespace ServerLauncher.Http

/--
How often a request is redirected before that becomes an error.
-/
def redirectLimit : Nat := 10

/--
The characters that hosts may have in a URL, but not in a request.
-/
def unusableInHost : List Char := ['"', '\x60', '\x7b', '\x7d']

/--
Whether there is a way to ask for a URL.
-/
def isUsable (url : Url) : Bool :=
  (url.scheme = "http" || url.scheme = "https") &&
    url.authority.any fun authority =>
      authority.host ≠ "" && authority.host.toList.all fun c => !unusableInHost.contains c

/--
Whether an answer may send the request elsewhere.
-/
def isRedirect (status : Nat) : Bool :=
  [301, 302, 303, 307, 308].contains status

/--
Where an answer sends the request.
-/
def target? (url : Url) (response : Response) : Option Url :=
  if isRedirect response.status then
    response.location.bind fun location => (url.join location).toOption
  else none

/--
Ask for a URL once. Where the answer sends the request comes with it.
-/
def ask (url : Url) : Attempt Error (Response × Option Url) := do
  match ← Action.request url.withoutUser.withoutFragment with
  | none => throw (.unanswered url)
  | some response => return (response, target? url response)

/--
Ask for a URL, following at most `redirects` redirects. The URL that finally answered comes with the
answer.
-/
def follow : (redirects : Nat) → (url : Url) → Attempt Error (Url × Response)
  | 0, url => do
    match ← ask url with
    | (response, none) => return (url, response)
    | (_, some _) => throw (.tooManyRedirects url)
  | redirects + 1, url => do
    match ← ask url with
    | (response, none) => return (url, response)
    | (_, some next) =>
      if isUsable next then follow redirects next else throw (.unusable (some next))

/--
Ask for a URL. Answers that tell of an error count as errors.
-/
def get (url : Url) : Attempt Error (Url × Response) := do
  if !isUsable url then throw (.unusable (some url))
  let (last, response) ← follow redirectLimit url.withoutUser
  let last := last.withoutFragment
  if 400 ≤ response.status ∧ response.status < 600 then throw (.status response.status last)
  return (last, response)

/--
The whole body that is found under a URL, as text.
-/
def getText (url : Url) : Attempt Error String := do
  let (last, response) ← get url
  if response.complete then return Utf8.decodeLossy response.body
  throw (.incomplete (some last))

/--
The whole body that is found under the URL with a written form.
-/
def getBytes (url : String) : Attempt Error ByteArray := do
  match Url.parse url with
  | .error _ => throw (.unusable none)
  | .ok url =>
    let (_, response) ← get url
    if response.complete then return response.body
    throw (.incomplete none)

end ServerLauncher.Http
