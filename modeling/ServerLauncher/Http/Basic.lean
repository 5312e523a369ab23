import ServerLauncher.Url.Basic

/-!
This module contains the answers of web servers, and the reasons why a request yields none.
-/

namespace ServerLauncher.Http

/--
An answer. If the body is not complete, the connection broke while it was sent.
-/
structure Response where
  status : Nat
  location : Option String
  body : ByteArray
  complete : Bool

/--
The web: for the requests so far and the URL of the next one, the answer if there is one.
-/
abbrev Web := List Url → Url → Option Response

def reasons : List (Nat × String) :=
  [(400, "Bad Request"), (401, "Unauthorized"), (402, "Payment Required"), (403, "Forbidden"),
    (404, "Not Found"), (405, "Method Not Allowed"), (406, "Not Acceptable"),
    (407, "Proxy Authentication Required"), (408, "Request Timeout"), (409, "Conflict"),
    (410, "Gone"), (411, "Length Required"), (412, "Precondition Failed"),
    (413, "Payload Too Large"), (414, "URI Too Long"), (415, "Unsupported Media Type"),
    (416, "Range Not Satisfiable"), (417, "Expectation Failed"), (418, "I'm a teapot"),
    (421, "Misdirected Request"), (422, "Unprocessable Entity"), (423, "Locked"),
    (424, "Failed Dependency"), (425, "Too Early"), (426, "Upgrade Required"),
    (428, "Precondition Required"), (429, "Too Many Requests"),
    (431, "Request Header Fields Too Large"), (451, "Unavailable For Legal Reasons"),
    (500, "Internal Server Error"), (501, "Not Implemented"), (502, "Bad Gateway"),
    (503, "Service Unavailable"), (504, "Gateway Timeout"), (505, "HTTP Version Not Supported"),
    (506, "Variant Also Negotiates"), (507, "Insufficient Storage"), (508, "Loop Detected"),
    (510, "Not Extended"), (511, "Network Authentication Required")]

inductive Error where
  /-- There is no way to ask for the URL, or the text is no URL. -/
  | unusable (url : Option Url)
  | unanswered (url : Url)
  | tooManyRedirects (url : Url)
  | status (code : Nat) (url : Url)
  /-- The body broke off. -/
  | incomplete (url : Option Url)
  /-- A reason from elsewhere, given by its text. -/
  | other (text : String)
deriving DecidableEq, Repr

/--
The text that tells which URL an error is about.
-/
def aboutUrl : Option Url → String
  | none => ""
  | some url => " for url (" ++ url.text ++ ")"

def Error.message : Error → String
  | .unusable url => "builder error" ++ aboutUrl url
  | .unanswered url => "error sending request" ++ aboutUrl (some url)
  | .tooManyRedirects url => "error following redirect" ++ aboutUrl (some url)
  | .status code url =>
    let side := if code < 500 then "client" else "server"
    let reason := (reasons.lookup code).getD "<unknown status code>"
    "HTTP status " ++ side ++ " error (" ++ toString code ++ " " ++ reason ++ ")" ++
      aboutUrl (some url)
  | .incomplete url => "error decoding response body" ++ aboutUrl url
  | .other text => text

end ServerLauncher.Http
