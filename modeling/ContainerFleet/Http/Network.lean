import ContainerFleet.Duration.Basic
import ContainerFleet.Http.Url
import ContainerFleet.Text.Decimal

/-!
What comes back from one request by HTTP. Networks are functions from addresses to what comes back
from them.
-/

namespace ContainerFleet

open ContainerFleet.Text

/-- Why a request brought no answer. -/
inductive HttpFailure where
  /-- The text is no address of an HTTP server. -/
  | badAddress
  /-- No answer came from this address, or none in time. -/
  | noAnswer (url : String)
  /-- The server passed the request on too often. -/
  | redirected (url : String)
deriving DecidableEq, Repr

namespace HttpFailure

def message : HttpFailure → String
  | .badAddress => "builder error"
  | .noAnswer url => s!"error sending request for url ({url})"
  | .redirected url => s!"error following redirect for url ({url})"

end HttpFailure

/-- The status of the answer, or why there is none, and how long it took. -/
structure HttpReply where
  status : Except HttpFailure Nat
  took : Duration

namespace HttpReply

/-- Whether a status says that a request was carried out. -/
def isSuccess (status : Nat) : Bool :=
  decide (200 ≤ status ∧ status < 300)

/-- The usual names of statuses. -/
def reasons : List (Nat × String) :=
  [(100, "Continue"), (101, "Switching Protocols"), (102, "Processing"), (200, "OK"),
    (201, "Created"), (202, "Accepted"), (203, "Non Authoritative Information"),
    (204, "No Content"), (205, "Reset Content"), (206, "Partial Content"), (207, "Multi-Status"),
    (208, "Already Reported"), (226, "IM Used"), (300, "Multiple Choices"),
    (301, "Moved Permanently"), (302, "Found"), (303, "See Other"), (304, "Not Modified"),
    (305, "Use Proxy"), (307, "Temporary Redirect"), (308, "Permanent Redirect"),
    (400, "Bad Request"), (401, "Unauthorized"), (402, "Payment Required"), (403, "Forbidden"),
    (404, "Not Found"), (405, "Method Not Allowed"), (406, "Not Acceptable"),
    (407, "Proxy Authentication Required"), (408, "Request Timeout"), (409, "Conflict"),
    (410, "Gone"), (411, "Length Required"), (412, "Precondition Failed"),
    (413, "Payload Too Large"), (414, "URI Too Long"), (415, "Unsupported Media Type"),
    (416, "Range Not Satisfiable"), (417, "Expectation Failed"), (418, "I'm a teapot"),
    (421, "Misdirected Request"), (422, "Unprocessable Entity"), (423, "Locked"),
    (424, "Failed Dependency"), (425, "Too Early"), (426, "Upgrade Required"),
    (428, "Precondition Required"), (429, "Too Many Requests"),
    (431, "Request Header Fields Too Large"), (451, "Unavailable For Legal Reasons"),
    (500, "Internal Server Error"), (501, "Not Implemented"), (502, "Bad Gateway"),
    (503, "Service Unavailable"), (504, "Gateway Timeout"), (505, "HTTP Version Not Supported"),
    (506, "Variant Also Negotiates"), (507, "Insufficient Storage"), (508, "Loop Detected"),
    (510, "Not Extended"), (511, "Network Authentication Required")]

/-- A status with its name. -/
def statusText (status : Nat) : String :=
  String.ofList (Decimal.write status) ++ " " ++
    (((reasons.find? fun entry => entry.1 = status).map Prod.snd).getD "<unknown status code>")

end HttpReply

namespace Network

/-- A network on which no server can be reached: each request fails at once. -/
def unreachable (url : String) : HttpReply :=
  match Url.normalize? url with
  | some url => ⟨.error (.noAnswer url), Duration.zero⟩
  | none => ⟨.error .badAddress, Duration.zero⟩

end Network

end ContainerFleet
