import QueryPlans.Fault
import QueryPlans.Json.Decode

/-!
# Replies over HTTP

* `Http.Reply` — the status and the body of a reply.
* `Http.Reply.isSuccess` — the statuses from 200 to 299.
* `Http.Reply.json` — the value in the body of a successful reply; any other reply is a fault that
  names its status and the address.
-/

namespace QueryPlans.Http

/-- What a server replies. -/
structure Reply where
  status : Nat
  body : String
  deriving DecidableEq, Repr, Inhabited

/-- The phrases of the statuses that report no success. -/
def phrases : List (Nat × String) :=
  [(100, "Continue"), (101, "Switching Protocols"), (102, "Processing"), (103, "Early Hints"),
    (300, "Multiple Choices"), (301, "Moved Permanently"), (302, "Found"), (303, "See Other"),
    (304, "Not Modified"), (305, "Use Proxy"), (307, "Temporary Redirect"),
    (308, "Permanent Redirect"),
    (400, "Bad Request"), (401, "Unauthorized"), (402, "Payment Required"), (403, "Forbidden"),
    (404, "Not Found"), (405, "Method Not Allowed"), (406, "Not Acceptable"),
    (407, "Proxy Authentication Required"), (408, "Request Timeout"), (409, "Conflict"),
    (410, "Gone"), (411, "Length Required"), (412, "Precondition Failed"),
    (413, "Request Entity Too Large"), (414, "Request-URI Too Long"),
    (415, "Unsupported Media Type"), (416, "Requested Range Not Satisfiable"),
    (417, "Expectation Failed"), (418, "I'm a teapot"), (421, "Misdirected Request"),
    (422, "Unprocessable Entity"), (423, "Locked"), (424, "Failed Dependency"),
    (425, "Too Early"), (426, "Upgrade Required"), (428, "Precondition Required"),
    (429, "Too Many Requests"), (431, "Request Header Fields Too Large"),
    (451, "Unavailable For Legal Reasons"),
    (500, "Internal Server Error"), (501, "Not Implemented"), (502, "Bad Gateway"),
    (503, "Service Unavailable"), (504, "Gateway Timeout"), (505, "HTTP Version Not Supported"),
    (506, "Variant Also Negotiates"), (507, "Insufficient Storage"), (508, "Loop Detected"),
    (510, "Not Extended"), (511, "Network Authentication Required")]

/-- The phrase of a status; an unknown one has none. -/
def phrase (status : Nat) : String := (phrases.lookup status).getD ""

/-- What a status reports, by its first digit. -/
def statusClass (status : Nat) : String :=
  match status / 100 with
  | 1 => "Informational response"
  | 3 => "Redirect response"
  | 4 => "Client error"
  | 5 => "Server error"
  | _ => "Invalid status code"

/-- Where statuses are explained. -/
def reference (status : String) : String :=
  let host := "developer.mozilla.org"
  "https://" ++ host ++ "/en-US/docs/Web/HTTP/Status/" ++ status

/-- What is reported of a status at an address. -/
def statusMessage (status : Nat) (url : String) : String :=
  let code := Numeral.text status
  statusClass status ++ " '" ++ code ++ " " ++ phrase status ++ "' for url '" ++ url ++
    "'\nFor more information check: " ++ reference code

/-- The fault of a text that is not JSON. -/
def decodeFault (e : Json.DecodeError) : Fault :=
  match e with
  | .malformed .. => .raised .undecodable e.message
  | .exceeded l => .ofLimit l

/-- A text without the mark of its encoding. -/
def withoutMark (text : String) : String :=
  match text.toList with
  | '\uFEFF' :: rest => String.ofList rest
  | _ => text

namespace Reply

def isSuccess (r : Reply) : Bool := 200 ≤ r.status && r.status < 300

/-- The value in the body of a successful reply from an address. -/
def json (r : Reply) (url : String) : Except Fault Json :=
  if r.isSuccess then (Json.decode (withoutMark r.body)).mapError decodeFault
  else .error (.raised .httpStatus (statusMessage r.status url))

end Reply

end QueryPlans.Http
