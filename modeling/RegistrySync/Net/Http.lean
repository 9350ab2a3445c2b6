import RegistrySync.Dialogue
import RegistrySync.Net.Url

/-!
# HTTP exchanges

A request to read a URL, and what comes back. Who carries requests is left open: `Http.Call` is the
one call that a carrier answers. An exchange fails as a whole, or comes to a response whose body may
still be cut off.
-/

namespace RegistrySync.Net.Http

structure Response where
  status : Nat
  /-- Names and values as they came. -/
  headers : List (String × String) := []
  /-- The body, or why it could not be read to its end. -/
  body : Except String String

namespace Response

/-- The request was served. -/
def isSuccess (r : Response) : Bool := 200 ≤ r.status && r.status < 300

/-- The value of the first header with this name; names differ by more than case. -/
def header? (r : Response) (name : String) : Option String :=
  (r.headers.find? fun h => h.1.toLower == name.toLower).map (·.2)

end Response

/-- The phrases that belong to status codes. -/
def reasonPhrases : List (Nat × String) := [
  (100, "Continue"), (101, "Switching Protocols"), (102, "Processing"), (200, "OK"),
  (201, "Created"), (202, "Accepted"), (203, "Non Authoritative Information"), (204, "No Content"),
  (205, "Reset Content"), (206, "Partial Content"), (207, "Multi-Status"),
  (208, "Already Reported"), (226, "IM Used"), (300, "Multiple Choices"),
  (301, "Moved Permanently"), (302, "Found"), (303, "See Other"), (304, "Not Modified"),
  (305, "Use Proxy"), (307, "Temporary Redirect"), (308, "Permanent Redirect"),
  (400, "Bad Request"), (401, "Unauthorized"), (402, "Payment Required"), (403, "Forbidden"),
  (404, "Not Found"), (405, "Method Not Allowed"), (406, "Not Acceptable"),
  (407, "Proxy Authentication Required"), (408, "Request Timeout"), (409, "Conflict"),
  (410, "Gone"), (411, "Length Required"), (412, "Precondition Failed"),
  (413, "Payload Too Large"), (414, "URI Too Long"), (415, "Unsupported Media Type"),
  (416, "Range Not Satisfiable"), (417, "Expectation Failed"), (418, "I'm a teapot"),
  (421, "Misdirected Request"), (422, "Unprocessable Entity"), (423, "Locked"),
  (424, "Failed Dependency"), (425, "Too Early"), (426, "Upgrade Required"),
  (428, "Precondition Required"), (429, "Too Many Requests"),
  (431, "Request Header Fields Too Large"), (451, "Unavailable For Legal Reasons"),
  (500, "Internal Server Error"), (501, "Not Implemented"), (502, "Bad Gateway"),
  (503, "Service Unavailable"), (504, "Gateway Timeout"), (505, "HTTP Version Not Supported"),
  (506, "Variant Also Negotiates"), (507, "Insufficient Storage"), (508, "Loop Detected"),
  (510, "Not Extended"), (511, "Network Authentication Required")]

/-- A status code with its phrase. -/
def statusText (status : Nat) : String :=
  Text.Decimal.write status ++ " " ++ (reasonPhrases.lookup status).getD "<unknown status code>"

/-- What a carrier is asked for. -/
inductive Call where
  | get (url : Url)

/-- A carrier comes back with a response, or with the reason why there is none. -/
@[reducible]
def Call.Reply : Call → Type
  | .get _ => Except String Response

def get (url : Url) : Dialogue Call.Reply (Except String Response) := .ask (.get url) .done

/-- A carrier that reaches nobody. -/
def unreachable : Answerer Call.Reply Unit
  | .get _, s => (.error "", s)

end RegistrySync.Net.Http
