import ClusterCache.Connection.Uri
import ClusterCache.Error
import ClusterCache.Json.Decoder

/-!
# Requests and replies over HTTP

What a client sends to a server, and what comes of it. A reply with a status from 400 to 599 refuses
the request: its body says why, else the status and the body are put into words.
-/

namespace ClusterCache

open Json (Decoder Form)

/-! ## Requests -/

inductive HttpMethod
  | get
  | post
  | put
  | delete
deriving DecidableEq, Repr

def HttpMethod.text : HttpMethod → String
  | .get => "GET"
  | .post => "POST"
  | .put => "PUT"
  | .delete => "DELETE"

/-- A request; `target` is a path and perhaps a query. -/
structure HttpRequest where
  method : HttpMethod
  target : String
  body : Option Json
deriving Repr

namespace HttpRequest

def build (method : HttpMethod) (target : String) (body : Option Json) :
    Except RequestFailure HttpRequest :=
  if Uri.isAddress target then
    .ok ⟨method, String.ofList (Uri.sentPart target.toList), body⟩
  else .error .malformed

end HttpRequest

/-! ## Replies -/

inductive HttpReply
  | answered (status : Nat) (body : String)
  /-- The server was not reached; `below` leads from the reason to the innermost one. -/
  | failed (reason : String) (below : List String)
deriving DecidableEq, Repr

def HttpReply.noNetwork : HttpReply :=
  .failed "client error (Connect)"
    ["tcp connect error", "Network is unreachable (os error 101)"]

def statusPhrase : Nat → String
  | 400 => "Bad Request"
  | 401 => "Unauthorized"
  | 402 => "Payment Required"
  | 403 => "Forbidden"
  | 404 => "Not Found"
  | 405 => "Method Not Allowed"
  | 406 => "Not Acceptable"
  | 407 => "Proxy Authentication Required"
  | 408 => "Request Timeout"
  | 409 => "Conflict"
  | 410 => "Gone"
  | 411 => "Length Required"
  | 412 => "Precondition Failed"
  | 413 => "Payload Too Large"
  | 414 => "URI Too Long"
  | 415 => "Unsupported Media Type"
  | 416 => "Range Not Satisfiable"
  | 417 => "Expectation Failed"
  | 418 => "I'm a teapot"
  | 421 => "Misdirected Request"
  | 422 => "Unprocessable Entity"
  | 423 => "Locked"
  | 424 => "Failed Dependency"
  | 425 => "Too Early"
  | 426 => "Upgrade Required"
  | 428 => "Precondition Required"
  | 429 => "Too Many Requests"
  | 431 => "Request Header Fields Too Large"
  | 451 => "Unavailable For Legal Reasons"
  | 500 => "Internal Server Error"
  | 501 => "Not Implemented"
  | 502 => "Bad Gateway"
  | 503 => "Service Unavailable"
  | 504 => "Gateway Timeout"
  | 505 => "HTTP Version Not Supported"
  | 506 => "Variant Also Negotiates"
  | 507 => "Insufficient Storage"
  | 508 => "Loop Detected"
  | 510 => "Not Extended"
  | 511 => "Network Authentication Required"
  | _ => "<unknown status code>"

namespace Status

structure Parts where
  status : Option String
  message : String
  reason : String
  code : Option Nat

namespace Parts

def start : Parts := ⟨none, "", "", none⟩

/-- The answer that the parts make up. The status and the code are required. -/
def answer? (parts : Parts) : Option Status := do
  return { status := ← parts.status, message := parts.message, reason := parts.reason,
           code := ← parts.code }

end Parts

def codeDecoder : Decoder Int := .integer 0 65535

/-- An answer is an object, or an array of all four parts. -/
def decoder : Decoder Status :=
  Form.recordOrRow
    { repetition := .refused
      fields := [.kept "status" .text fun parts status => { parts with status := some status },
        .kept "message" .text fun parts message => { parts with message },
        .kept "reason" .text fun parts reason => { parts with reason },
        .kept "code" codeDecoder fun parts code => { parts with code := some code.toNat }] }
    Parts.start Parts.answer?

/-- The answer that a refusal gives in its body; without one, the number and the body stand for
it. -/
def ofRefusal (number : Nat) (body : String) : Status :=
  (decoder.decode body.toList).toOption.getD
    { status := toString number ++ " " ++ statusPhrase number
      message := Text.quoted body
      reason := "Failed to parse error data"
      code := number }

end Status

namespace HttpReply

def accepted : HttpReply → Except RequestFailure String
  | answered status body =>
      if 400 ≤ status && status < 600 then .error (.refused (Status.ofRefusal status body))
      else .ok body
  | failed reason below => .error (.unreached reason below)

def decoded {α : Type} (reply : HttpReply) (decoder : Decoder α) : Except RequestFailure α :=
  reply.accepted.bind fun body =>
    (decoder.decode body.toList).mapError fun _ => .malformed

end HttpReply

end ClusterCache
