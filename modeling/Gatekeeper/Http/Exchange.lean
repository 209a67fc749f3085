import Gatekeeper.Text.Utf8

/-!
# Exchanges with other services

What comes back from a request that the service sends: nothing, an answer that
breaks off before its end, or a status with a body.
-/

namespace Gatekeeper.Http

open Gatekeeper.Text

/-- How the header of an answer says that the text of its body is encoded. -/
inductive Charset where
  | utf8
  | utf16 (bigEndian : Bool)
  /-- An encoding that is not modelled, by the text that it makes of the
  body. -/
  | other (text : String)
deriving DecidableEq, Repr

structure Body where
  bytes : List UInt8
  charset : Charset
deriving DecidableEq, Repr

/-- A body is in UTF-8 unless its header says otherwise. -/
instance : Coe (List UInt8) Body := ⟨fun bytes => ⟨bytes, .utf8⟩⟩

inductive Exchange where
  | unanswered
  | cutShort (status : Nat)
  | answered (status : Nat) (body : Body)
deriving DecidableEq, Repr

def statusPhrases : List (Nat × String) :=
  [(100, "Continue"), (101, "Switching Protocols"), (102, "Processing"),
    (200, "OK"), (201, "Created"), (202, "Accepted"),
    (203, "Non Authoritative Information"), (204, "No Content"),
    (205, "Reset Content"), (206, "Partial Content"), (207, "Multi-Status"),
    (208, "Already Reported"), (226, "IM Used"), (300, "Multiple Choices"),
    (301, "Moved Permanently"), (302, "Found"), (303, "See Other"),
    (304, "Not Modified"), (305, "Use Proxy"), (307, "Temporary Redirect"),
    (308, "Permanent Redirect"), (400, "Bad Request"), (401, "Unauthorized"),
    (402, "Payment Required"), (403, "Forbidden"), (404, "Not Found"),
    (405, "Method Not Allowed"), (406, "Not Acceptable"),
    (407, "Proxy Authentication Required"), (408, "Request Timeout"),
    (409, "Conflict"), (410, "Gone"), (411, "Length Required"),
    (412, "Precondition Failed"), (413, "Payload Too Large"),
    (414, "URI Too Long"), (415, "Unsupported Media Type"),
    (416, "Range Not Satisfiable"), (417, "Expectation Failed"),
    (418, "I'm a teapot"), (421, "Misdirected Request"),
    (422, "Unprocessable Entity"), (423, "Locked"), (424, "Failed Dependency"),
    (425, "Too Early"), (426, "Upgrade Required"),
    (428, "Precondition Required"), (429, "Too Many Requests"),
    (431, "Request Header Fields Too Large"),
    (451, "Unavailable For Legal Reasons"), (500, "Internal Server Error"),
    (501, "Not Implemented"), (502, "Bad Gateway"),
    (503, "Service Unavailable"), (504, "Gateway Timeout"),
    (505, "HTTP Version Not Supported"), (506, "Variant Also Negotiates"),
    (507, "Insufficient Storage"), (508, "Loop Detected"),
    (510, "Not Extended"), (511, "Network Authentication Required")]

def statusText (status : Nat) : String :=
  toString status ++ " " ++
    (statusPhrases.lookup status).getD "<unknown status code>"

def isSuccess (status : Nat) : Bool :=
  200 ≤ status && status < 300

def isServerError (status : Nat) : Bool :=
  500 ≤ status && status < 600

/-- The characters of sixteen-bit codes; U+FFFD stands for a surrogate without
its partner. -/
def charactersOfCodes : List Nat → List Char
  | [] => []
  | high :: low :: rest =>
      if 0xD800 ≤ high ∧ high < 0xDC00 ∧ 0xDC00 ≤ low ∧ low < 0xE000 then
        Char.ofNat (0x10000 + (high - 0xD800) * 0x400 + (low - 0xDC00)) ::
          charactersOfCodes rest
      else if 0xD800 ≤ high ∧ high < 0xE000 then
        '\uFFFD' :: charactersOfCodes (low :: rest)
      else
        Char.ofNat high :: charactersOfCodes (low :: rest)
  | [code] =>
      if 0xD800 ≤ code ∧ code < 0xE000 then ['\uFFFD'] else [Char.ofNat code]

/-- The sixteen-bit codes of a body. A byte that is left over is a code of its
own that stands for no character. -/
def codesOf (bigEndian : Bool) : List UInt8 → List Nat
  | first :: second :: rest =>
      (if bigEndian then first.toNat * 256 + second.toNat
        else second.toNat * 256 + first.toNat) :: codesOf bigEndian rest
  | [_] => [0xD800]
  | [] => []

/-- The text that bytes encode. -/
def Charset.decode (bytes : List UInt8) : Charset → String
  | utf8 => Utf8.decodeLossy bytes
  | utf16 bigEndian =>
      String.ofList (charactersOfCodes (codesOf bigEndian bytes))
  | other text => text

/-- The text of a body. A byte order mark says how it is encoded, before the
header does. -/
def bodyText (body : Body) : String :=
  match body.bytes with
  | 0xEF :: 0xBB :: 0xBF :: rest => Charset.utf8.decode rest
  | 0xFE :: 0xFF :: rest => (Charset.utf16 true).decode rest
  | 0xFF :: 0xFE :: rest => (Charset.utf16 false).decode rest
  | bytes => body.charset.decode bytes

end Gatekeeper.Http
