import Gatekeeper.Http.Exchange
import Gatekeeper.Http.Response
import Gatekeeper.Json.Writer

/-!
# Messages as bytes

Requests and responses as they pass over a connection that carries one of each:
a first line, the headers, a blank line, and a body.
-/

namespace Gatekeeper.Http

open Gatekeeper.Text

namespace Wire

/-! ### Reading -/

/-- Split a message at the blank line behind its headers. -/
def splitHead? : List UInt8 → Option (List UInt8 × List UInt8)
  | 0x0D :: 0x0A :: 0x0D :: 0x0A :: rest => some ([], rest)
  | byte :: rest =>
      (splitHead? rest).map fun (head, body) => (byte :: head, body)
  | [] => none

/-- The lines of a head. A line ends at a line feed, with or without a carriage
return. -/
def headLines (head : List UInt8) : List (List UInt8) :=
  (head.splitOn 0x0A).map fun line =>
    if line.getLast? = some 0x0D then line.dropLast else line

def isBlankByte (byte : UInt8) : Bool := byte = 0x20 || byte = 0x09

def trimBytes (bytes : List UInt8) : List UInt8 :=
  (((bytes.dropWhile isBlankByte).reverse).dropWhile isBlankByte).reverse

/-- A header by its name in lower case and its value. -/
def readHeader? (line : List UInt8) : Option (String × HeaderValue) :=
  let name := line.takeWhile (· ≠ 0x3A)
  let value := trimBytes (line.drop (name.length + 1))
  match HeaderValue.text? name with
  | none => none
  | some name =>
      if line.contains 0x3A && isToken name && HeaderValue.isLegal value then
        some (String.ofList (name.toList.map lowerAscii), value)
      else
        none

def readHeaders? (lines : List (List UInt8)) :
    Option (List (String × HeaderValue)) :=
  lines.mapM readHeader?

def readRequest? (head : List UInt8) : Option Request :=
  match headLines head with
  | [] => none
  | first :: rest =>
      match (HeaderValue.text? first).map fun line =>
        splitAll (· = ' ') line.toList,
        readHeaders? rest with
      | some [method, target, version], some headers =>
          match RequestTarget.ofText? (String.ofList target) with
          | some target =>
              if isToken (String.ofList method) &&
                  (stripLead? "HTTP/1.".toList version).isSome then
                some ⟨String.ofList method, target, headers⟩
              else
                none
          | none => none
      | _, _ => none

/-- The length that headers give for a body. -/
def contentLength? (headers : List (String × HeaderValue)) : Option Nat :=
  (headers.lookup "content-length").bind fun value =>
    (HeaderValue.text? value).bind String.toNat?

/-- The encoding that the type of a body names, of those for all of Unicode. One
that names none of them counts as UTF-8. -/
def charsetOf (headers : List (String × HeaderValue)) : Charset :=
  let parts := ((headers.lookup "content-type").bind HeaderValue.text?).map
    fun text => splitAll (· = ';') (text.toList.map lowerAscii)
  let label := (parts.getD []).findSome? fun part =>
    stripLead? "charset=".toList (trimBoth (· = ' ') part)
  match label.map fun text => String.ofList (trimBoth (· = '"') text) with
  | some "utf-16be" => .utf16 true
  | some "utf-16le" | some "utf-16" => .utf16 false
  | _ => .utf8

/-- The number that hexadecimal digits write at the start of a line. -/
def chunkSize? (line : List UInt8) : Option Nat :=
  let digits :=
    (line.map fun byte => Char.ofNat byte.toNat).takeWhile
      (hexDigit? · |>.isSome)
  if digits.isEmpty then none else (digits.mapM hexDigit?).map (digitsValue 16)

/-- The body that chunks carry, when the last one has come. Every chunk takes
bytes, so their number bounds the recursion. -/
def joinChunks? : Nat → List UInt8 → Option (List UInt8)
  | 0, _ => none
  | fuel + 1, bytes =>
      let line := bytes.takeWhile (· ≠ 0x0A)
      match chunkSize? line with
      | none => none
      | some 0 => some []
      | some size =>
          let rest := bytes.drop (line.length + 1)
          if rest.length < size + 2 then none
          else
            (joinChunks? fuel (rest.drop (size + 2))).map (rest.take size ++ ·)

/-- The status in the first line of an answer. -/
def statusOf? (line : List UInt8) : Option Nat :=
  match (HeaderValue.text? line).map fun text =>
    splitAll (· = ' ') text.toList with
  | some (_ :: code :: _) => (String.ofList code).toNat?
  | _ => none

/-- What the bytes of a closed connection amount to. -/
def readExchange (bytes : List UInt8) : Exchange :=
  match splitHead? bytes with
  | none => .unanswered
  | some (head, body) =>
      match headLines head with
      | [] => .unanswered
      | first :: rest =>
          match statusOf? first, readHeaders? rest with
          | some status, some headers =>
              let charset := charsetOf headers
              if (headers.lookup "transfer-encoding").isSome then
                match joinChunks? body.length body with
                | none => .cutShort status
                | some whole => .answered status ⟨whole, charset⟩
              else
                match contentLength? headers with
                | none => .answered status ⟨body, charset⟩
                | some length =>
                    if body.length < length then .cutShort status
                    else .answered status ⟨body.take length, charset⟩
          | _, _ => .unanswered

/-! ### Writing -/

def line (text : String) : List UInt8 :=
  Utf8.encode text ++ [0x0D, 0x0A]

/-- A response. The answer to a `HEAD` request has no body. -/
def writeResponse (response : Response) (isHead : Bool) : List UInt8 :=
  let body := (response.body.map fun json => Utf8.encode json.compact).getD []
  line ("HTTP/1.1 " ++ statusText response.status) ++
    (if response.body.isSome then line "content-type: application/json"
     else []) ++
    (match response.principal with
      | none => []
      | some value => Utf8.encode "x-auth-principal: " ++ value ++ line "") ++
    line ("content-length: " ++ toString body.length) ++
    line "connection: close" ++ line "" ++ (if isHead then [] else body)

/-- A request for a path of a host, perhaps with authorization and a JSON
body. -/
def writeRequest (method path host : String) (authorization : Option String)
    (body : Option Json) : List UInt8 :=
  let content := (body.map fun json => Utf8.encode json.compact).getD []
  line (method ++ " " ++ path ++ " HTTP/1.1") ++ line ("host: " ++ host) ++
    line "accept: */*" ++ line "connection: close" ++
    (match authorization with
      | none => []
      | some value => line ("authorization: " ++ value)) ++
    (if body.isSome then
      line "content-type: application/json" ++
        line ("content-length: " ++ toString content.length)
    else
      []) ++
    line "" ++ content

end Wire

end Gatekeeper.Http
