import ChatRelay.Http.Address
import ChatRelay.Http.Exchange

/-!
Requests and responses as the bytes of a connection. A message has a head of lines and a body behind an
empty line. The head of a response tells how its body ends: after a number of bytes, after the last of a
row of chunks, or with the connection.
-/

namespace ChatRelay.Http.Framing

/-- A byte as a character of a head. -/
def charOf (b : UInt8) : Char := Char.ofNat b.toNat

/-- The bytes of a request. The connection is closed after its response. -/
def requestBytes (address : Address) (request : Request) : ByteArray :=
  let body := request.body.toUTF8
  let lines := [
    "POST " ++ address.path ++ " HTTP/1.1",
    "host: " ++ address.host ++ ":" ++ toString address.port,
    attemptHeader ++ ": " ++ toString request.attempt,
    "content-type: " ++ contentType,
    "content-length: " ++ toString body.size,
    "accept: */*",
    "connection: close"]
  (String.join (lines.map fun line => line ++ "\r\n") ++ "\r\n").toUTF8 ++ body

/-- A line without the carriage return at its end. -/
def lineText (bytes : List UInt8) : List Char :=
  let line := bytes.map charOf
  if line.getLast? = some '\r' then line.dropLast else line

/-- The first line and the bytes behind its line feed. -/
def line? (bytes : List UInt8) : Option (List Char × List UInt8) :=
  let line := bytes.takeWhile (· != 10)
  match bytes.drop line.length with
  | [] => none
  | _ :: rest => some (lineText line, rest)

/-- The lines before the empty line and the bytes behind it. -/
def headLines? : Nat → List UInt8 → Option (List (List Char) × List UInt8)
  | 0, _ => none
  | fuel + 1, bytes =>
      match line? bytes with
      | none => none
      | some ([], rest) => some ([], rest)
      | some (line, rest) => (headLines? fuel rest).map fun read => (line :: read.1, read.2)

/-- The status in the first line of a response. -/
def status? (line : List Char) : Option Nat :=
  match Text.words line with
  | version :: status :: _ =>
      if "HTTP/1.".toList.isPrefixOf version && status.length = 3 then Text.digits? status else none
  | _ => none

/-- A header from its line. -/
def header? (line : List Char) : Option (String × String) :=
  (Text.splitFirst ':' line).map fun parts =>
    (String.ofList parts.1, String.ofList (Text.trimChars parts.2))

/-- The size in the line in front of a chunk. What stands behind a semicolon does not count. -/
def chunkSize? (line : List Char) : Option Nat :=
  let digits := Text.trimChars (line.takeWhile (· != ';'))
  if digits.isEmpty then none
  else (digits.mapM Text.hexDigit?).map fun values => values.foldl (fun n value => n * 16 + value) 0

/-- The body in a row of chunks, once the last chunk has arrived. -/
def chunks? : Nat → List UInt8 → Option (List UInt8)
  | 0, _ => none
  | fuel + 1, bytes =>
      match line? bytes with
      | none => none
      | some (line, rest) =>
          match chunkSize? line with
          | none => none
          | some 0 => some []
          | some size =>
              if rest.length < size + 2 then none
              else (chunks? fuel (rest.drop (size + 2))).map fun more => rest.take size ++ more

/-- How the body of a response ends. -/
inductive BodyEnd where
  | afterBytes (n : Nat)
  | afterLastChunk
  | withConnection
deriving DecidableEq

/-- How the body behind a head ends. -/
def bodyEnd (response : Response) : BodyEnd :=
  if response.status = 204 || response.status = 304 then .afterBytes 0
  else
    match response.header? "transfer-encoding" with
    | some _ => .afterLastChunk
    | none =>
        match (response.header? "content-length").bind (Text.unsigned? Text.maxUnsigned) with
        | some n => .afterBytes n
        | none => .withConnection

/-- The body in the bytes that have arrived, if it is complete. -/
def body? (closed : Bool) (bytes : List UInt8) : BodyEnd → Option (List UInt8)
  | .afterBytes n => if bytes.length < n then none else some (bytes.take n)
  | .afterLastChunk => chunks? (bytes.length + 1) bytes
  | .withConnection => if closed then some bytes else none

/-- The response in the bytes that have arrived, if it is complete. `closed` says that no more bytes will
come. -/
def response? (closed : Bool) (bytes : List UInt8) : Option Response := do
  let (head, rest) ← headLines? (bytes.length + 1) bytes
  let status ← head.head?.bind status?
  let response : Response := ⟨status, head.tail.filterMap header?, ByteArray.empty⟩
  let body ← body? closed rest (bodyEnd response)
  return { response with body := ByteArray.mk body.toArray }

end ChatRelay.Http.Framing
