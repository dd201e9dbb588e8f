/-!
One exchange with a server: a request is sent, and then a response comes back, or the time is up, or the
connection fails.
-/

namespace ChatRelay.Http

/-- A request that posts a JSON text. The attempt counts from zero and is told in a header. -/
structure Request where
  url : String
  attempt : Nat
  body : String
  /-- The time to wait for the whole response, in milliseconds. -/
  timeout : Nat
deriving DecidableEq

/-- The header that tells the attempt. -/
def attemptHeader : String := "x-relay-attempt"

def contentType : String := "application/json"

structure Response where
  status : Nat
  headers : List (String × String)
  body : ByteArray

/-- The first header of a name, in letters of any case. -/
def Response.header? (r : Response) (name : String) : Option String :=
  (r.headers.find? fun entry => entry.1.map Char.toLower == name).map Prod.snd

/-- What has become of a request. -/
inductive Exchange where
  | answered (response : Response)
  | timedOut (description : String)
  | failed (description : String)

/-- The means to exchange requests, to wait, and to tell the time. Times are in milliseconds, and the
clock counts from the start of 1970. -/
structure Transport (m : Type → Type) where
  exchange : Request → m Exchange
  sleep : Nat → m Unit
  now : m Int

end ChatRelay.Http
