import ChatRelay.Client.Answer
import ChatRelay.Settings

/-!
The client of the provider. A request is attempted again after a transient failure, up to a number of
retries. Before each retry the client waits as long as the provider asked for, or else as long as the
schedule says. The last entry of the schedule stands for all later ones.
-/

namespace ChatRelay

open ChatRelay.Json (Value)
open ChatRelay.Http (Transport)

/-- What a client is made from. Times are in milliseconds. -/
structure ClientConfig where
  token : String
  apiBase : String := Settings.defaultApiBase
  timeout : Nat := 10000
  maxRetries : Nat := 2
  backoff : List Nat := [250, 500]
deriving DecidableEq

def ClientConfig.ofSettings (s : Settings) : ClientConfig :=
  { token := s.token
    apiBase := s.apiBase
    timeout := s.httpTimeout
    maxRetries := s.maxRetries
    backoff := s.backoff }

/-- A client whose configuration was found usable. -/
structure Client where
  token : String
  apiBase : String
  timeout : Nat
  maxRetries : Nat
  backoff : List Nat
deriving DecidableEq

namespace Client

/-- A text without the slashes at its end. -/
def dropSlashes (s : String) : String :=
  String.ofList (s.toList.reverse.dropWhile (· == '/')).reverse

/-- The client of a configuration. An empty schedule stands for no waiting. -/
def make (config : ClientConfig) : Except Error Client :=
  let token := Text.trim config.token
  let apiBase := dropSlashes (Text.trim config.apiBase)
  if token.isEmpty then .error (.config .blankToken)
  else if config.timeout = 0 then .error (.config .zeroTimeout)
  else if apiBase.isEmpty then .error (.config .blankApiBase)
  else
    .ok {
      token := token
      apiBase := apiBase
      timeout := config.timeout
      maxRetries := config.maxRetries
      backoff := if config.backoff.isEmpty then [0] else config.backoff }

def url (client : Client) (operation : Operation) : String :=
  client.apiBase ++ "/bot" ++ client.token ++ "/" ++ operation.name

/-- The wait after an attempt, by the schedule. -/
def scheduled (client : Client) (attempt : Nat) : Nat :=
  match client.backoff[attempt]? with
  | some delay => delay
  | none => client.backoff.getLast?.getD 0

/-- The wait after a failed attempt. -/
def delayAfter (client : Client) (attempt : Nat) (e : ApiError) : Nat :=
  match e.retryAfterSeconds with
  | some seconds => seconds * 1000
  | none => client.scheduled attempt

variable {m : Type → Type} [Monad m]

/-- Attempt until there is a result, a failure that will not pass, or no retry left. `left` is the number
of retries that are left, and `attempt` counts the attempts from zero. -/
def attemptFrom (client : Client) (sleep : Nat → m Unit)
    (once : Nat → m (Except ApiError Value)) :
    (left attempt : Nat) → m (Except ApiError Value)
  | left, attempt => do
      match ← once attempt with
      | .ok v => return .ok v
      | .error e =>
          if !e.transient then return .error e
          else
            match left with
            | 0 => return .error e
            | left + 1 =>
                sleep (client.delayAfter attempt e)
                attemptFrom client sleep once left (attempt + 1)

/-- One attempt at an operation. -/
def attempt (client : Client) (transport : Transport m) (operation : Operation) (body : Value)
    (extraTime : Nat) (attempt : Nat) : m (Except ApiError Value) := do
  let exchange ← transport.exchange {
    url := client.url operation
    attempt := attempt
    body := body.print
    timeout := client.timeout + extraTime }
  return exchangeResult operation (← transport.now) exchange

/-- Perform an operation. A request that the provider may hold back for a while gets extra time. -/
def request (client : Client) (transport : Transport m) (operation : Operation) (body : Value)
    (extraTime : Nat) : m (Except ApiError Value) :=
  client.attemptFrom transport.sleep (client.attempt transport operation body extraTime)
    client.maxRetries 0

/-- The provider's operations over a transport. -/
def api (client : Client) (transport : Transport m) : BotApi m where
  getUpdates r := do
    let result ← client.request transport .getUpdates r.toJson (r.timeoutSeconds * 1000)
    return result.bind updatesOf
  sendMessage r := do
    let result ← client.request transport .sendMessage r.toJson 0
    return result.bind messageOf

end Client

end ChatRelay
