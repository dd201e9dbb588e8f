import ChatRelay.AckPolicy
import ChatRelay.BotApi
import ChatRelay.Text.Split

/-!
The settings of the relay, read from variables whose names start with CHANNEL. Space around a value does
not count. A missing or blank value stands for the usual one, apart from the token, which is needed, and
the acknowledgement policy, which may be missing but not blank. The first fault that is found is
reported, in the order in which `ofVariables` reads them.
-/

namespace ChatRelay

/-- Variables and their values. The first value of a variable counts. -/
abbrev Variables := List (String × String)

def Variables.get? (vars : Variables) (key : String) : Option String :=
  (vars.find? fun entry => entry.1 == key).map Prod.snd

/-- The names of the variables that count. -/
def Variables.names : List String := [
  "CHANNEL_TOKEN",
  "CHANNEL_API_BASE",
  "CHANNEL_ACK_POLICY",
  "CHANNEL_POLL_INTERVAL_MS",
  "CHANNEL_HTTP_TIMEOUT_MS",
  "CHANNEL_POLL_TIMEOUT_S",
  "CHANNEL_MAX_RETRIES",
  "CHANNEL_FETCH_LIMIT",
  "CHANNEL_BACKOFF_MS",
  "CHANNEL_ALLOWED_CHAT_IDS",
  "CHANNEL_CURSOR_STATE_PATH",
  "CHANNEL_STRICT_CURSOR_STATE_IO",
  "CHANNEL_LIVE_MODE",
  "CHANNEL_ONCE",
  "CHANNEL_ENABLE_MEMORY_HOOK"]

/-- The settings of the relay. Times are in milliseconds unless their name says otherwise. -/
structure Settings where
  token : String
  apiBase : String
  httpTimeout : Nat
  maxRetries : Nat
  backoff : List Nat
  pollInterval : Nat
  pollTimeoutSeconds : Nat
  fetchLimit : Nat
  once : Bool
  ackPolicy : AckPolicy
  allowedChatIds : List String
  liveMode : Bool
  enableMemoryHook : Bool
  cursorPath : Option String
  strictCursorIo : Bool
deriving DecidableEq

namespace Settings

def defaultApiBase : String := "https://api.telegram.org"

def defaultCursorPath : String := ".channel_runtime/telegram_cursor_state.json"

def defaultBackoff : List Nat := [250, 500]

def defaultHttpTimeout : Nat := 10000

def defaultPollInterval : Nat := 2000

def defaultMaxRetries : Nat := 2

def defaultFetchLimit : Nat := 100

/-- The trimmed value of a variable. -/
def trimmed? (vars : Variables) (key : String) : Option String := (vars.get? key).map Text.trim

/-- The trimmed value of a variable, if it is not blank. -/
def filled? (vars : Variables) (key : String) : Option String :=
  (trimmed? vars key).bind Text.nonBlank?

/-- The value of a variable as a number of at most `max`. -/
def natural (vars : Variables) (max : Nat) (key : String) (default : Nat) : Except Error Nat :=
  match filled? vars key with
  | none => .ok default
  | some text =>
      match Text.unsigned? max text with
      | some n => .ok n
      | none => .error (.config (.notNatural key))

/-- The value of a variable as a positive number of milliseconds. -/
def positive (vars : Variables) (key : String) (default : Nat) : Except Error Nat := do
  let n ← natural vars Text.maxUnsigned key default
  if n = 0 then .error (.config (.notPositive key)) else .ok n

def trueWords : List String := ["1", "true", "yes", "on"]

def falseWords : List String := ["0", "false", "no", "off", ""]

/-- The value of a variable as a yes or no, in letters of any case. A missing one is a no. -/
def flag (vars : Variables) (key : String) : Except Error Bool :=
  match trimmed? vars key with
  | none => .ok false
  | some text =>
      let word := Text.lower text
      if word ∈ trueWords then .ok true
      else if word ∈ falseWords then .ok false
      else .error (.config (.notBoolean key))

/-- Numbers of milliseconds between commas. Blank parts do not count. -/
def durations? (text : String) : Option (List Nat) :=
  ((Text.commaParts text).filter fun part => !part.isEmpty).mapM (Text.unsigned? Text.maxUnsigned)

def backoffList (vars : Variables) : Except Error (List Nat) :=
  match filled? vars "CHANNEL_BACKOFF_MS" with
  | none => .ok defaultBackoff
  | some text =>
      match durations? text with
      | some delays => .ok delays
      | none => .error (.config .backoffList)

/-- The chats between commas. Unlike in other lists, no part may be blank. -/
def allowedChats (vars : Variables) : Except Error (List String) :=
  match filled? vars "CHANNEL_ALLOWED_CHAT_IDS" with
  | none => .ok []
  | some text =>
      let parts := Text.commaParts text
      if parts.any String.isEmpty then .error (.config .emptyAllowedChat) else .ok parts

def policy (vars : Variables) : Except Error AckPolicy :=
  match trimmed? vars "CHANNEL_ACK_POLICY" with
  | none => .ok AckPolicy.standard
  | some text => AckPolicy.ofText text

/-- The path of the cursor file. A blank value means that the cursor is not kept. -/
def cursorPathOf (vars : Variables) : Option String :=
  match trimmed? vars "CHANNEL_CURSOR_STATE_PATH" with
  | none => some defaultCursorPath
  | some text => Text.nonBlank? text

/-- The settings that the variables describe. -/
def ofVariables (vars : Variables) : Except Error Settings := do
  let token := (trimmed? vars "CHANNEL_TOKEN").getD ""
  if token.isEmpty then
    throw (.config .missingToken)
  let apiBase := (filled? vars "CHANNEL_API_BASE").getD defaultApiBase
  let ackPolicy ← policy vars
  let pollInterval ← positive vars "CHANNEL_POLL_INTERVAL_MS" defaultPollInterval
  let httpTimeout ← positive vars "CHANNEL_HTTP_TIMEOUT_MS" defaultHttpTimeout
  let pollTimeoutSeconds ← natural vars Text.maxUnsigned32 "CHANNEL_POLL_TIMEOUT_S" 0
  let maxRetries ← natural vars Text.maxUnsigned32 "CHANNEL_MAX_RETRIES" defaultMaxRetries
  let fetchLimit ← natural vars Text.maxUnsigned32 "CHANNEL_FETCH_LIMIT" defaultFetchLimit
  if fetchLimit = 0 || maxFetchLimit < fetchLimit then
    throw (.config (.fetchLimitRange maxFetchLimit))
  let backoff ← backoffList vars
  let allowedChatIds ← allowedChats vars
  let strictCursorIo ← flag vars "CHANNEL_STRICT_CURSOR_STATE_IO"
  let liveMode ← flag vars "CHANNEL_LIVE_MODE"
  let once ← flag vars "CHANNEL_ONCE"
  let enableMemoryHook ← flag vars "CHANNEL_ENABLE_MEMORY_HOOK"
  if liveMode && allowedChatIds.isEmpty then
    throw (.config .liveWithoutAllowedChats)
  return {
    token := token
    apiBase := apiBase
    httpTimeout := httpTimeout
    maxRetries := maxRetries
    backoff := backoff
    pollInterval := pollInterval
    pollTimeoutSeconds := pollTimeoutSeconds
    fetchLimit := fetchLimit
    once := once
    ackPolicy := ackPolicy
    allowedChatIds := allowedChatIds
    liveMode := liveMode
    enableMemoryHook := enableMemoryHook
    cursorPath := cursorPathOf vars
    strictCursorIo := strictCursorIo }

end Settings

end ChatRelay
