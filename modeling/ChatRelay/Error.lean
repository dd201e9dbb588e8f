/-!
Why an operation of the relay fails. Every error is a cause, and its wording is given by one function
for each type. An error is transient when a later attempt has a reasonable chance to succeed.
-/

namespace ChatRelay

/-- What is wrong with a value of the configuration. -/
inductive ConfigError where
  | missingToken
  | notNatural (key : String)
  | notPositive (key : String)
  | notBoolean (key : String)
  | fetchLimitRange (most : Nat)
  | backoffList
  | emptyAllowedChat
  | liveWithoutAllowedChats
  | unknownAckPolicy (text : String)
  | blankToken
  | zeroTimeout
  | blankApiBase
  | feedLimitRange (most given : Nat)
  | other (text : String)
deriving DecidableEq

def ConfigError.message : ConfigError → String
  | .missingToken => "CHANNEL_TOKEN environment variable is required"
  | .notNatural key => key ++ " must be a non-negative integer"
  | .notPositive key => key ++ " must be a positive number"
  | .notBoolean key => key ++ " must be a boolean"
  | .fetchLimitRange most => "CHANNEL_FETCH_LIMIT must be between 1 and " ++ toString most
  | .backoffList => "CHANNEL_BACKOFF_MS must be a comma-separated list of non-negative integers"
  | .emptyAllowedChat => "CHANNEL_ALLOWED_CHAT_IDS must not contain empty values"
  | .liveWithoutAllowedChats =>
      "CHANNEL_ALLOWED_CHAT_IDS must be non-empty when CHANNEL_LIVE_MODE is enabled"
  | .unknownAckPolicy text =>
      "ack_policy must be 'always' or 'on-success' (got '" ++ text ++ "')"
  | .blankToken => "token must be a non-empty string"
  | .zeroTimeout => "timeout must be positive"
  | .blankApiBase => "api_base must be a non-empty URL"
  | .feedLimitRange most given =>
      "fetch limit must be between 1 and " ++ toString most ++ " (got " ++ toString given ++ ")"
  | .other text => text

/-- What a caller promised and did not keep. -/
inductive ContractError where
  | blankField (field : String)
  | unusableAck (text : String)
  | other (text : String)
deriving DecidableEq

def ContractError.message : ContractError → String
  | .blankField field => field ++ " must be a non-empty string"
  | .unusableAck text => "ack requires a numeric update_id (got '" ++ text ++ "')"
  | .other text => text

/-- The steps of loading and saving the cursor that can fail. -/
inductive StoreFault where
  | loadIo
  | loadJson
  | loadShape
  | loadFloor
  | saveFloor
  | saveIo
deriving DecidableEq

namespace StoreFault

def all : List StoreFault := [.loadIo, .loadJson, .loadShape, .loadFloor, .saveFloor, .saveIo]

def name : StoreFault → String
  | .loadIo => "state-load-io"
  | .loadJson => "state-load-json"
  | .loadShape => "state-load-shape"
  | .loadFloor => "state-load-floor"
  | .saveFloor => "state-save-floor"
  | .saveIo => "state-save-io"

def isLoad : StoreFault → Bool
  | .loadIo | .loadJson | .loadShape | .loadFloor => true
  | .saveFloor | .saveIo => false

def isIo : StoreFault → Bool
  | .loadIo | .saveIo => true
  | _ => false

end StoreFault

/-- A failed load or save of the cursor. -/
structure StoreError where
  fault : StoreFault
  detail : String
deriving DecidableEq

def StoreError.message (e : StoreError) : String := e.fault.name ++ ": " ++ e.detail

/-- Why an operation of the relay fails. The detail of a channel error is the provider's failure as JSON
text. -/
inductive Error where
  | config (reason : ConfigError)
  | contract (reason : ContractError)
  | store (reason : StoreError)
  | channel (operation : String) (transient : Bool) (detail : String)
  | io (text : String)
  | json (text : String)
  | external (text : String)
deriving DecidableEq

namespace Error

def message : Error → String
  | .config reason => "config error: " ++ reason.message
  | .contract reason => "contract violation: " ++ reason.message
  | .store reason => "cursor state error: " ++ reason.message
  | .channel operation _ detail => operation ++ " failed: " ++ detail
  | .io text => "i/o error: " ++ text
  | .json text => "json error: " ++ text
  | .external text => "external error: " ++ text

/-- Whether a later attempt has a reasonable chance to succeed. -/
def isTransient : Error → Bool
  | .channel _ transient _ => transient
  | .io _ | .external _ => true
  | .store reason => reason.fault.isIo
  | .config _ | .contract _ | .json _ => false

end Error

end ChatRelay
