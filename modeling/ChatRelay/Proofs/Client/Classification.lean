import ChatRelay.Proofs.Client.Retry

/-!
What every response means. A response is judged by its status, by whether its body is a JSON text, and by a few members
of that text. Here these are told from the outside, without the functions that look for them: which class an outcome
belongs to, whether a later attempt can help, and how long to wait for it.
-/

namespace ChatRelay.Client

open ChatRelay.Json (Value Fields)
open ChatRelay.Http (Response Transport)

/-- A path of names leads from one value through objects to another. -/
inductive Leads : List String → Value → Value → Prop where
  | here (v : Value) : Leads [] v v
  | member {fields : Fields} {key : String} {path : List String} {v last : Value} (hMember : fields.get? key = some v)
      (hRest : Leads path v last) : Leads (key :: path) (.object fields) last

/-- An error code as the provider writes it: a signed number of 64 bits, or a text that is one once it is trimmed. -/
inductive Codes : Value → Int → Prop where
  | number {n : Int} (hLow : Text.minSigned ≤ n) (hHigh : n ≤ Text.maxSigned) : Codes (.int n) n
  | text {s : String} {n : Int} (h : Text.signed? (Text.trim s) = some n) : Codes (.string s) n

/-- The codes of too many requests and of failures of the server. -/
def Passing (code : Int) : Prop := code = 429 ∨ 500 ≤ code

def Succeeds (status : Nat) : Prop := 200 ≤ status ∧ status < 300

/-- The body of a response is this JSON value. -/
def Bears (response : Response) (body : Value) : Prop := Json.parseBytes? response.body = some body

/-- The result in a body, which is null if there is none. -/
def Gives (body v : Value) : Prop :=
  Leads ["result"] body v ∨ (∀ other, ¬ Leads ["result"] body other) ∧ v = .null

/-- The body of a response has an error code. -/
def SaysCode (response : Response) (code : Int) : Prop :=
  ∃ body v, Bears response body ∧ Leads ["error_code"] body v ∧ Codes v code

/-- The body of a response asks for a wait, as an unsigned number of 64 bits. -/
def BodyAsks (response : Response) (seconds : Nat) : Prop :=
  ∃ body, Bears response body ∧ Leads ["parameters", "retry_after"] body (.nat seconds) ∧ seconds ≤ Text.maxUnsigned

/-- A text asks for a wait: it is a number of seconds, or it is a date, and then the wait is the least number of whole
seconds after which the date has come. Times are in milliseconds, and dates in seconds. -/
def TextAsks (now : Int) (text : String) (seconds : Nat) : Prop :=
  Text.unsigned? Text.maxUnsigned text = some seconds ∨
    Text.unsigned? Text.maxUnsigned text = none ∧
      ∃ date, Http.Date.parse? text = some date ∧ IsLeast {n : Nat | date * 1000 ≤ now + n * 1000} seconds

/-- The header of a response asks for a wait, in visible characters of ASCII, spaces and tabs. -/
def HeaderAsks (now : Int) (response : Response) (seconds : Nat) : Prop :=
  ∃ value, response.header? "retry-after" = some value ∧
    (∀ c ∈ value.toList, 0x20 ≤ c.toNat ∧ c.toNat ≤ 0x7E ∨ c = '\t') ∧ TextAsks now (Text.trim value) seconds

section Readings

variable {body v : Value} {code now : Int} {seconds : Nat} {response : Response}

theorem leads_nil_iff {last : Value} : Leads [] v last ↔ v = last :=
  ⟨fun h => by cases h; rfl, fun h => h ▸ .here v⟩

/-- A path goes through the member with the first name. -/
theorem leads_cons_iff {key : String} {path : List String} {last : Value} :
    Leads (key :: path) body last ↔ ∃ v, body.field? key = some v ∧ Leads path v last := by
  constructor
  · intro h
    cases h with
    | member hMember hRest => exact ⟨_, hMember, hRest⟩
  · rintro ⟨v, hMember, hRest⟩
    cases body with
    | object fields => exact .member hMember hRest
    | null | bool | number | string | array => cases hMember

/-- A path leads to one value. -/
theorem Leads.unique {path : List String} {first second : Value} (h : Leads path v first) (h' : Leads path v second) :
    first = second := by
  induction h with
  | here v => exact leads_nil_iff.mp h'
  | member hMember hRest ih =>
      cases h' with
      | member hOther hEnd =>
          rw [hMember] at hOther
          cases hOther
          exact ih hEnd

theorem leads_singleton_iff {key : String} : Leads [key] body v ↔ body.field? key = some v := by
  simp [leads_cons_iff, leads_nil_iff]

theorem leads_ok_iff {fields : Fields} : Leads ["ok"] (.object fields) (.bool true) ↔
    (Fields.get? fields "ok").bind Value.bool? = some true := by
  rw [leads_singleton_iff, Value.field?]
  cases Fields.get? fields "ok" with
  | none => simp
  | some v => cases v <;> simp [Value.bool?]

/-- What a body gives is its result, and null if it has none. -/
theorem gives_iff : Gives body v ↔ v = (body.field? "result").getD .null := by
  simp only [Gives, leads_singleton_iff]
  cases body.field? "result" with
  | none => simp
  | some result => simp [eq_comm]

/-- The reader for error codes gives exactly the numbers that a value stands for. -/
theorem lenientSigned?_eq_some_iff : v.lenientSigned? = some code ↔ Codes v code := by
  constructor
  · intro h
    cases v with
    | string s => exact .text h
    | number n =>
        cases n with
        | integer n =>
            obtain ⟨hFits, hSame⟩ : Text.fitsSigned n = true ∧ n = code := by
              simpa [Value.lenientSigned?, Value.signed?] using h
            obtain ⟨hLow, hHigh⟩ : Text.minSigned ≤ n ∧ n ≤ Text.maxSigned := by simpa [Text.fitsSigned] using hFits
            exact hSame ▸ .number hLow hHigh
        | double d => cases h
    | null | bool | array | object => cases h
  · rintro (⟨hLow, hHigh⟩ | h)
    · exact if_pos (Text.fitsSigned_of_bounds hLow hHigh)
    · exact h

/-- The reader for waiting times takes a natural number that fits, and nothing else. -/
theorem unsigned?_eq_some_iff : v.unsigned? = some seconds ↔ v = .nat seconds ∧ seconds ≤ Text.maxUnsigned := by
  constructor
  · intro h
    cases v with
    | number n =>
        cases n with
        | integer n =>
            obtain ⟨⟨hLow, hHigh⟩, hSame⟩ : (0 ≤ n ∧ n ≤ Text.maxUnsigned) ∧ n.toNat = seconds := by
              simpa [Value.unsigned?] using h
            have hSeconds : n = seconds := by omega
            exact ⟨by rw [hSeconds, Value.nat], by omega⟩
        | double d => cases h
    | null | bool | string | array | object => cases h
  · rintro ⟨rfl, hHigh⟩
    simp [Value.unsigned?, Value.nat, hHigh]

theorem isPassing_iff : isPassing code = true ↔ Passing code := by
  rw [isPassing, Passing, Bool.or_eq_true, decide_eq_true_iff, decide_eq_true_iff]
  rfl

theorem saysCode_iff : SaysCode response code ↔ (Json.parseBytes? response.body).bind errorCode? = some code := by
  simp only [SaysCode, Bears, leads_singleton_iff, ← lenientSigned?_eq_some_iff, errorCode?, Option.bind_eq_some_iff,
    exists_and_left]

theorem bodyAsks_iff : BodyAsks response seconds ↔ (Json.parseBytes? response.body).bind bodyHint? = some seconds := by
  simp only [BodyAsks, Bears, leads_cons_iff, leads_nil_iff, bodyHint?, Option.bind_eq_some_iff, unsigned?_eq_some_iff]
  constructor
  · rintro ⟨body, hBody, ⟨parameters, hOuter, _, hInner, rfl⟩, hRange⟩
    exact ⟨body, hBody, _, ⟨parameters, hOuter, hInner⟩, rfl, hRange⟩
  · rintro ⟨body, hBody, _, ⟨parameters, hOuter, hInner⟩, rfl, hRange⟩
    exact ⟨body, hBody, ⟨parameters, hOuter, _, hInner, rfl⟩, hRange⟩

/-- The hint of a date is the least whole number of seconds after which the date is not in the future. -/
theorem isLeast_secondsUntil (now date : Int) :
    IsLeast {n : Nat | date * 1000 ≤ now + n * 1000} (secondsUntil now date) := by
  constructor
  · show date * 1000 ≤ now + (secondsUntil now date : Nat) * 1000
    rw [secondsUntil]
    omega
  · intro n hn
    have hn : date * 1000 ≤ now + n * 1000 := hn
    rw [secondsUntil]
    omega

theorem isLeast_iff_secondsUntil (now date : Int) :
    IsLeast {n : Nat | date * 1000 ≤ now + n * 1000} seconds ↔ secondsUntil now date = seconds := by
  have hWait := isLeast_secondsUntil now date
  exact ⟨fun h => Nat.le_antisymm (hWait.2 h.1) (h.2 hWait.1), fun h => h ▸ hWait⟩

theorem textAsks_of_number {text : String} {n : Nat} (h : Text.unsigned? Text.maxUnsigned text = some n) :
    TextAsks now text seconds ↔ n = seconds := by
  simp [TextAsks, h]

theorem textAsks_of_other {text : String} (h : Text.unsigned? Text.maxUnsigned text = none) :
    TextAsks now text seconds ↔ (Http.Date.parse? text).map (secondsUntil now) = some seconds := by
  simp [TextAsks, h, isLeast_iff_secondsUntil]

theorem not_textAsks_empty : ¬ TextAsks now "" seconds := by
  have hNumber : Text.unsigned? Text.maxUnsigned "" = none := by decide
  have hDate : Http.Date.parse? "" = none := by decide
  simp [textAsks_of_other hNumber, hDate]

/-- The headers that count are those of printable characters and tabs. -/
theorem isPlainHeader_iff {value : String} :
    isPlainHeader value = true ↔ ∀ c ∈ value.toList, 0x20 ≤ c.toNat ∧ c.toNat ≤ 0x7E ∨ c = '\t' := by
  simp [isPlainHeader]

/-- The hint of the headers is what the header for it asks for, if it is plain. -/
theorem headerAsks_iff : HeaderAsks now response seconds ↔ headerHint? now response = some seconds := by
  simp only [HeaderAsks, headerHint?, ← isPlainHeader_iff]
  cases response.header? "retry-after" with
  | none => simp
  | some value =>
      by_cases hPlain : isPlainHeader value = true
      · by_cases hEmpty : Text.trim value = ""
        · simp [hEmpty, not_textAsks_empty]
        · cases hNumber : Text.unsigned? Text.maxUnsigned (Text.trim value) with
          | some n => simp [hPlain, hEmpty, textAsks_of_number hNumber, hNumber]
          | none => simp [hPlain, hEmpty, textAsks_of_other hNumber, hNumber]
      · simp [hPlain]

end Readings

/-- How an outcome failed. -/
def fault? (outcome : Except ApiError Value) : Option ApiFault :=
  match outcome with
  | .ok _ => none
  | .error e => some e.fault

/-- What the failure of an attempt tells about the response. -/
structure Explains (now : Int) (response : Response) (e : ApiError) : Prop where
  status_iff : ∀ status, e.statusCode = some status ↔ e.fault = .httpError ∧ status = response.status
  code_iff : ∀ code, e.apiErrorCode = some code ↔
    (e.fault = .httpError ∨ e.fault = .apiError) ∧ SaysCode response code
  transient_iff : e.transient = true ↔ e.fault = .httpError ∧ Passing response.status ∨
    e.fault = .apiError ∧ ∃ code, SaysCode response code ∧ Passing code
  hint_iff : ∀ seconds, e.retryAfterSeconds = some seconds ↔
    e.fault = .httpError ∧ response.status = 429 ∧ (BodyAsks response seconds ∨
      (∀ other, ¬ BodyAsks response other) ∧ HeaderAsks now response seconds) ∨
    e.fault = .apiError ∧ SaysCode response 429 ∧ BodyAsks response seconds

/-- An outcome has the class that the response calls for. -/
structure Classified (now : Int) (response : Response) (outcome : Except ApiError Value) : Prop where
  ok_iff : ∀ v, outcome = .ok v ↔ Succeeds response.status ∧
    ∃ body, Bears response body ∧ Leads ["ok"] body (.bool true) ∧ Gives body v
  httpError_iff : fault? outcome = some .httpError ↔ ¬ Succeeds response.status
  invalidJson_iff : fault? outcome = some .invalidJson ↔ Succeeds response.status ∧ ∀ body, ¬ Bears response body
  invalidShape_iff : fault? outcome = some .invalidResponseShape ↔ Succeeds response.status ∧
    ∃ body, Bears response body ∧ ∀ fields, body ≠ .object fields
  apiError_iff : fault? outcome = some .apiError ↔ Succeeds response.status ∧
    ∃ fields, Bears response (.object fields) ∧ ¬ Leads ["ok"] (.object fields) (.bool true)
  explained : ∀ e, outcome = .error e → Explains now response e

section Outcomes

variable {operation : Operation} {now : Int} {response : Response} {body : Value}

theorem isSuccess_iff {status : Nat} : Http.isSuccess status = true ↔ Succeeds status := by
  simp only [Http.isSuccess, Succeeds, Bool.and_eq_true, decide_eq_true_eq]
  omega

/-- The error of a status outside that range is explained by the response. -/
theorem explains_httpError : Explains now response (httpError operation now response) := by
  have hFault : (httpError operation now response).fault = .httpError := rfl
  constructor
  case status_iff =>
    intro status
    have hStatus : (httpError operation now response).statusCode = some response.status := rfl
    simp [hFault, hStatus, eq_comm]
  case code_iff =>
    intro code
    have hSaid : (httpError operation now response).apiErrorCode =
        (Json.parseBytes? response.body).bind errorCode? := rfl
    simp [hFault, hSaid, saysCode_iff]
  case transient_iff =>
    have hPassing : (httpError operation now response).transient = isPassing response.status := rfl
    simp [hFault, hPassing, isPassing_iff]
  case hint_iff =>
    intro seconds
    by_cases hMany : response.status = 429
    · rw [bodyAsks_iff, headerAsks_iff]
      simp only [bodyAsks_iff]
      cases hBody : (Json.parseBytes? response.body).bind bodyHint? with
      | none =>
          have hHint : (httpError operation now response).retryAfterSeconds = headerHint? now response := by
            simp [httpError, tooManyRequests, hMany, hBody]
          simp [hFault, hMany, hHint]
      | some n =>
          have hHint : (httpError operation now response).retryAfterSeconds = some n := by
            simp [httpError, tooManyRequests, hMany, hBody]
          simp [hFault, hMany, hHint]
    · have hHint : (httpError operation now response).retryAfterSeconds = none := if_neg hMany
      simp [hFault, hMany, hHint]

/-- An answer of the wrong shape explains an error that says no more than that. -/
theorem explains_malformed {fault : ApiFault} {description : String} (hHttp : fault ≠ .httpError)
    (hApi : fault ≠ .apiError) : Explains now response (malformed operation fault description) where
  status_iff status := by simp [malformed, hHttp]
  code_iff code := by simp [malformed, hHttp, hApi]
  transient_iff := by simp [malformed, hHttp, hApi]
  hint_iff seconds := by simp [malformed, hHttp, hApi]

/-- A refusal is explained by what its body says. -/
theorem explains_refusal (h : Bears response body) : Explains now response (refusal operation body) := by
  have hFault : (refusal operation body).fault = .apiError := rfl
  have hCode : ∀ code, SaysCode response code ↔ errorCode? body = some code := fun code => by
    rw [saysCode_iff, h, Option.bind_some]
  constructor
  case status_iff => exact fun status => by simp [refusal]
  case code_iff =>
    intro code
    have hSaid : (refusal operation body).apiErrorCode = errorCode? body := rfl
    simp [hFault, hSaid, hCode]
  case transient_iff =>
    have hPassing : (refusal operation body).transient = (errorCode? body).any isPassing := rfl
    simp [hFault, hPassing, hCode, isPassing_iff, Option.any_eq_true]
  case hint_iff =>
    intro seconds
    have hHint : (refusal operation body).retryAfterSeconds =
        if errorCode? body = some 429 then bodyHint? body else none := rfl
    rw [hHint, hCode, bodyAsks_iff, h, Option.bind_some]
    by_cases hMany : errorCode? body = some 429
    · simp [hFault, hMany]
    · simp [hFault, hMany]

/-- Without success nothing of the body counts for the class. -/
theorem classified_httpError (hStatus : ¬ Succeeds response.status) :
    Classified now response (.error (httpError operation now response)) := by
  constructor
  case explained => exact fun e hError => by cases hError; exact explains_httpError
  all_goals simp [fault?, httpError, hStatus]

/-- Case of a body that is no JSON. -/
theorem classified_invalidJson {description : String} (hStatus : Succeeds response.status)
    (hBody : ∀ body, ¬ Bears response body) :
    Classified now response (.error (malformed operation .invalidJson description)) := by
  constructor
  case explained => exact fun e hError => by cases hError; exact explains_malformed (by decide) (by decide)
  all_goals simp [fault?, malformed, hStatus, hBody]

theorem bears_iff {other : Value} (h : Bears response body) : Bears response other ↔ other = body :=
  ⟨fun hOther => Option.some.inj (hOther.symm.trans h), fun hEq => hEq ▸ h⟩

/-- Case of a body that is no object. -/
theorem classified_invalidShape {description : String} (hStatus : Succeeds response.status)
    (hBody : Bears response body) (hShape : ∀ fields, body ≠ .object fields) :
    Classified now response (.error (malformed operation .invalidResponseShape description)) := by
  have hNot : ∀ {key path v}, ¬ Leads (key :: path) body v := fun h => by
    cases h with
    | member => exact hShape _ rfl
  constructor
  case explained => exact fun e hError => by cases hError; exact explains_malformed (by decide) (by decide)
  all_goals simp [fault?, malformed, hStatus, bears_iff hBody, hShape, hNot, Ne.symm (hShape _)]

/-- Case of an object that does not say it is fine. -/
theorem classified_refusal {fields : Fields} (hStatus : Succeeds response.status)
    (hBody : Bears response (.object fields)) (hOk : ¬ Leads ["ok"] (.object fields) (.bool true)) :
    Classified now response (.error (refusal operation (.object fields))) := by
  constructor
  case explained => exact fun e hError => by cases hError; exact explains_refusal hBody
  all_goals simp [fault?, refusal, hStatus, bears_iff hBody, hOk]

/-- Case of an object that says it is fine. -/
theorem classified_ok {fields : Fields} (hStatus : Succeeds response.status) (hBody : Bears response (.object fields))
    (hOk : Leads ["ok"] (.object fields) (.bool true)) :
    Classified now response (.ok ((Fields.get? fields "result").getD .null)) := by
  constructor
  case explained => exact fun e hError => by cases hError
  case ok_iff =>
    intro v
    simp [hStatus, bears_iff hBody, hOk, gives_iff, Value.field?, eq_comm (a := v)]
  all_goals simp [fault?, hStatus, bears_iff hBody, hOk]

/-- The cases of a body together. -/
theorem classified_bodyResult (hStatus : Succeeds response.status) (hBody : Bears response body) :
    Classified now response (bodyResult operation body) := by
  cases body with
  | object fields =>
      rw [bodyResult]
      by_cases hOk : Leads ["ok"] (.object fields) (.bool true)
      · rw [if_pos (leads_ok_iff.mp hOk)]
        exact classified_ok hStatus hBody hOk
      · rw [if_neg fun h => hOk (leads_ok_iff.mpr h)]
        exact classified_refusal hStatus hBody hOk
  | null | bool | number | string | array => exact classified_invalidShape hStatus hBody fun _ h => by cases h

/-- Every response is classified, whatever its status and body. -/
theorem classified_responseResult :
    Classified now response (responseResult operation now response) := by
  rw [responseResult]
  by_cases hStatus : Succeeds response.status
  · rw [if_pos (isSuccess_iff.mpr hStatus)]
    cases hBody : Json.parseBytes? response.body with
    | none => exact classified_invalidJson hStatus fun body hBears => by cases hBody.symm.trans hBears
    | some body => exact classified_bodyResult hStatus hBody
  · rw [if_neg fun h => hStatus (isSuccess_iff.mp h)]
    exact classified_httpError hStatus

/-- A failure that asks for a wait may pass. -/
theorem Explains.transient_of_hint {e : ApiError} {seconds : Nat} (h : Explains now response e)
    (hHint : e.retryAfterSeconds = some seconds) : e.transient = true := by
  refine h.transient_iff.mpr (((h.hint_iff seconds).mp hHint).imp (fun hHttp => ?_) fun hApi => ?_)
  · refine ⟨hHttp.1, Or.inl ?_⟩
    rw [hHttp.2.1]
    rfl
  · exact ⟨hApi.1, 429, hApi.2.1, Or.inl rfl⟩

end Outcomes

/-- What an operation makes of a result that is read in some way. A result that cannot be read is a failure of its own
class, which will not pass, and a failure stays as it is. -/
structure Reads {α : Type} (read : Value → α → Prop) (result : Except ApiError Value) (answer : Except ApiError α) :
    Prop where
  ok_iff : ∀ a, answer = .ok a ↔ ∃ v, result = .ok v ∧ read v a
  misshapen : ∀ v, result = .ok v → (∀ a, ¬ read v a) →
    ∃ e, answer = .error e ∧ e.fault = .invalidResultShape ∧ e.transient = false ∧ e.retryAfterSeconds = none
  failed : ∀ e, result = .error e → answer = .error e

/-- An array lists these updates: they are its objects, in its order. -/
def Lists (v : Value) (updates : List Fields) : Prop :=
  ∃ items, v = .array items ∧ updates.map Value.object = items.filter fun item => item.object?.isSome

section Results

variable {result : Except ApiError Value}

/-- Of a list of values, the reader keeps exactly the objects. -/
theorem map_object_filterMap (items : List Value) :
    (items.filterMap Value.object?).map Value.object = items.filter fun item => item.object?.isSome := by
  induction items with
  | nil => rfl
  | cons item rest ih =>
      cases item with
      | object fields => exact congrArg (List.cons (Value.object fields)) ih
      | null | bool | number | string | array => exact ih

/-- An array lists its objects and nothing else. -/
theorem lists_array_iff {items : List Value} {updates : List Fields} :
    Lists (.array items) updates ↔ updates = items.filterMap Value.object? := by
  simp only [Lists, Value.array.injEq, exists_eq_left', ← map_object_filterMap]
  exact List.map_inj_right fun _ _ h => Value.object.inj h

/-- An operation reads a result when each value is either read or has the wrong shape. -/
theorem reads_bind {α : Type} {read : Value → α → Prop} {f : Value → Except ApiError α}
    (hRead : ∀ v a, f v = .ok a ↔ read v a)
    (hShape : ∀ v e, f v = .error e →
      ∃ operation description, e = malformed operation .invalidResultShape description) :
    Reads read result (result.bind f) := by
  cases result with
  | error e =>
      constructor
      case ok_iff => exact fun a => ⟨fun h => (by cases h), fun ⟨_, h, _⟩ => (by cases h)⟩
      case misshapen => exact fun v h => by cases h
      case failed => exact fun _ h => by cases h; rfl
  | ok v =>
      have hBind : (Except.ok v : Except ApiError Value).bind f = f v := rfl
      rw [hBind]
      constructor
      case ok_iff => exact fun a => by simp [hRead]
      case failed => exact fun _ h => by cases h
      case misshapen =>
        intro u hSame hNone
        cases hSame
        cases hAnswer : f v with
        | ok a => exact absurd ((hRead v a).mp hAnswer) (hNone a)
        | error e =>
            obtain ⟨_, _, rfl⟩ := hShape v e hAnswer
            exact ⟨_, rfl, rfl, rfl, rfl⟩

/-- The answer to a request for updates is read as a list of objects. -/
theorem reads_updates : Reads Lists result (result.bind updatesOf) := by
  refine reads_bind (fun v updates => ?_) fun v e h => ?_
  · cases v with
    | array items => rw [lists_array_iff, updatesOf, Except.ok.injEq, eq_comm]
    | null | bool | number | string | object => exact ⟨fun h => (by cases h), fun ⟨_, h, _⟩ => (by cases h)⟩
  · cases v with
    | array items => cases h
    | null | bool | number | string | object => exact ⟨_, _, (Except.error.inj h).symm⟩

/-- The answer to a message is read as an object. -/
theorem reads_message : Reads (fun v fields => v = .object fields) result (result.bind messageOf) := by
  refine reads_bind (fun v fields => ?_) fun v e h => ?_
  · cases v with
    | object found => simp [messageOf]
    | null | bool | number | string | array => simp [messageOf]
  · cases v with
    | object fields => cases h
    | null | bool | number | string | array => exact ⟨_, _, (Except.error.inj h).symm⟩

end Results

variable {σ : Type}

/-- **Every response has exactly one meaning.** Whatever status, headers and body a server answers with, an attempt that
is answered is classified by them alone, apart from the clock for a wait until a date. Without a success status it is an
HTTP error, with that status. With it, a body that is no JSON text, one that is no object and one without a true `ok`
are three classes of failures, and otherwise the outcome is the result. A later attempt can help after the statuses and
the error codes of too many requests and of server failures, and after nothing else. Only too many requests come with a
wait. From the result of a request, updates are read as the objects of an array in their order, and a message as an
object. Anything else is a result of the wrong shape. -/
theorem responses_classified (client : Client) (transport : Transport (StateM σ)) :
    (∀ (operation : Operation) (body : Value) (extraTime number : Nat) (w w₁ : σ) (response : Response),
      transport.exchange (client.posting operation body extraTime number) w = (.answered response, w₁) →
      ∃ (outcome : Except ApiError Value) (now : Int) (w₂ : σ), transport.now w₁ = (now, w₂) ∧
        client.attempt transport operation body extraTime number w = (outcome, w₂) ∧
        Classified now response outcome ∧
        ∀ e seconds, outcome = .error e → e.retryAfterSeconds = some seconds → e.transient = true) ∧
    (∀ (request : GetUpdates) (w : σ),
      Reads Lists (client.request transport .getUpdates request.toJson (request.timeoutSeconds * 1000) w).1
        ((client.api transport).getUpdates request w).1) ∧
    ∀ (request : SendMessage) (w : σ),
      Reads (fun v fields => v = .object fields) (client.request transport .sendMessage request.toJson 0 w).1
        ((client.api transport).sendMessage request w).1 := by
  refine ⟨fun operation body extraTime number w w₁ response hAnswer => ?_, fun _ _ => reads_updates,
    fun _ _ => reads_message⟩
  obtain ⟨now, w₂, hNow⟩ : ∃ now w₂, transport.now w₁ = (now, w₂) := ⟨_, _, rfl⟩
  have hClass : Classified now response (responseResult operation now response) := classified_responseResult
  refine ⟨responseResult operation now response, now, w₂, hNow, ?_, hClass, fun e seconds hError => ?_⟩
  · exact (bind_of_run _ hAnswer).trans (bind_of_run _ hNow)
  · exact (hClass.explained e hError).transient_of_hint

/-- A body without ok, with a code in a text and a wait, and a header that asks for another wait. -/
def askedTwice : Response :=
  { status := 200
    headers := [("Retry-After", "9")]
    body := ("\x7b\"ok\": false, \"error_code\": \" 429 \", " ++
      "\"parameters\": \x7b\"retry_after\": 3\x7d\x7d").toUTF8 }

/-- Only the wait in the body counts. -/
theorem responses_classified_of_text_code :
    let client : Client := { token := "t", apiBase := "https://api", timeout := 1000, maxRetries := 0, backoff := [0] }
    ∃ e, client.attempt scripted .sendMessage .null 0 0 [.answered askedTwice] = (.error e, []) ∧
      Classified 0 askedTwice (.error e) ∧ e.fault = .apiError ∧ e.retryAfterSeconds = some 3 ∧ e.transient = true := by
  intro client
  obtain ⟨outcome, now, script, hNow, hRun, hClass, hPasses⟩ :=
    (responses_classified client scripted).1 .sendMessage .null 0 0 [.answered askedTwice] [] askedTwice rfl
  obtain ⟨rfl, rfl⟩ : now = 0 ∧ script = [] := Prod.mk.inj hNow.symm
  have hEvaluated : (fault? (client.attempt scripted .sendMessage .null 0 0 [.answered askedTwice]).1,
      hint? (client.attempt scripted .sendMessage .null 0 0 [.answered askedTwice]).1) = (some .apiError, some 3) := by
    decide +kernel
  rw [hRun] at hEvaluated
  obtain ⟨hFault, hHint⟩ := Prod.mk.inj hEvaluated
  cases outcome with
  | ok v => cases hFault
  | error e => exact ⟨e, hRun, hClass, Option.some.inj hFault, hHint, hPasses e 3 rfl hHint⟩

end ChatRelay.Client
