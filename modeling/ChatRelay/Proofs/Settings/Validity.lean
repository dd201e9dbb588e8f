import ChatRelay.Proofs.Allowlist.Forms
import ChatRelay.Proofs.Settings.Values

/-!
Which variables make settings. The conditions are told for each variable by itself, apart from the one that ties live
mode to the allowed chats, and settings are made exactly if all of them are met. What the settings are is told by the
variables as well, and nothing but fifteen trimmed values counts. Whatever is wrong is an error of the configuration.
-/

namespace ChatRelay

/-- A sequence succeeds exactly if both its parts do. -/
theorem bind_eq_ok_iff {ε α β : Type} {x : Except ε α} {f : α → Except ε β} {b : β} :
    x >>= f = .ok b ↔ ∃ a, x = .ok a ∧ f a = .ok b :=
  ⟨exists_of_bind_eq_ok, fun ⟨_, hFirst, hRest⟩ => hFirst ▸ hRest⟩

/-- A program that throws under a condition succeeds exactly if it does not meet it and the rest succeeds. -/
theorem guard_eq_ok_iff {ε α β : Type} {c : Prop} [Decidable c] {e : ε} {f : α → Except ε β} {x : Except ε β} {b : β} :
    (if c then (throw e : Except ε α) >>= f else x) = .ok b ↔ ¬ c ∧ x = .ok b :=
  ⟨not_of_guard_eq_ok, fun ⟨hNot, hRest⟩ => (if_neg hNot).trans hRest⟩

namespace Settings

open ChatRelay.Text (CommaList lower)

/-- The conditions on variables. A value that is missing or blank is judged only where a value is needed, and the
name of a policy must not be blank. -/
structure Valid (vars : Variables) : Prop where
  token : ∃ text, Fills vars "CHANNEL_TOKEN" text
  ackPolicy : ∀ text, Holds vars "CHANNEL_ACK_POLICY" text → lower text = "always" ∨ lower text = "on-success"
  positives : ∀ key ∈ ["CHANNEL_POLL_INTERVAL_MS", "CHANNEL_HTTP_TIMEOUT_MS"], ∀ text, Fills vars key text →
    ∃ n, ReadsNumber Text.maxUnsigned text n ∧ n ≠ 0
  naturals : ∀ key ∈ ["CHANNEL_POLL_TIMEOUT_S", "CHANNEL_MAX_RETRIES"], ∀ text, Fills vars key text →
    ∃ n, ReadsNumber Text.maxUnsigned32 text n
  fetchLimit : ∀ text, Fills vars "CHANNEL_FETCH_LIMIT" text →
    ∃ n, ReadsNumber Text.maxUnsigned32 text n ∧ 1 ≤ n ∧ n ≤ 100
  backoff : ∀ text items, Fills vars "CHANNEL_BACKOFF_MS" text → CommaList text items →
    ∀ item ∈ items, item ≠ "" → ∃ n, ReadsNumber Text.maxUnsigned item n
  allowedChats : ∀ text items, Fills vars "CHANNEL_ALLOWED_CHAT_IDS" text → CommaList text items → "" ∉ items
  flags : ∀ key ∈ ["CHANNEL_STRICT_CURSOR_STATE_IO", "CHANNEL_LIVE_MODE", "CHANNEL_ONCE", "CHANNEL_ENABLE_MEMORY_HOOK"],
    ∀ text, Holds vars key text → lower text ∈ ["1", "true", "yes", "on", "0", "false", "no", "off", ""]
  live : ∀ text, Holds vars "CHANNEL_LIVE_MODE" text → lower text ∈ ["1", "true", "yes", "on"] →
    ∃ chats, Fills vars "CHANNEL_ALLOWED_CHAT_IDS" chats

/-- The settings are the ones that the variables describe. -/
structure DescribedBy (vars : Variables) (s : Settings) : Prop where
  token : Fills vars "CHANNEL_TOKEN" s.token
  apiBase : ReadsOr (Fills vars "CHANNEL_API_BASE") defaultApiBase Eq s.apiBase
  ackPolicy : ReadsOr (Holds vars "CHANNEL_ACK_POLICY") AckPolicy.standard ReadsPolicy s.ackPolicy
  pollInterval : ReadsOr (Fills vars "CHANNEL_POLL_INTERVAL_MS") defaultPollInterval (ReadsNumber Text.maxUnsigned)
    s.pollInterval
  httpTimeout : ReadsOr (Fills vars "CHANNEL_HTTP_TIMEOUT_MS") defaultHttpTimeout (ReadsNumber Text.maxUnsigned)
    s.httpTimeout
  pollTimeoutSeconds : ReadsOr (Fills vars "CHANNEL_POLL_TIMEOUT_S") 0 (ReadsNumber Text.maxUnsigned32)
    s.pollTimeoutSeconds
  maxRetries : ReadsOr (Fills vars "CHANNEL_MAX_RETRIES") defaultMaxRetries (ReadsNumber Text.maxUnsigned32)
    s.maxRetries
  fetchLimit : ReadsOr (Fills vars "CHANNEL_FETCH_LIMIT") defaultFetchLimit (ReadsNumber Text.maxUnsigned32)
    s.fetchLimit
  backoff : ReadsOr (Fills vars "CHANNEL_BACKOFF_MS") defaultBackoff ReadsDelays s.backoff
  allowedChatIds : ReadsOr (Fills vars "CHANNEL_ALLOWED_CHAT_IDS") [] ReadsChats s.allowedChatIds
  cursorPath : ReadsOr (Holds vars "CHANNEL_CURSOR_STATE_PATH") (some defaultCursorPath) ReadsPath s.cursorPath
  strictCursorIo : ReadsOr (Holds vars "CHANNEL_STRICT_CURSOR_STATE_IO") false ReadsFlag s.strictCursorIo
  liveMode : ReadsOr (Holds vars "CHANNEL_LIVE_MODE") false ReadsFlag s.liveMode
  once : ReadsOr (Holds vars "CHANNEL_ONCE") false ReadsFlag s.once
  enableMemoryHook : ReadsOr (Holds vars "CHANNEL_ENABLE_MEMORY_HOOK") false ReadsFlag s.enableMemoryHook
  /-- The limits that a number alone does not keep. -/
  pollInterval_ne : s.pollInterval ≠ 0
  httpTimeout_ne : s.httpTimeout ≠ 0
  fetchLimit_range : 1 ≤ s.fetchLimit ∧ s.fetchLimit ≤ maxFetchLimit
  live : s.liveMode = true → s.allowedChatIds ≠ []

/-- What every part of the relay can rely on. -/
structure Usable (s : Settings) : Prop where
  token : Text.Trimmed s.token
  pollInterval : 0 < s.pollInterval
  httpTimeout : 0 < s.httpTimeout
  fetchLimit : 1 ≤ s.fetchLimit ∧ s.fetchLimit ≤ 100
  allowedChats : ∀ chat ∈ s.allowedChatIds, Text.Trimmed chat
  live : s.liveMode = true → s.allowedChatIds ≠ []
  cursorPath : ∀ path ∈ s.cursorPath, Text.isBlank path = false

section Reading

variable {vars : Variables} {s : Settings} {text : String}

theorem fills_iff_token : Fills vars "CHANNEL_TOKEN" text ↔
    ¬ ((trimmed? vars "CHANNEL_TOKEN").getD "").isEmpty = true ∧ (trimmed? vars "CHANNEL_TOKEN").getD "" = text := by
  rw [Fills, ← trimmed?_eq_some_iff]
  cases trimmed? vars "CHANNEL_TOKEN" with
  | none => simp
  | some value =>
      simp only [Option.some.injEq, Option.getD_some, String.isEmpty_iff]
      exact ⟨fun ⟨hSame, hSome⟩ => ⟨hSame ▸ hSome, hSame⟩, fun ⟨hSome, hSame⟩ => ⟨hSame, hSame ▸ hSome⟩⟩

/-- The settings are made exactly if they are described by the variables, value by value. -/
theorem ofVariables_eq_ok_iff : ofVariables vars = .ok s ↔ DescribedBy vars s := by
  simp only [ofVariables, bind_eq_ok_iff, guard_eq_ok_iff, natural_eq_ok_iff, positive_eq_ok_iff, policy_eq_ok_iff,
    backoffList_eq_ok_iff, allowedChats_eq_ok_iff, flag_eq_ok_iff]
  constructor
  · rintro ⟨hToken, ackPolicy, hPolicy, pollInterval, ⟨hInterval, hIntervalSome⟩, httpTimeout, ⟨hTimeout, hTimeoutSome⟩,
      pollTimeout, hPollTimeout, maxRetries, hRetries, fetchLimit, hLimit, hRange, backoff, hBackoff, chats, hChats,
      strict, hStrict, live, hLive, once, hOnce, memoryHook, hMemory, hTogether, hEnd⟩
    cases hEnd
    exact {
      token := fills_iff_token.mpr ⟨hToken, rfl⟩
      apiBase := filled?_getD_eq_iff.mp rfl
      ackPolicy := hPolicy
      pollInterval := hInterval
      httpTimeout := hTimeout
      pollTimeoutSeconds := hPollTimeout
      maxRetries := hRetries
      fetchLimit := hLimit
      backoff := hBackoff
      allowedChatIds := hChats
      cursorPath := cursorPathOf_eq_iff.mp rfl
      strictCursorIo := hStrict
      liveMode := hLive
      once := hOnce
      enableMemoryHook := hMemory
      pollInterval_ne := hIntervalSome
      httpTimeout_ne := hTimeoutSome
      fetchLimit_range := by simpa [Nat.one_le_iff_ne_zero] using hRange
      live := by simpa using hTogether }
  · intro h
    obtain ⟨hToken, hSame⟩ := fills_iff_token.mp h.token
    refine ⟨hToken, _, h.ackPolicy, _, ⟨h.pollInterval, h.pollInterval_ne⟩, _, ⟨h.httpTimeout, h.httpTimeout_ne⟩,
      _, h.pollTimeoutSeconds, _, h.maxRetries, _, h.fetchLimit, ?_, _, h.backoff, _, h.allowedChatIds,
      _, h.strictCursorIo, _, h.liveMode, _, h.once, _, h.enableMemoryHook, ?_, ?_⟩
    · simpa [Nat.one_le_iff_ne_zero] using h.fetchLimit_range
    · simpa using h.live
    · rw [hSame, filled?_getD_eq_iff.mpr h.apiBase, cursorPathOf_eq_iff.mpr h.cursorPath]
      rfl

/-- A word for a policy is one of two, in any case. -/
theorem exists_readsPolicy_iff :
    (∃ policy, ReadsPolicy text policy) ↔ lower text = "always" ∨ lower text = "on-success" := by
  constructor
  · rintro ⟨policy, hPolicy⟩
    cases policy with
    | always => exact .inl hPolicy
    | onSuccess => exact .inr hPolicy
  · rintro (hName | hName)
    · exact ⟨.always, hName⟩
    · exact ⟨.onSuccess, hName⟩

/-- A list of delays is readable exactly if each of its items is. -/
theorem exists_readsDelays_iff : (∃ delays, ReadsDelays text delays) ↔
    ∀ items, CommaList text items → ∀ item ∈ items, item ≠ "" → ∃ n, ReadsNumber Text.maxUnsigned item n := by
  obtain ⟨items, hItems⟩ := Text.exists_commaList text
  have hOnly : ∀ {P : List String → Prop}, (∀ other, CommaList text other → P other) ↔ P items :=
    ⟨fun h => h items hItems, fun h other hOther => hItems.unique hOther ▸ h⟩
  have hSome : (∃ delays, ReadsDelays text delays) ↔ ∃ delays,
      List.Forall₂ (ReadsNumber Text.maxUnsigned) (items.filter fun item => !item.isEmpty) delays :=
    exists_congr fun delays => ⟨fun ⟨_, hOther, hReads⟩ => hItems.unique hOther ▸ hReads, fun h => ⟨items, hItems, h⟩⟩
  rw [hOnly, hSome, exists_forall₂_iff]
  simp [List.mem_filter]

/-- A list of chats is readable exactly if none of its items is blank. -/
theorem exists_readsChats_iff : (∃ chats, ReadsChats text chats) ↔ ∀ items, CommaList text items → "" ∉ items := by
  constructor
  · rintro ⟨chats, hChats, hNone⟩ items hItems
    exact hItems.unique hChats ▸ hNone
  · intro hNone
    obtain ⟨items, hItems⟩ := Text.exists_commaList text
    exact ⟨items, hItems, hNone items hItems⟩

theorem exists_readsFlag_iff : (∃ b, ReadsFlag text b) ↔ lower text ∈ trueWords ++ falseWords := by
  simp [ReadsFlag, or_comm]

/-- A flag is set exactly if its variable says so. -/
theorem eq_true_iff_of_readsFlag {key : String} {b : Bool} (h : ReadsOr (Holds vars key) false ReadsFlag b) :
    b = true ↔ ∃ text, Holds vars key text ∧ lower text ∈ trueWords := by
  constructor
  · rintro rfl
    exact h.resolve_left fun hNone => Bool.false_ne_true hNone.2.symm
  · rintro ⟨text, hText, hWord⟩
    have hReads : ReadsFlag text b := h.reads Holds.unique hText
    have hApart : ∀ word ∈ trueWords, word ∉ falseWords := by decide
    cases b with
    | true => rfl
    | false => exact absurd hReads (hApart _ hWord)

/-- Some chats are allowed exactly if the variable says anything. -/
theorem ne_nil_iff_of_readsChats {key : String} {chats : List String}
    (h : ReadsOr (Fills vars key) [] ReadsChats chats) : chats ≠ [] ↔ ∃ text, Fills vars key text := by
  constructor
  · intro hSome
    obtain ⟨text, hText, -⟩ := h.resolve_left fun hNone => hSome hNone.2
    exact ⟨text, hText⟩
  · rintro ⟨text, hText⟩
    have hReads : ReadsChats text chats := h.reads Fills.unique hText
    exact hReads.1.ne_nil

/-- Variables that describe settings are valid. -/
theorem DescribedBy.valid (h : DescribedBy vars s) : Valid vars where
  token := ⟨s.token, h.token⟩
  ackPolicy _ hText := exists_readsPolicy_iff.mp ⟨s.ackPolicy, h.ackPolicy.reads Holds.unique hText⟩
  positives := by
    simp only [List.forall_mem_cons, List.not_mem_nil, false_implies, implies_true, and_true]
    exact ⟨fun _ hText => ⟨_, h.pollInterval.reads Fills.unique hText, h.pollInterval_ne⟩,
      fun _ hText => ⟨_, h.httpTimeout.reads Fills.unique hText, h.httpTimeout_ne⟩⟩
  naturals := by
    simp only [List.forall_mem_cons, List.not_mem_nil, false_implies, implies_true, and_true]
    exact ⟨fun _ hText => ⟨_, h.pollTimeoutSeconds.reads Fills.unique hText⟩,
      fun _ hText => ⟨_, h.maxRetries.reads Fills.unique hText⟩⟩
  fetchLimit _ hText := ⟨s.fetchLimit, h.fetchLimit.reads Fills.unique hText, h.fetchLimit_range⟩
  backoff text items hText :=
    exists_readsDelays_iff.mp ⟨s.backoff, h.backoff.reads Fills.unique hText⟩ items
  allowedChats text items hText :=
    exists_readsChats_iff.mp ⟨s.allowedChatIds, h.allowedChatIds.reads Fills.unique hText⟩ items
  flags := by
    simp only [List.forall_mem_cons, List.not_mem_nil, false_implies, implies_true, and_true]
    exact ⟨fun _ hText => exists_readsFlag_iff.mp ⟨_, h.strictCursorIo.reads Holds.unique hText⟩,
      fun _ hText => exists_readsFlag_iff.mp ⟨_, h.liveMode.reads Holds.unique hText⟩,
      fun _ hText => exists_readsFlag_iff.mp ⟨_, h.once.reads Holds.unique hText⟩,
      fun _ hText => exists_readsFlag_iff.mp ⟨_, h.enableMemoryHook.reads Holds.unique hText⟩⟩
  live text hText hWord := (ne_nil_iff_of_readsChats h.allowedChatIds).mp
    (h.live ((eq_true_iff_of_readsFlag h.liveMode).mpr ⟨text, hText, hWord⟩))

/-- Where all the conditions are met, every setting is described, and with them the settings. -/
theorem Valid.exists_describedBy (h : Valid vars) : ∃ s, DescribedBy vars s := by
  have hLimited : ∀ {key : String} {max : Nat} {Q : Nat → Prop} (usual : Nat), Q usual →
      (∀ text, Fills vars key text → ∃ n, ReadsNumber max text n ∧ Q n) →
      ∃ n, ReadsOr (Fills vars key) usual (ReadsNumber max) n ∧ Q n := fun usual hUsual hReads =>
    ((exists_readsOr_iff usual Fills.unique).mpr hReads).imp fun _ => (readsOr_and_iff hUsual).mp
  have hFlag : ∀ key ∈ ["CHANNEL_STRICT_CURSOR_STATE_IO", "CHANNEL_LIVE_MODE", "CHANNEL_ONCE",
      "CHANNEL_ENABLE_MEMORY_HOOK"], ∃ b, ReadsOr (Holds vars key) false ReadsFlag b := fun key hKey =>
    (exists_readsOr_iff false Holds.unique).mpr fun text hText => exists_readsFlag_iff.mpr (h.flags key hKey text hText)
  obtain ⟨token, hToken⟩ := h.token
  obtain ⟨policy, hPolicy⟩ := (exists_readsOr_iff .standard Holds.unique).mpr fun text hText =>
    exists_readsPolicy_iff.mpr (h.ackPolicy text hText)
  obtain ⟨interval, hInterval, hIntervalSome⟩ := hLimited defaultPollInterval (by decide)
    (h.positives _ (by decide : "CHANNEL_POLL_INTERVAL_MS" ∈ _))
  obtain ⟨timeout, hTimeout, hTimeoutSome⟩ := hLimited defaultHttpTimeout (by decide)
    (h.positives _ (by decide : "CHANNEL_HTTP_TIMEOUT_MS" ∈ _))
  obtain ⟨pollTimeout, hPollTimeout⟩ := (exists_readsOr_iff 0 Fills.unique).mpr
    (h.naturals _ (by decide : "CHANNEL_POLL_TIMEOUT_S" ∈ _))
  obtain ⟨retries, hRetries⟩ := (exists_readsOr_iff defaultMaxRetries Fills.unique).mpr
    (h.naturals _ (by decide : "CHANNEL_MAX_RETRIES" ∈ _))
  obtain ⟨limit, hLimit, hRange⟩ := hLimited defaultFetchLimit (by decide) h.fetchLimit
  obtain ⟨backoff, hBackoff⟩ := (exists_readsOr_iff defaultBackoff Fills.unique).mpr fun text hText =>
    exists_readsDelays_iff.mpr fun items => h.backoff text items hText
  obtain ⟨chats, hChats⟩ := (exists_readsOr_iff [] Fills.unique).mpr fun text hText =>
    exists_readsChats_iff.mpr fun items => h.allowedChats text items hText
  obtain ⟨strict, hStrict⟩ := hFlag "CHANNEL_STRICT_CURSOR_STATE_IO" (by decide)
  obtain ⟨live, hLive⟩ := hFlag "CHANNEL_LIVE_MODE" (by decide)
  obtain ⟨once, hOnce⟩ := hFlag "CHANNEL_ONCE" (by decide)
  obtain ⟨memoryHook, hMemory⟩ := hFlag "CHANNEL_ENABLE_MEMORY_HOOK" (by decide)
  refine ⟨{
    token := token
    apiBase := (filled? vars "CHANNEL_API_BASE").getD defaultApiBase
    httpTimeout := timeout
    maxRetries := retries
    backoff := backoff
    pollInterval := interval
    pollTimeoutSeconds := pollTimeout
    fetchLimit := limit
    once := once
    ackPolicy := policy
    allowedChatIds := chats
    liveMode := live
    enableMemoryHook := memoryHook
    cursorPath := cursorPathOf vars
    strictCursorIo := strict }, {
    token := hToken
    apiBase := filled?_getD_eq_iff.mp rfl
    ackPolicy := hPolicy
    pollInterval := hInterval
    httpTimeout := hTimeout
    pollTimeoutSeconds := hPollTimeout
    maxRetries := hRetries
    fetchLimit := hLimit
    backoff := hBackoff
    allowedChatIds := hChats
    cursorPath := cursorPathOf_eq_iff.mp rfl
    strictCursorIo := hStrict
    liveMode := hLive
    once := hOnce
    enableMemoryHook := hMemory
    pollInterval_ne := hIntervalSome
    httpTimeout_ne := hTimeoutSome
    fetchLimit_range := hRange
    live := fun hOn => ?_ }⟩
  obtain ⟨text, hText, hWord⟩ := (eq_true_iff_of_readsFlag hLive).mp hOn
  exact (ne_nil_iff_of_readsChats hChats).mpr (h.live text hText hWord)

/-- Some settings are described exactly if the conditions are met. -/
theorem exists_describedBy_iff : (∃ s, DescribedBy vars s) ↔ Valid vars :=
  ⟨fun ⟨_, hDescribed⟩ => hDescribed.valid, Valid.exists_describedBy⟩

/-- The chats of a list come out trimmed. -/
theorem trimmed_of_allowedChats {chats : List String} (h : allowedChats vars = .ok chats) :
    ∀ chat ∈ chats, Text.Trimmed chat := by
  rcases allowedChats_eq_ok_iff.mp h with ⟨-, rfl⟩ | ⟨text, -, hItems, hNone⟩
  · simp
  · intro chat hChat
    rw [← Text.commaParts_eq_iff] at hItems
    refine Text.trimmed_of_commaParts (hItems ▸ hChat) (Bool.eq_false_iff.mpr fun hEmpty => hNone ?_)
    exact String.isEmpty_iff.mp hEmpty ▸ hChat

/-- Settings list the chats that the variables allow, and in live mode there are some. -/
theorem allowedChats_of_ofVariables (h : ofVariables vars = .ok s) :
    allowedChats vars = .ok s.allowedChatIds ∧ (s.liveMode = true → s.allowedChatIds ≠ []) := by
  have hDescribed := ofVariables_eq_ok_iff.mp h
  exact ⟨allowedChats_eq_ok_iff.mpr hDescribed.allowedChatIds, hDescribed.live⟩

theorem Fills.trimmed {key : String} (h : Fills vars key text) : Text.Trimmed text :=
  ⟨h.1.trim_eq, Bool.eq_false_iff.mpr (mt h.1.isBlank_iff.mp h.2)⟩

/-- Settings that are described by variables keep within the limits of the parts that use them. -/
theorem DescribedBy.usable (h : DescribedBy vars s) : Usable s where
  token := h.token.trimmed
  pollInterval := Nat.pos_of_ne_zero h.pollInterval_ne
  httpTimeout := Nat.pos_of_ne_zero h.httpTimeout_ne
  fetchLimit := h.fetchLimit_range
  allowedChats := trimmed_of_allowedChats (allowedChats_eq_ok_iff.mpr h.allowedChatIds)
  live := h.live
  cursorPath path hPath := by
    rcases h.cursorPath with ⟨-, hUsual⟩ | ⟨text, hText, ⟨-, hNone⟩ | ⟨hSome, hSame⟩⟩
    · obtain rfl := Option.some.inj (hUsual.symm.trans hPath)
      decide +kernel
    · cases hNone.symm.trans hPath
    · obtain rfl := Option.some.inj (hSame.symm.trans hPath)
      have hFills : Fills vars _ text := ⟨hText, hSome⟩
      exact hFills.trimmed.not_blank

end Reading

section Rejection

variable {α β : Type}

/-- A program that fails, if it does, because of the configuration. -/
def FailsByConfig (x : Except Error α) : Prop := ∀ e, x = .error e → ∃ reason, e = .config reason

@[simp]
theorem FailsByConfig.ok (a : α) : FailsByConfig (.ok a) := nofun

@[simp]
theorem FailsByConfig.config (reason : ConfigError) : FailsByConfig (.error (.config reason) : Except Error α) :=
  fun _ h => ⟨reason, (Except.error.inj h).symm⟩

/-- A chain of readers fails by configuration if each of them does. -/
theorem FailsByConfig.bind {x : Except Error α} {f : α → Except Error β} (h : FailsByConfig x)
    (hRest : ∀ a, FailsByConfig (f a)) : FailsByConfig (x >>= f) := by
  cases x with
  | ok a => exact hRest a
  | error e => exact fun e' hError => h e' (congrArg _ (Except.error.inj hError))

/-- So does a chain with a condition before it. -/
theorem FailsByConfig.guard {c : Prop} [Decidable c] {reason : ConfigError} {f : α → Except Error β}
    {x : Except Error β} (h : FailsByConfig x) :
    FailsByConfig (if c then (throw (.config reason) : Except Error α) >>= f else x) := by
  split
  · exact .config reason
  · exact h

variable (vars : Variables) (key : String)

theorem failsByConfig_natural (max usual : Nat) : FailsByConfig (natural vars max key usual) := by
  simp only [natural]
  split
  · simp
  · split <;> simp

theorem failsByConfig_positive (usual : Nat) : FailsByConfig (positive vars key usual) := by
  refine (failsByConfig_natural vars key _ usual).bind fun n => ?_
  split <;> simp

theorem failsByConfig_flag : FailsByConfig (flag vars key) := by
  simp only [flag]
  split
  · simp
  · split
    · simp
    · split <;> simp

theorem failsByConfig_backoffList : FailsByConfig (backoffList vars) := by
  simp only [backoffList]
  split
  · simp
  · split <;> simp

theorem failsByConfig_allowedChats : FailsByConfig (allowedChats vars) := by
  simp only [allowedChats]
  split
  · simp
  · split <;> simp

theorem failsByConfig_policy : FailsByConfig (policy vars) := by
  simp only [policy]
  split
  · simp
  · simp only [AckPolicy.ofText]
    split <;> simp

/-- The making of settings has no other way to fail. -/
theorem failsByConfig_ofVariables : FailsByConfig (ofVariables vars) :=
  .guard <|
  (failsByConfig_policy vars).bind fun _ =>
  (failsByConfig_positive vars _ _).bind fun _ =>
  (failsByConfig_positive vars _ _).bind fun _ =>
  (failsByConfig_natural vars _ _ _).bind fun _ =>
  (failsByConfig_natural vars _ _ _).bind fun _ =>
  (failsByConfig_natural vars _ _ _).bind fun _ =>
  .guard <|
  (failsByConfig_backoffList vars).bind fun _ =>
  (failsByConfig_allowedChats vars).bind fun _ =>
  (failsByConfig_flag vars _).bind fun _ =>
  (failsByConfig_flag vars _).bind fun _ =>
  (failsByConfig_flag vars _).bind fun _ =>
  (failsByConfig_flag vars _).bind fun _ =>
  .guard <|
  .ok _

end Rejection

/-- The variables that count hold the same. -/
def SameValues (vars vars' : Variables) : Prop :=
  ∀ key ∈ Variables.names, ∀ text, Holds vars key text ↔ Holds vars' key text

/-- Environments with the same values look the same to each reader. -/
theorem SameValues.trimmed?_eq {vars vars' : Variables} (h : SameValues vars vars') {key : String}
    (hKey : key ∈ Variables.names) : trimmed? vars key = trimmed? vars' key :=
  Option.ext fun text => trimmed?_eq_some_iff.trans ((h key hKey text).trans trimmed?_eq_some_iff.symm)

/-- So the settings depend on those values alone. -/
theorem SameValues.ofVariables_eq {vars vars' : Variables} (h : SameValues vars vars') :
    ofVariables vars = ofVariables vars' := by
  have hKeys : ∀ key ∈ Variables.names, trimmed? vars key = trimmed? vars' key := fun key hKey => h.trimmed?_eq hKey
  simp only [Variables.names, List.forall_mem_cons] at hKeys
  simp only [ofVariables, policy, positive, natural, flag, backoffList, allowedChats, cursorPathOf, filled?, hKeys]

/-- A variable with another name does not count. -/
theorem SameValues.cons {vars : Variables} {key value : String} (h : key ∉ Variables.names) :
    SameValues ((key, value) :: vars) vars := by
  intro other hOther text
  have hNot : key ≠ other := fun hSame => h (hSame ▸ hOther)
  simp [Holds, Variables.get?, beq_eq_false_iff_ne.mpr hNot]

/-- **Settings are made of exactly the valid variables.** Nothing counts but what the fifteen variables hold. Settings
are made if every condition on the variables is met, and then they are the ones that the variables describe. Otherwise
the error is one of the configuration, whatever is wrong. All settings that are made are usable. -/
theorem made_of_exactly_valid_variables :
    (∀ vars vars', SameValues vars vars' → ofVariables vars = ofVariables vars') ∧
    ∀ vars,
      ((∃ s, ofVariables vars = .ok s) ↔ Valid vars) ∧
      (∀ s, ofVariables vars = .ok s ↔ DescribedBy vars s) ∧
      (∀ e, ofVariables vars = .error e → ∃ reason, e = .config reason) ∧
      ∀ s, ofVariables vars = .ok s → Usable s := by
  refine ⟨fun _ _ => SameValues.ofVariables_eq, fun vars => ⟨?_, fun s => ofVariables_eq_ok_iff,
    failsByConfig_ofVariables vars, fun s hMade => (ofVariables_eq_ok_iff.mp hMade).usable⟩⟩
  simp only [ofVariables_eq_ok_iff]
  exact exists_describedBy_iff

/-- Live mode for two chats, with space and letters of both cases. -/
def liveForTwo : Variables := [
  ("CHANNEL_TOKEN", " t "),
  ("CHANNEL_LIVE_MODE", "Yes"),
  ("CHANNEL_ALLOWED_CHAT_IDS", "1, 2"),
  ("CHANNEL_BACKOFF_MS", " 0, 10,,+20"),
  ("CHANNEL_CURSOR_STATE_PATH", " ")]

/-- Settings in live mode are made of these variables, whatever else is in the environment, and not with a hole in the
list of chats. -/
theorem made_of_liveForTwo :
    Valid liveForTwo ∧ ¬ Valid (("CHANNEL_ALLOWED_CHAT_IDS", "1,,2") :: liveForTwo) ∧
    ∃ s, ofVariables (("PATH", "/bin") :: liveForTwo) = .ok s ∧ Usable s ∧
      (s.liveMode, s.allowedChatIds, s.backoff, s.cursorPath) = (true, ["1", "2"], [0, 10, 20], none) := by
  obtain ⟨hDepends, hAll⟩ := made_of_exactly_valid_variables
  have hEval : ((ofVariables liveForTwo).toOption.map fun s =>
      (s.liveMode, s.allowedChatIds, s.backoff, s.cursorPath)) = some (true, ["1", "2"], [0, 10, 20], none) := by
    decide +kernel
  obtain ⟨s, hOk, hShows⟩ := Option.map_eq_some_iff.mp hEval
  have hMade := eq_ok_of_toOption hOk
  obtain ⟨hExists, -, -, hUsable⟩ := hAll liveForTwo
  refine ⟨hExists.mp ⟨s, hMade⟩, fun hValid => ?_, s, ?_, hUsable s hMade, hShows⟩
  · obtain ⟨other, hOther⟩ := (hAll (("CHANNEL_ALLOWED_CHAT_IDS", "1,,2") :: liveForTwo)).1.mpr hValid
    have hNone : (ofVariables (("CHANNEL_ALLOWED_CHAT_IDS", "1,,2") :: liveForTwo)).toOption = none := by decide +kernel
    rw [hOther] at hNone
    cases hNone
  · rw [hDepends _ _ (SameValues.cons (by decide))]
    exact hMade

end Settings

end ChatRelay
