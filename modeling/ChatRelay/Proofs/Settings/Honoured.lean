import ChatRelay.Proofs.Client.Retry
import ChatRelay.Proofs.Settings.Validity
import ChatRelay.Relay
import Mathlib.Data.List.TakeWhile

/-!
What the parts of the relay make of its settings. The client and the feed check again what they are made from, and
they look at it in their own way: to the client an address of nothing but slashes is blank, and a schedule without an
entry stands for no waiting. These are the only two ways to lose something that the settings were accepted with.
-/

namespace ChatRelay

namespace Client

variable {s : String}

/-- Nothing is left of an address exactly if it is all slashes. -/
theorem isEmpty_dropSlashes_iff : (dropSlashes s).isEmpty = true ↔ ∀ c ∈ s.toList, c = '/' := by
  rw [String.isEmpty_iff, dropSlashes, String.ofList_eq_empty_iff, List.reverse_eq_nil_iff,
    List.dropWhile_eq_nil_iff]
  simp

end Client

/-- A feed with a limit that the provider takes is refused by its store only. -/
theorem Feed.start_ne_config {σ : Type} (config : FeedConfig)
    (hLimit : 1 ≤ config.limit ∧ config.limit ≤ maxFetchLimit)
    (store : Option (CursorStore (StateM σ))) (w : σ) (reason : ConfigError) :
    (Feed.start store config w).1 ≠ .error (.config reason) := by
  have hUsable : ¬ (config.limit = 0 || maxFetchLimit < config.limit) = true := by
    simp only [Bool.or_eq_true, decide_eq_true_eq]
    omega
  simp only [Feed.start, if_neg hUsable]
  cases store with
  | none => exact nofun
  | some store =>
      simp only [bind, StateT.bind]
      rcases store.load w with ⟨loaded, w'⟩
      cases loaded with
      | ok floor => exact nofun
      | error e =>
          simp only [storeOutcome]
          cases config.strict
          · exact nofun
          · exact nofun

namespace Settings

/-- The address is nothing but slashes, of which the client leaves nothing. -/
def OnlySlashes (vars : Variables) : Prop :=
  ∃ text, Fills vars "CHANNEL_API_BASE" text ∧ ∀ c ∈ text.toList, c = '/'

/-- The schedule is nothing but commas and space, so that it has no entry. -/
def OnlyCommas (vars : Variables) : Prop :=
  ∃ text, Fills vars "CHANNEL_BACKOFF_MS" text ∧ ∀ c ∈ text.toList, c = ',' ∨ Text.isSpace c = true

section Components

variable {vars : Variables} {s : Settings}

/-- The address in the settings is trimmed already. -/
theorem DescribedBy.trim_apiBase (h : DescribedBy vars s) : Text.trim s.apiBase = s.apiBase := by
  rcases h.apiBase with ⟨-, hUsual⟩ | ⟨text, hText, rfl⟩
  · rw [hUsual]
    decide +kernel
  · exact hText.trimmed.trim_eq

/-- The client is left without an address exactly if the variable holds nothing but slashes. -/
theorem DescribedBy.onlySlashes_iff (h : DescribedBy vars s) :
    (Client.dropSlashes s.apiBase).isEmpty = true ↔ OnlySlashes vars := by
  rw [Client.isEmpty_dropSlashes_iff]
  constructor
  · intro hAll
    rcases h.apiBase with ⟨-, hUsual⟩ | ⟨text, hText, rfl⟩
    · rw [hUsual] at hAll
      exact absurd (hAll 'h' (by decide +kernel)) (by decide)
    · exact ⟨s.apiBase, hText, hAll⟩
  · rintro ⟨text, hText, hAll⟩
    have hSame : text = s.apiBase := h.apiBase.reads Fills.unique hText
    exact hSame ▸ hAll

/-- The client is left without delays exactly if the variable holds nothing but commas. -/
theorem DescribedBy.onlyCommas_iff (h : DescribedBy vars s) : s.backoff = [] ↔ OnlyCommas vars := by
  have hNone : ∀ {text}, ReadsDelays text s.backoff →
      (s.backoff = [] ↔ ∀ c ∈ text.toList, c = ',' ∨ Text.isSpace c = true) := by
    rintro text ⟨items, hItems, hReads⟩
    rw [← hItems.all_blank_iff, ← List.length_eq_zero_iff, ← hReads.length_eq, List.length_eq_zero_iff]
    simp
  constructor
  · intro hEmpty
    rcases h.backoff with ⟨-, hUsual⟩ | ⟨text, hText, hReads⟩
    · cases hUsual.symm.trans hEmpty
    · exact ⟨text, hText, (hNone hReads).mp hEmpty⟩
  · rintro ⟨text, hText, hAll⟩
    exact (hNone (h.backoff.reads Fills.unique hText)).mpr hAll

/-- The client that is made from settings, where an address is left. -/
theorem DescribedBy.make_eq (h : DescribedBy vars s) : Client.make (ClientConfig.ofSettings s) =
    if (Client.dropSlashes s.apiBase).isEmpty then .error (.config .blankApiBase)
    else .ok {
      token := s.token
      apiBase := Client.dropSlashes s.apiBase
      timeout := s.httpTimeout
      maxRetries := s.maxRetries
      backoff := if s.backoff.isEmpty then [0] else s.backoff } := by
  have hToken : s.token.isEmpty = false := by
    rw [← Bool.not_eq_true, String.isEmpty_iff]
    exact h.token.2
  simp [Client.make, ClientConfig.ofSettings, h.trim_apiBase, h.token.trimmed.trim_eq, hToken, h.httpTimeout_ne]

/-- What is put together fails because of the configuration only where the client does. -/
theorem DescribedBy.ofSettings_eq_config_iff (h : DescribedBy vars s) {σ : Type} (disk : Disk (StateM σ))
    (transport : Http.Transport (StateM σ)) (w : σ) (reason : ConfigError) :
    (Assembly.ofSettings disk transport s w).1 = .error (.config reason) ↔
      reason = .blankApiBase ∧ OnlySlashes vars := by
  simp only [Assembly.ofSettings, h.make_eq, ← h.onlySlashes_iff]
  split
  · rename_i hEmpty
    simp only [hEmpty, and_true]
    exact ⟨fun hError => by cases hError; rfl, fun hReason => hReason ▸ rfl⟩
  · rename_i hSome
    refine iff_of_false (fun hError => ?_) fun hReason => hSome hReason.2
    have hStart := Feed.start_ne_config (FeedConfig.ofSettings s) h.fetchLimit_range
      (s.cursorPath.map fun text => (CursorFile.mk text).store disk) w reason
    simp only [bind, StateT.bind] at hError
    revert hError hStart
    rcases Feed.start (s.cursorPath.map fun text => (CursorFile.mk text).store disk) (FeedConfig.ofSettings s) w with
      ⟨opened, w'⟩
    cases opened with
    | ok feed => exact fun hError _ => nomatch hError
    | error e => exact fun hError hStart => hStart (by cases hError; rfl)

end Components

/-- **Accepted settings are honoured where something is left of them.** The client is made unless the address is nothing
but slashes. It keeps what the settings say, and its schedule is the one of the settings, which has an entry unless
it is nothing but commas and space. Then there is no waiting. For a feed the settings are always good enough, so
that no other fault of the configuration comes to light when the relay is put together. -/
theorem honoured_where_something_is_left {vars : Variables} {s : Settings} (hMade : ofVariables vars = .ok s) :
    (OnlySlashes vars → Client.make (ClientConfig.ofSettings s) = .error (.config .blankApiBase)) ∧
    (¬ OnlySlashes vars → ∃ client, Client.make (ClientConfig.ofSettings s) = .ok client ∧
      client.token = s.token ∧ client.apiBase = Client.dropSlashes s.apiBase ∧ client.timeout = s.httpTimeout ∧
      client.maxRetries = s.maxRetries ∧
      (¬ OnlyCommas vars → s.backoff ≠ [] ∧ client.backoff = s.backoff) ∧
      (OnlyCommas vars → s.backoff = [] ∧ client.backoff = [0])) ∧
    ∀ {σ : Type} (w : σ) (reason : ConfigError),
      (∀ store : Option (CursorStore (StateM σ)),
        (Feed.start store (FeedConfig.ofSettings s) w).1 ≠ .error (.config reason)) ∧
      ∀ (disk : Disk (StateM σ)) (transport : Http.Transport (StateM σ)),
        (Assembly.ofSettings disk transport s w).1 = .error (.config reason) ↔
          reason = .blankApiBase ∧ OnlySlashes vars := by
  have hDescribed := ofVariables_eq_ok_iff.mp hMade
  refine ⟨fun hSlashes => ?_, fun hAddress => ?_, fun w reason => ⟨fun store => ?_, fun disk transport => ?_⟩⟩
  · rw [hDescribed.make_eq, if_pos (hDescribed.onlySlashes_iff.mpr hSlashes)]
  · refine ⟨_, hDescribed.make_eq.trans (if_neg (mt hDescribed.onlySlashes_iff.mp hAddress)), rfl, rfl, rfl, rfl,
      fun hEntries => ?_, fun hCommas => ?_⟩
    · have hSome : s.backoff ≠ [] := mt hDescribed.onlyCommas_iff.mp hEntries
      exact ⟨hSome, if_neg (by simpa using hSome)⟩
    · have hNone : s.backoff = [] := hDescribed.onlyCommas_iff.mpr hCommas
      exact ⟨hNone, if_pos (by simpa using hNone)⟩
  · exact Feed.start_ne_config (FeedConfig.ofSettings s) hDescribed.fetchLimit_range store w reason
  · exact hDescribed.ofSettings_eq_config_iff disk transport w reason

/-- The slashes at the end of an address and the blank items of a schedule do not count. -/
theorem honoured_where_an_item_is_left :
    let vars : Variables := [
      ("CHANNEL_TOKEN", "t"), ("CHANNEL_API_BASE", "http://localhost// "), ("CHANNEL_BACKOFF_MS", ",5,,")]
    ∃ s client, ofVariables vars = .ok s ∧ Client.make (ClientConfig.ofSettings s) = .ok client ∧
      client.apiBase = "http://localhost" ∧ s.backoff = [5] ∧ client.backoff = s.backoff ∧
      ∀ reason, (Feed.start (m := StateM Unit) none (FeedConfig.ofSettings s) ()).1 ≠ .error (.config reason) := by
  intro vars
  have hEval : ((ofVariables vars).toOption.map fun s =>
      ((Client.make (ClientConfig.ofSettings s)).toOption.map Client.apiBase, s.backoff)) =
        some (some "http://localhost", [5]) := by
    decide +kernel
  obtain ⟨s, hOk, hBoth⟩ := Option.map_eq_some_iff.mp hEval
  obtain ⟨hClient, hBackoff⟩ := Prod.mk.inj hBoth
  have hMade := eq_ok_of_toOption hOk
  obtain ⟨hLost, hKept, hParts⟩ := honoured_where_something_is_left hMade
  have hAddress : ¬ OnlySlashes vars := fun hSlashes => by
    rw [hLost hSlashes] at hClient
    cases hClient
  obtain ⟨client, hMake, -, -, -, -, hEntries, hNone⟩ := hKept hAddress
  have hSchedule : ¬ OnlyCommas vars := fun hCommas => by
    rw [(hNone hCommas).1] at hBackoff
    cases hBackoff
  rw [hMake] at hClient
  exact ⟨s, client, hMade, hMake, Option.some.inj hClient, hBackoff, (hEntries hSchedule).2,
    fun reason => (hParts () reason).1 none⟩

/-- There are settings of whose address nothing is left for the client, and others of whose schedule nothing is. -/
theorem lost_by_the_client :
    (∃ s, ofVariables [("CHANNEL_TOKEN", "t"), ("CHANNEL_API_BASE", "/")] = .ok s ∧
      Client.make (ClientConfig.ofSettings s) = .error (.config .blankApiBase)) ∧
    ∃ s client, ofVariables [("CHANNEL_TOKEN", "t"), ("CHANNEL_BACKOFF_MS", ",")] = .ok s ∧
      Client.make (ClientConfig.ofSettings s) = .ok client ∧ s.backoff = [] ∧ client.backoff = [0] := by
  have hBase : ((ofVariables [("CHANNEL_TOKEN", "t"), ("CHANNEL_API_BASE", "/")]).toOption.map fun s =>
      Client.make (ClientConfig.ofSettings s)) = some (.error (.config .blankApiBase)) := by
    decide +kernel
  have hSchedule : ((ofVariables [("CHANNEL_TOKEN", "t"), ("CHANNEL_BACKOFF_MS", ",")]).toOption.bind fun s =>
      (Client.make (ClientConfig.ofSettings s)).toOption.map fun client => (s.backoff, client.backoff)) =
        some ([], [0]) := by
    decide +kernel
  obtain ⟨s, hOk, hMake⟩ := Option.map_eq_some_iff.mp hBase
  obtain ⟨s', hOk', hMap⟩ := Option.bind_eq_some_iff.mp hSchedule
  obtain ⟨client, hMake', hBoth⟩ := Option.map_eq_some_iff.mp hMap
  obtain ⟨hNone, hZero⟩ := Prod.mk.inj hBoth
  exact ⟨⟨s, eq_ok_of_toOption hOk, hMake⟩,
    s', client, eq_ok_of_toOption hOk', eq_ok_of_toOption hMake', hNone, hZero⟩

end Settings

end ChatRelay
