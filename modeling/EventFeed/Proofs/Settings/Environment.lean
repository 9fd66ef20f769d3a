import EventFeed.Proofs.Settings.RoundTrip

/-!
# What the environment does to settings that load without it

A variable that is set overrides its field if its text stands for a value, and is reported once and
has no other effect if it stands for none. That is all (`Overlaid`), but for the address: any text
stands for one, so an address that a client cannot dial gets past the overrides and fails the check.
The main result is `load_overridden`.
-/

namespace EventFeed.Settings

/-- The report of a variable whose text stands for no value. -/
def refusal (key value : String) : Telemetry.Entry :=
  .warning "casefeed_settings::loader" [("key", .text key), ("value", .text value)]
    "invalid env var, ignoring"

/-- The variable of the field is set and not empty, but its text stands for no value. -/
def Field.Refuses (f : Field) (env : Environment) (key value : String) : Prop :=
  ∃ stands, f.override = some (key, stands) ∧ env key = some value ∧ value ≠ "" ∧
    ∀ a, ¬ stands value a

namespace Field.Refuses

variable {f : Field} {env : Environment} {key value : String}

theorem override_ne_none (h : f.Refuses env key value) : f.override ≠ none := by
  obtain ⟨stands, hstands, -⟩ := h
  simp [hstands]

theorem not_fromEnv (h : f.Refuses env key value) (a : f.Value) : ¬ f.FromEnv env a := by
  obtain ⟨stands, hstands, hset, -, hnone⟩ := h
  rintro ⟨_, _, v, hstands', hset', -, ha⟩
  cases hstands.symm.trans hstands'
  cases hset.symm.trans hset'
  exact hnone a ha

end Field.Refuses

theorem refusal_injective {key key' value value' : String}
    (h : refusal key value = refusal key' value') : key = key' := by
  simpa [refusal, Telemetry.Entry.warning, Telemetry.Entry.of] using congrArg (·.fields.head?) h

namespace Override

/-- What is reported about the variable, whatever settings it is to override. -/
def report? (o : Override) (env : Environment) : Option Telemetry.Entry :=
  ((env o.name).filter (· ≠ "")).bind fun value ↦
    if (o.apply value default).isNone then some (refusal o.name value) else none

variable {o : Override} {f : Field} {read : String → Option f.Value}
  {put : f.Value → Settings → Settings} {env : Environment} {entry : Telemetry.Entry}

theorem exists_of_report? (h : o.report? env = some entry) :
    ∃ value, entry = refusal o.name value := by
  obtain ⟨value, -, hvalue⟩ := Option.bind_eq_some_iff.1 h
  exact ⟨value, (Option.some.inj (Option.ite_none_right_eq_some.1 hvalue).2).symm⟩

theorem nodup_reports (env : Environment) : (all.filterMap (·.report? env)).Nodup := by
  have hnames : (all.map (·.name)).Nodup := by decide
  refine List.pairwise_filterMap.2 ((List.pairwise_map.1 hnames).imp fun hne entry h entry' h' ↦ ?_)
  obtain ⟨value, rfl⟩ := exists_of_report? h
  obtain ⟨value', rfl⟩ := exists_of_report? h'
  exact fun heq ↦ hne (refusal_injective heq)

theorem Puts.snd_run (h : o.Puts f read put) (env : Environment) (s : Settings) :
    (o.run env s).2 = (o.report? env).toList := by
  rw [run, report?]
  cases (env o.name).filter (· ≠ "") with
  | none => rfl
  | some v =>
      rw [Option.bind_some]
      dsimp only
      rw [h.apply, h.apply]
      cases read v <;> rfl

theorem Puts.report?_eq_some_iff (h : o.Puts f read put) : o.report? env = some entry ↔
    ∃ value, f.Refuses env o.name value ∧ entry = refusal o.name value := by
  obtain ⟨stands, hstands, hread⟩ := h.stands
  have hnone : ∀ v, o.apply v default = none ↔ ∀ a, ¬ stands v a := by
    intro v
    rw [h.apply, Option.map_eq_none_iff, Option.eq_none_iff_forall_ne_some]
    exact forall_congr' fun a ↦ not_congr (hread v a)
  simp only [report?, Option.bind_eq_some_iff, Option.filter_eq_some_iff, decide_eq_true_eq,
    Option.ite_none_right_eq_some, Option.isNone_iff_eq_none, hnone, Option.some.injEq]
  constructor
  · rintro ⟨value, ⟨hset, hfull⟩, hrefused, rfl⟩
    exact ⟨value, ⟨stands, hstands, hset, hfull, hrefused⟩, rfl⟩
  · rintro ⟨value, ⟨stands', hstands', hset, hfull, hrefused⟩, rfl⟩
    cases hstands.symm.trans hstands'
    exact ⟨value, ⟨hset, hfull⟩, hrefused, rfl⟩

theorem Puts.name_eq (h : o.Puts f read put) {key value : String}
    (hrefuses : f.Refuses env key value) : o.name = key := by
  obtain ⟨stands, hstands, -⟩ := h.stands
  obtain ⟨_, hstands', -⟩ := hrefuses
  cases hstands.symm.trans hstands'
  rfl

/-- Each variable overrides a field. -/
theorem exists_puts : ∀ o ∈ all, ∃ f ∈ Field.all, ∃ read put, o.Puts f read put := by
  simp only [all, List.forall_mem_cons, List.not_mem_nil, false_implies, implies_true, and_true]
  exact ⟨⟨.url, by simp [Field.all], _, _, puts_url⟩,
    ⟨.maxReconnectAttempts, by simp [Field.all], _, _, puts_maxReconnectAttempts⟩,
    ⟨.reconnectBaseDelayMs, by simp [Field.all], _, _, puts_reconnectBaseDelayMs⟩,
    ⟨.keepaliveIntervalMs, by simp [Field.all], _, _, puts_keepaliveIntervalMs⟩,
    ⟨.level, by simp [Field.all], _, _, puts_logLevel⟩,
    ⟨.json, by simp [Field.all], _, _, puts_logJson⟩⟩

/-- A field that a variable overrides has one of these. -/
theorem exists_puts_of_override : ∀ f ∈ Field.all, f.override ≠ none →
    ∃ o ∈ all, ∃ read put, o.Puts f read put :=
  Field.forall_mem_all.2 ⟨⟨fun _ ↦ ⟨url, by simp [all], _, _, puts_url⟩,
    fun _ ↦ ⟨maxReconnectAttempts, by simp [all], _, _, puts_maxReconnectAttempts⟩,
    fun _ ↦ ⟨reconnectBaseDelayMs, by simp [all], _, _, puts_reconnectBaseDelayMs⟩,
    fun _ ↦ ⟨keepaliveIntervalMs, by simp [all], _, _, puts_keepaliveIntervalMs⟩,
    fun h ↦ absurd rfl h, fun h ↦ absurd rfl h⟩, ⟨fun h ↦ absurd rfl h, fun h ↦ absurd rfl h⟩,
    fun _ ↦ ⟨logLevel, by simp [all], _, _, puts_logLevel⟩,
    fun _ ↦ ⟨logJson, by simp [all], _, _, puts_logJson⟩, fun h ↦ absurd rfl h⟩

end Override

/-- What is reported is what the variables report, in their order. -/
theorem snd_overridden (env : Environment) (s : Settings) :
    (overridden env s).2 = Override.all.filterMap (·.report? env) := by
  simp only [overridden, Override.all, List.foldl_cons, List.foldl_nil, Override.puts_url.snd_run,
    Override.puts_maxReconnectAttempts.snd_run, Override.puts_reconnectBaseDelayMs.snd_run,
    Override.puts_keepaliveIntervalMs.snd_run, Override.puts_logLevel.snd_run,
    Override.puts_logJson.snd_run, List.filterMap_eq_flatMap_toList]
  simp

section Loading

variable {s : Settings}

theorem fromEnv_url_iff {env : Environment} {url : String} :
    Field.url.FromEnv env url ↔ env "CASEFEED_URL" = some url ∧ url ≠ "" := by
  constructor
  · rintro ⟨_, _, v, ⟨⟩, hset, hfull, rfl⟩
    exact ⟨hset, hfull⟩
  · rintro ⟨hset, hfull⟩
    exact ⟨_, _, url, rfl, hset, hfull, rfl⟩

/-- A field without a variable stays as it is. -/
theorem get_overridden_of_fixed {f : Field} (hf : f ∈ Field.all) (h : f.override = none)
    (env : Environment) (s : Settings) : f.get (overridden env s).1 = f.get s :=
  (becomes_iff_of_overridden env s f hf _).1 (.kept (Field.not_fromEnv_of_fixed h))

theorem eq_of_load_unset {env : Environment} (henv : ∀ o ∈ Override.all, env o.name = none)
    {path : String} {source : File} {reports : List Telemetry.Entry}
    (h : load path source env = .ok (s, reports)) :
    ofFile path source = .ok s ∧ check s = .ok () := by
  cases hfile : ofFile path source with
  | error e =>
      rw [load_of_error hfile] at h
      cases h
  | ok found =>
      rw [load_of_ok hfile, overridden_of_unset henv, map_eq_ok_iff] at h
      obtain ⟨hcheck, ⟨⟩⟩ := h
      exact ⟨rfl, hcheck⟩

/-- What an environment makes of settings. -/
structure Overlaid (env : Environment) (s s' : Settings) (reports : List Telemetry.Entry) :
    Prop where
  /-- A variable whose text stands for a value overrides its field, and that is all that changes. -/
  values : ∀ f ∈ Field.all, f.Becomes env (f.get s) (f.get s')
  /-- One whose text stands for none is reported once, and leaves its field alone. -/
  refused : ∀ f ∈ Field.all, ∀ key value, f.Refuses env key value →
    f.get s' = f.get s ∧ reports.count (refusal key value) = 1
  reported : ∀ entry ∈ reports, ∃ f ∈ Field.all, ∃ key value,
    f.Refuses env key value ∧ entry = refusal key value

theorem overlaid_overridden (env : Environment) (s : Settings) :
    Overlaid env s (overridden env s).1 (overridden env s).2 where
  values f hf := (becomes_iff_of_overridden env s f hf _).2 rfl
  refused f hf key value hrefuses := by
    obtain ⟨o, ho, read, put, hputs⟩ :=
      Override.exists_puts_of_override f hf hrefuses.override_ne_none
    obtain rfl := hputs.name_eq hrefuses
    have hmem : refusal o.name value ∈ Override.all.filterMap (·.report? env) :=
      List.mem_filterMap.2 ⟨o, ho, hputs.report?_eq_some_iff.2 ⟨value, hrefuses, rfl⟩⟩
    rw [snd_overridden]
    exact ⟨(becomes_iff_of_overridden env s f hf _).1 (.kept hrefuses.not_fromEnv),
      List.count_eq_one_of_mem (Override.nodup_reports env) hmem⟩
  reported entry hentry := by
    rw [snd_overridden] at hentry
    obtain ⟨o, ho, hreport⟩ := List.mem_filterMap.1 hentry
    obtain ⟨f, hf, read, put, hputs⟩ := Override.exists_puts o ho
    obtain ⟨value, hrefuses, rfl⟩ := hputs.report?_eq_some_iff.1 hreport
    exact ⟨f, hf, o.name, value, hrefuses, rfl⟩

/-- Settings that load when no variable is set load in every environment that gives them no
address or one that can be dialled; each other variable that cannot be read is reported once and
ignored. An address that cannot be dialled is not ignored but makes loading fail. -/
theorem load_overridden {unset : Environment} (hunset : ∀ o ∈ Override.all, unset o.name = none)
    {path : String} {source : File} {s : Settings} {reports : List Telemetry.Entry}
    (hload : load path source unset = .ok (s, reports)) (env : Environment) :
    (∀ url, env "CASEFEED_URL" = some url → url ≠ "" → ¬ Dialable url →
      load path source env =
        .error (.invalid "client.url" ("must start with ws:// or wss://, got " ++ url))) ∧
    ((∀ url, env "CASEFEED_URL" = some url → url ≠ "" → Dialable url) →
      ∃ s' reports', load path source env = .ok (s', reports') ∧ Overlaid env s s' reports') := by
  obtain ⟨hfile, hcheck⟩ := eq_of_load_unset hunset hload
  obtain ⟨hdialable, hcapacity, hbuffer⟩ := check_eq_ok_iff.1 hcheck
  have hurl : ∀ url, Field.url.Becomes env s.client.url url ↔
      (overridden env s).1.client.url = url :=
    becomes_iff_of_overridden env s .url (by simp [Field.all])
  rw [load_of_ok hfile]
  constructor
  · intro url hset hfull hnot
    have hgiven := (hurl url).1 (.given (fromEnv_url_iff.2 ⟨hset, hfull⟩))
    have hunfit : Unfit (overridden env s).1 "client.url" _ := .url (hgiven ▸ hnot)
    rw [hunfit.check_eq, hgiven]
    rfl
  · intro hgood
    have hcapacity' : (overridden env s).1.notifications.capacity = s.notifications.capacity :=
      get_overridden_of_fixed (f := .capacity) (by simp [Field.all]) rfl env s
    have hbuffer' : (overridden env s).1.client.eventBufferSize = s.client.eventBufferSize :=
      get_overridden_of_fixed (f := .eventBufferSize) (by simp [Field.all]) rfl env s
    have hdialable' : ∀ url, Field.url.Becomes env s.client.url url → Dialable url := by
      rintro url (henv | henv)
      · obtain ⟨hset, hfull⟩ := fromEnv_url_iff.1 henv
        exact hgood url hset hfull
      · exact hdialable
    have hchecked : check (overridden env s).1 = .ok () := by
      rw [check_eq_ok_iff, hcapacity', hbuffer']
      exact ⟨hdialable' _ ((hurl _).2 rfl), hcapacity, hbuffer⟩
    exact ⟨_, _, map_eq_ok_iff.2 ⟨hchecked, rfl⟩, overlaid_overridden env s⟩

/-- An address that can be dialled, and a flag that is none. -/
def undecidedEnvironment : Environment := fun key ↦
  if key = "CASEFEED_URL" then some "wss://feed"
  else if key = "CASEFEED_LOG_JSON" then some "maybe" else none

theorem load_undecided : ∃ s reports,
    load "settings.json" .missing undecidedEnvironment = .ok (s, reports) ∧
      s.client.url = "wss://feed" ∧ s.logging.json = false ∧
      reports.count (refusal "CASEFEED_LOG_JSON" "maybe") = 1 := by
  have hload : load "settings.json" .missing (fun _ ↦ none) = .ok (default, []) := rfl
  have hdialable : ∀ url, undecidedEnvironment "CASEFEED_URL" = some url → url ≠ "" →
      Dialable url := by
    rintro url ⟨⟩ -
    exact .inr (by decide)
  obtain ⟨s, reports, hloaded, hoverlaid⟩ :=
    (load_overridden (fun _ _ ↦ rfl) hload undecidedEnvironment).2 hdialable
  have hurl : Field.url.FromEnv undecidedEnvironment "wss://feed" :=
    ⟨_, _, "wss://feed", rfl, rfl, by decide, rfl⟩
  have hjson : Field.json.Refuses undecidedEnvironment "CASEFEED_LOG_JSON" "maybe" :=
    ⟨_, rfl, rfl, by decide, Bool.forall_bool.2 ⟨by decide, by decide⟩⟩
  have hrefused := hoverlaid.refused .json (by simp [Field.all]) _ _ hjson
  have hbecomes := becomes_iff_of_overridden undecidedEnvironment default .url (by simp [Field.all])
  have hfound : s.client.url = "wss://feed" :=
    ((hbecomes _).1 (hoverlaid.values .url (by simp [Field.all]))).symm.trans
      ((hbecomes _).1 (.given hurl))
  exact ⟨s, reports, hloaded, hfound, hrefused⟩

/-- The address of an environment that is no address of a feed. -/
def misdirected : Environment := fun key ↦
  if key = "CASEFEED_URL" then some "http://x" else none

theorem misdirected_does_not_load :
    load "settings.json" .missing (fun _ ↦ none) = .ok (default, []) ∧
      load "settings.json" .missing misdirected =
        .error (.invalid "client.url" "must start with ws:// or wss://, got http://x") :=
  ⟨rfl, rfl⟩

end Loading

end EventFeed.Settings
