import EventFeed.Proofs.Json.Merging
import EventFeed.Proofs.Text.Numerals
import EventFeed.Settings.Overrides

/-!
# The fields of the settings

`Field.all` are the fields: where each stands in a file, how its values are written there, which
variable overrides it, and what the texts of the variable stand for. `Field.Holds` says which value
a field has by the environment, a file and the defaults, and `becomes_iff_of_overridden` what the
environment does to each.
-/

namespace EventFeed.Settings

/-- The words for a flag. -/
def flagWords : Bool → List String
  | true => ["true", "1", "yes", "on"]
  | false => ["false", "0", "no", "off"]

/-- A field of the settings. A variable that overrides it comes with what its texts stand for. -/
structure Field where
  Value : Type
  part : String
  name : String
  write : Value → Json
  override : Option (String × (String → Value → Prop))
  get : Settings → Value

namespace Field

/-- A text, which any value of its variable overrides. -/
def text (part name : String) (get : Settings → String) (key : String) : Field where
  Value := String
  part := part
  name := name
  write := .str
  override := some (key, (· = ·))
  get := get

/-- A number, and between which bounds its variable overrides it if it has one. -/
def word (part name : String) (get : Settings → UInt64) (key : Option (String × Nat × Nat)) :
    Field where
  Value := UInt64
  part := part
  name := name
  write n := .nat n.toNat
  override := key.map fun (key, least, greatest) ↦
    (key, fun v n ↦ Text.Numeral v n.toNat ∧ least ≤ n.toNat ∧ n.toNat ≤ greatest)
  get := get

def url : Field := text "client" "url" (·.client.url) "CASEFEED_URL"

def maxReconnectAttempts : Field where
  Value := UInt32
  part := "client"
  name := "maxReconnectAttempts"
  write n := .nat n.toNat
  override := some ("CASEFEED_MAX_RECONNECT_ATTEMPTS",
    fun v n ↦ Text.Numeral v n.toNat ∧ 0 ≤ n.toNat ∧ n.toNat ≤ 100)
  get s := s.client.maxReconnectAttempts

def reconnectBaseDelayMs : Field :=
  word "client" "reconnectBaseDelayMs" (·.client.reconnectBaseDelayMs)
    (some ("CASEFEED_RECONNECT_BASE_DELAY_MS", 1, 600000))

def keepaliveIntervalMs : Field :=
  word "client" "keepaliveIntervalMs" (·.client.keepaliveIntervalMs)
    (some ("CASEFEED_KEEPALIVE_INTERVAL_MS", 1000, 600000))

def connectTimeoutMs : Field := word "client" "connectTimeoutMs" (·.client.connectTimeoutMs) none

def eventBufferSize : Field := word "client" "eventBufferSize" (·.client.eventBufferSize) none

def capacity : Field := word "notifications" "capacity" (·.notifications.capacity) none

def defaultTopics : Field where
  Value := List String
  part := "notifications"
  name := "defaultTopics"
  write topics := .arr (topics.map .str)
  override := none
  get s := s.notifications.defaultTopics

def level : Field := text "logging" "level" (·.logging.level) "CASEFEED_LOG_LEVEL"

/-- A flag, which the words for it override in letters of either case. -/
def json : Field where
  Value := Bool
  part := "logging"
  name := "json"
  write := .bool
  override := some ("CASEFEED_LOG_JSON",
    fun v b ↦ ∃ word ∈ flagWords b, Text.asciiLower v.toList = word.toList)
  get s := s.logging.json

def captureRecent : Field := word "logging" "captureRecent" (·.logging.captureRecent) none

def all : List Field :=
  [url, maxReconnectAttempts, reconnectBaseDelayMs, keepaliveIntervalMs, connectTimeoutMs,
    eventBufferSize, capacity, defaultTopics, level, json, captureRecent]

def default (f : Field) : f.Value := f.get Settings.default

/-- What a file gives for the field. A `null` gives nothing. -/
def given (f : Field) (file : Json) : Option Json := Json.present (file.at? [f.part, f.name])

/-- The variable of the field is set and not empty, and its text stands for a value. -/
def FromEnv (f : Field) (env : Environment) (a : f.Value) : Prop :=
  ∃ key stands v, f.override = some (key, stands) ∧ env key = some v ∧ v ≠ "" ∧ stands v a

/-- What a file gives for the field is no value of the field. -/
def Misfit (f : Field) (file : Json) : Prop :=
  ∃ v, f.given file = some v ∧ ∀ a, v ≠ f.write a

/-- The value of a field by the environment, then the file, then the defaults. -/
inductive Holds (f : Field) (env : Environment) (file : Json) : f.Value → Prop
  | fromEnv (henv : f.FromEnv env a) : Holds f env file a
  | fromFile (henv : ∀ b, ¬ f.FromEnv env b) (hfile : f.given file = some (f.write a)) :
      Holds f env file a
  | fromDefault (henv : ∀ b, ¬ f.FromEnv env b) (hfile : f.given file = none) :
      Holds f env file f.default

/-- What the environment makes of a value of the field. -/
inductive Becomes (f : Field) (env : Environment) (before : f.Value) : f.Value → Prop
  | given (henv : f.FromEnv env a) : Becomes f env before a
  | kept (henv : ∀ a, ¬ f.FromEnv env a) : Becomes f env before before

end Field

namespace Field

theorem forall_mem_all {P : Field → Prop} : (∀ f ∈ all, P f) ↔
    (P url ∧ P maxReconnectAttempts ∧ P reconnectBaseDelayMs ∧ P keepaliveIntervalMs ∧
      P connectTimeoutMs ∧ P eventBufferSize) ∧ (P capacity ∧ P defaultTopics) ∧
      P level ∧ P json ∧ P captureRecent := by
  simp [all, and_assoc]

theorem write_injective : ∀ f ∈ all, Function.Injective f.write := by
  have hstr : Function.Injective Json.str := fun _ _ h ↦ Json.str.inj h
  have hnat : Function.Injective Json.nat := by
    intro n m h
    exact Int.ofNat.inj (Number.int.inj (Json.num.inj h))
  have hword : Function.Injective fun n : UInt64 ↦ Json.nat n.toNat :=
    hnat.comp fun _ _ ↦ UInt64.toNat_inj.1
  refine forall_mem_all.2 ⟨⟨hstr, hnat.comp fun _ _ ↦ UInt32.toNat_inj.1, hword, hword, hword,
    hword⟩, ⟨hword, fun topics topics' h ↦ ?_⟩, hstr, fun _ _ h ↦ Json.bool.inj h, hword⟩
  exact List.map_injective_iff.2 hstr (Json.arr.inj h)

theorem write_ne_obj : ∀ f ∈ all, ∀ a ms, f.write a ≠ .obj ms :=
  forall_mem_all.2 ⟨⟨nofun, nofun, nofun, nofun, nofun, nofun⟩, ⟨nofun, nofun⟩, nofun, nofun, nofun⟩

theorem get_ext {s s' : Settings} (h : ∀ f ∈ all, f.get s = f.get s') : s = s' := by
  obtain ⟨⟨hurl, hattempts, hdelay, halive, htimeout, hbuffer⟩, ⟨hcapacity, htopics⟩, hlevel, hjson,
    hcapture⟩ := forall_mem_all.1 h
  obtain ⟨⟨⟩, ⟨⟩, ⟨⟩⟩ := s
  obtain ⟨⟨⟩, ⟨⟩, ⟨⟩⟩ := s'
  cases hurl; cases hattempts; cases hdelay; cases halive; cases htimeout; cases hbuffer
  cases hcapacity; cases htopics; cases hlevel; cases hjson; cases hcapture
  rfl

theorem exists_get {P : (f : Field) → f.Value → Prop} (h : ∀ f ∈ all, ∃ a, P f a) :
    ∃ s, ∀ f ∈ all, P f (f.get s) := by
  obtain ⟨⟨⟨u, hurl⟩, ⟨n, hattempts⟩, ⟨d, hdelay⟩, ⟨k, halive⟩, ⟨t, htimeout⟩, b, hbuffer⟩,
    ⟨⟨c, hcapacity⟩, ts, htopics⟩, ⟨l, hlevel⟩, ⟨j, hjson⟩, r, hcapture⟩ := forall_mem_all.1 h
  exact ⟨⟨⟨u, n, d, k, t, b⟩, ⟨c, ts⟩, ⟨l, j, r⟩⟩, forall_mem_all.2 ⟨⟨hurl, hattempts, hdelay,
    halive, htimeout, hbuffer⟩, ⟨hcapacity, htopics⟩, hlevel, hjson, hcapture⟩⟩

/-- What the field is read from: what a file gives for it, or its default. -/
def written (f : Field) (file : Json) : Json := (f.given file).getD (f.write f.default)

theorem not_exists_misfit {file : Json} :
    (¬ ∃ f ∈ all, f.Misfit file) ↔ ∀ f ∈ all, ∃ a, f.written file = f.write a := by
  constructor
  · intro h f hf
    cases hgiven : f.given file with
    | none => exact ⟨f.default, by rw [written, hgiven, Option.getD_none]⟩
    | some v =>
        by_contra! hnone
        refine h ⟨f, hf, v, hgiven, fun a ↦ ?_⟩
        rw [written, hgiven, Option.getD_some] at hnone
        exact hnone a
  · rintro h ⟨f, hf, v, hgiven, hv⟩
    obtain ⟨a, ha⟩ := h f hf
    rw [written, hgiven, Option.getD_some] at ha
    exact hv a ha

theorem holds_iff {f : Field} (hf : f ∈ all) {env : Environment} {file : Json} {a b : f.Value}
    (hb : f.written file = f.write b) : f.Holds env file a ↔ f.Becomes env b a := by
  have hinj := write_injective f hf
  constructor
  · rintro (henv | ⟨henv, hfile⟩ | ⟨henv, hfile⟩)
    · exact .given henv
    · rw [written, hfile, Option.getD_some] at hb
      exact hinj hb ▸ .kept henv
    · rw [written, hfile, Option.getD_none] at hb
      exact hinj hb ▸ .kept henv
  · rintro (henv | henv)
    · exact .fromEnv henv
    · cases hfile : f.given file with
      | some v =>
          rw [written, hfile, Option.getD_some] at hb
          exact .fromFile henv (hb ▸ hfile)
      | none =>
          rw [written, hfile, Option.getD_none] at hb
          exact hinj hb ▸ .fromDefault henv hfile

end Field

/-! ## What is read from a variable -/

section Reading

variable {v : String}

theorem flag?_eq_some_iff {b : Bool} :
    flag? v = some b ↔ ∃ word ∈ flagWords b, Text.asciiLower v.toList = word.toList := by
  have hflag : flag? v =
      if String.ofList (Text.asciiLower v.toList) ∈ flagWords true then some true
      else if String.ofList (Text.asciiLower v.toList) ∈ flagWords false then some false
      else none := rfl
  have hword : ∀ word, Text.asciiLower v.toList = word.toList ↔
      String.ofList (Text.asciiLower v.toList) = word := by
    intro word
    rw [← String.toList_inj, String.toList_ofList]
  -- No word stands for both.
  have hone : ∀ word ∈ flagWords false, word ∉ flagWords true := by decide
  simp only [hword, exists_eq_right']
  rw [hflag]
  by_cases htrue : String.ofList (Text.asciiLower v.toList) ∈ flagWords true
  · have hfalse := mt (hone _) (not_not.2 htrue)
    cases b <;> simp [htrue, hfalse]
  · cases b <;> simp [htrue]

/-- Where the bounds fit 64 bits, nothing but them limits a number. -/
theorem wordIn?_eq_some_iff {least greatest n : Nat} (hfits : greatest < 2 ^ 64) :
    wordIn? least greatest v = some n ↔ Text.Numeral v n ∧ least ≤ n ∧ n ≤ greatest := by
  rw [wordIn?, Option.filter_eq_some_iff, Text.word?_eq_some_iff, Bool.and_eq_true,
    decide_eq_true_iff, decide_eq_true_iff]
  constructor
  · rintro ⟨⟨hnumeral, -⟩, hbounds⟩
    exact ⟨hnumeral, hbounds⟩
  · rintro ⟨hnumeral, hbounds⟩
    exact ⟨⟨hnumeral, hbounds.2.trans_lt hfits⟩, hbounds⟩

end Reading

namespace Override

/-- What is read from the variable if that is set and not empty. -/
def found {α : Type} (o : Override) (env : Environment) (read : String → Option α) : Option α :=
  ((env o.name).filter (· ≠ "")).bind read

/-- The variable puts what is read from it in place of the field, and nothing else. What is read is
what the text stands for. -/
structure Puts (o : Override) (f : Field) (read : String → Option f.Value)
    (put : f.Value → Settings → Settings) : Prop where
  stands : ∃ stands, f.override = some (o.name, stands) ∧ ∀ v a, read v = some a ↔ stands v a
  apply : ∀ v s, o.apply v s = (read v).map (put · s)
  put_get : ∀ s, put (f.get s) s = s

/-- A number of a variable is one of the right type in the field. -/
theorem Puts.of_number {o : Override} {f : Field} {put : f.Value → Settings → Settings}
    {convert : Nat → f.Value} {toNat : f.Value → Nat} {least greatest : Nat}
    (hstands : f.override = some (o.name,
      fun v a ↦ Text.Numeral v (toNat a) ∧ least ≤ toNat a ∧ toNat a ≤ greatest))
    (happly : ∀ v s, o.apply v s = (wordIn? least greatest v).map fun n ↦ put (convert n) s)
    (hput : ∀ s, put (f.get s) s = s) (hfits : greatest < 2 ^ 64)
    (hconvert : ∀ a, convert (toNat a) = a) (htoNat : ∀ n ≤ greatest, toNat (convert n) = n) :
    o.Puts f (fun v ↦ (wordIn? least greatest v).map convert) put where
  stands := by
    refine ⟨_, hstands, fun v a ↦ ?_⟩
    rw [Option.map_eq_some_iff]
    constructor
    · rintro ⟨n, hn, rfl⟩
      have h := (wordIn?_eq_some_iff hfits).1 hn
      rwa [htoNat n h.2.2]
    · intro h
      exact ⟨toNat a, (wordIn?_eq_some_iff hfits).2 h, hconvert a⟩
  apply v s := by
    rw [happly, Option.map_map]
    rfl
  put_get := hput

theorem puts_url : url.Puts .url some fun a ↦ onClient fun c ↦ { c with url := a } where
  stands := ⟨_, rfl, fun _ _ ↦ Option.some_inj⟩
  apply _ _ := rfl
  put_get _ := rfl

theorem puts_maxReconnectAttempts :
    maxReconnectAttempts.Puts .maxReconnectAttempts
      (fun v ↦ (wordIn? 0 100 v).map UInt32.ofNat)
      fun n : UInt32 ↦ onClient fun c ↦ { c with maxReconnectAttempts := n } :=
  .of_number rfl (fun _ _ ↦ rfl) (fun _ ↦ rfl) (by decide) (fun _ ↦ UInt32.ofNat_toNat)
    fun _ hn ↦ UInt32.toNat_ofNat_of_lt' (hn.trans_lt (by decide))

theorem puts_reconnectBaseDelayMs :
    reconnectBaseDelayMs.Puts .reconnectBaseDelayMs
      (fun v ↦ (wordIn? 1 600000 v).map UInt64.ofNat)
      fun n : UInt64 ↦ onClient fun c ↦ { c with reconnectBaseDelayMs := n } :=
  .of_number rfl (fun _ _ ↦ rfl) (fun _ ↦ rfl) (by decide) (fun _ ↦ UInt64.ofNat_toNat)
    fun _ hn ↦ UInt64.toNat_ofNat_of_lt' (hn.trans_lt (by decide))

theorem puts_keepaliveIntervalMs :
    keepaliveIntervalMs.Puts .keepaliveIntervalMs
      (fun v ↦ (wordIn? 1000 600000 v).map UInt64.ofNat)
      fun n : UInt64 ↦ onClient fun c ↦ { c with keepaliveIntervalMs := n } :=
  .of_number rfl (fun _ _ ↦ rfl) (fun _ ↦ rfl) (by decide) (fun _ ↦ UInt64.ofNat_toNat)
    fun _ hn ↦ UInt64.toNat_ofNat_of_lt' (hn.trans_lt (by decide))

theorem puts_logLevel :
    logLevel.Puts .level some fun a ↦ onLogging fun l ↦ { l with level := a } where
  stands := ⟨_, rfl, fun _ _ ↦ Option.some_inj⟩
  apply _ _ := rfl
  put_get _ := rfl

theorem puts_logJson :
    logJson.Puts .json flag? fun a ↦ onLogging fun l ↦ { l with json := a } where
  stands := ⟨_, rfl, fun _ _ ↦ flag?_eq_some_iff⟩
  apply _ _ := rfl
  put_get _ := rfl

namespace Puts

variable {o : Override} {f : Field} {read : String → Option f.Value}
  {put : f.Value → Settings → Settings} {env : Environment} {a before : f.Value}

theorem fst_run (h : o.Puts f read put) (env : Environment) (s : Settings) :
    (o.run env s).1 = put ((o.found env read).getD (f.get s)) s := by
  rw [run, found]
  cases (env o.name).filter (· ≠ "") with
  | none => exact (h.put_get s).symm
  | some v =>
      rw [Option.bind_some]
      dsimp only
      rw [h.apply]
      cases read v with
      | none => exact (h.put_get s).symm
      | some a => rfl

theorem fromEnv_iff (h : o.Puts f read put) : f.FromEnv env a ↔ o.found env read = some a := by
  obtain ⟨stands, hstands, hread⟩ := h.stands
  simp only [Field.FromEnv, hstands, found, Option.bind_eq_some_iff, Option.filter_eq_some_iff,
    decide_eq_true_eq, Option.some.injEq, Prod.mk.injEq, hread, and_assoc]
  constructor
  · rintro ⟨_, _, v, rfl, rfl, hset, hfull, hv⟩
    exact ⟨v, hset, hfull, hv⟩
  · rintro ⟨v, hset, hfull, hv⟩
    exact ⟨_, _, v, rfl, rfl, hset, hfull, hv⟩

theorem not_fromEnv_iff (h : o.Puts f read put) :
    (∀ a, ¬ f.FromEnv env a) ↔ o.found env read = none := by
  rw [Option.eq_none_iff_forall_ne_some]
  exact forall_congr' fun _ ↦ not_congr h.fromEnv_iff

theorem becomes_iff (h : o.Puts f read put) :
    f.Becomes env before a ↔ (o.found env read).getD before = a := by
  constructor
  · rintro (henv | henv)
    · rw [h.fromEnv_iff.1 henv, Option.getD_some]
    · rw [h.not_fromEnv_iff.1 henv, Option.getD_none]
  · rintro rfl
    cases hfound : o.found env read with
    | some a => exact .given (h.fromEnv_iff.2 hfound)
    | none => exact .kept (h.not_fromEnv_iff.2 hfound)

end Puts

end Override

namespace Field

variable {f : Field} {env : Environment} {a before : f.Value}

/-- No variable overrides the field. -/
theorem not_fromEnv_of_fixed (h : f.override = none) (a : f.Value) : ¬ f.FromEnv env a := by
  rintro ⟨key, stands, v, hstands, -⟩
  rw [h] at hstands
  cases hstands

theorem becomes_iff_of_fixed (h : f.override = none) : f.Becomes env before a ↔ before = a := by
  constructor
  · rintro (henv | henv)
    · exact absurd henv (not_fromEnv_of_fixed h a)
    · rfl
  · rintro rfl
    exact .kept (not_fromEnv_of_fixed h)

end Field

/-- What the environment makes of settings, it makes of each field by its variable. -/
theorem becomes_iff_of_overridden (env : Environment) (s : Settings) : ∀ f ∈ Field.all,
    ∀ a, f.Becomes env (f.get s) a ↔ f.get (overridden env s).1 = a := by
  have hfst : (overridden env s).1 = ⟨
      { s.client with
        url := (Override.url.found env some).getD s.client.url
        maxReconnectAttempts := (Override.maxReconnectAttempts.found env fun v ↦
          (wordIn? 0 100 v).map UInt32.ofNat).getD s.client.maxReconnectAttempts
        reconnectBaseDelayMs := (Override.reconnectBaseDelayMs.found env fun v ↦
          (wordIn? 1 600000 v).map UInt64.ofNat).getD s.client.reconnectBaseDelayMs
        keepaliveIntervalMs := (Override.keepaliveIntervalMs.found env fun v ↦
          (wordIn? 1000 600000 v).map UInt64.ofNat).getD s.client.keepaliveIntervalMs },
      s.notifications,
      { s.logging with
        level := (Override.logLevel.found env some).getD s.logging.level
        json := (Override.logJson.found env flag?).getD s.logging.json }⟩ := by
    simp only [overridden, Override.all, List.foldl_cons, List.foldl_nil,
      Override.puts_url.fst_run env, Override.puts_maxReconnectAttempts.fst_run env,
      Override.puts_reconnectBaseDelayMs.fst_run env, Override.puts_keepaliveIntervalMs.fst_run env,
      Override.puts_logLevel.fst_run env, Override.puts_logJson.fst_run env]
    rfl
  rw [hfst]
  have hfixed {f : Field} (hnone : f.override = none) :
      ∀ a, f.Becomes env (f.get s) a ↔ f.get s = a :=
    fun _ ↦ Field.becomes_iff_of_fixed hnone
  exact Field.forall_mem_all.2 ⟨⟨fun _ ↦ Override.puts_url.becomes_iff,
    fun _ ↦ Override.puts_maxReconnectAttempts.becomes_iff,
    fun _ ↦ Override.puts_reconnectBaseDelayMs.becomes_iff,
    fun _ ↦ Override.puts_keepaliveIntervalMs.becomes_iff, hfixed rfl, hfixed rfl⟩,
    ⟨hfixed rfl, hfixed rfl⟩, fun _ ↦ Override.puts_logLevel.becomes_iff,
    fun _ ↦ Override.puts_logJson.becomes_iff, hfixed rfl⟩

end EventFeed.Settings
