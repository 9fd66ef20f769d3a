import EventFeed.Proofs.Json.Printing
import EventFeed.Proofs.Settings.Fields
import EventFeed.Proofs.Settings.Sections
import EventFeed.Settings.Load

/-!
# The layers of the settings

A file is laid over the defaults member by member, so each field is read from what the file gives
for it, or else from its default (`ofJson_merge_eq_ok_iff`). `load_layered` says of whole files
what is loaded from them, when loading fails, and that nothing but the fields matters.
-/

namespace EventFeed.Settings

/-- Each field has its value by the three layers. -/
def Layered (env : Environment) (file : Json) (s : Settings) : Prop :=
  ∀ f ∈ Field.all, f.Holds env file (f.get s)

/-- An object in which each section is absent, `null` or an object. -/
def Sectioned (file : Json) : Prop :=
  ∃ ms : Members, file = .obj ms ∧ ∀ part ∈ ["client", "notifications", "logging"], ∀ v,
    ms.get? part = some v → v = .null ∨ ∃ fields, v = .obj fields

/-- The bytes are a text of the value. -/
def Contains (bytes : ByteArray) (file : Json) : Prop :=
  ∃ text, String.fromUTF8? bytes = some text ∧ Json.read text = .ok file

/-- An address that a client can call. -/
def Dialable (url : String) : Prop :=
  "ws://".toList <+: url.toList ∨ "wss://".toList <+: url.toList

/-- What is reported of settings that a client cannot run with. -/
inductive Unfit (s : Settings) : (field reason : String) → Prop
  | url (hurl : ¬ Dialable s.client.url) :
      Unfit s "client.url" ("must start with ws:// or wss://, got " ++ s.client.url)
  | capacity (hurl : Dialable s.client.url) (hcapacity : s.notifications.capacity = 0) :
      Unfit s "notifications.capacity" "must be at least 1"
  | eventBufferSize (hurl : Dialable s.client.url) (hcapacity : s.notifications.capacity ≠ 0)
      (hbuffer : s.client.eventBufferSize = 0) :
      Unfit s "client.eventBufferSize" "must be at least 1"

def LoadError.IsJson : LoadError → Prop
  | .json _ | .shape _ => True
  | _ => False

section Files

/-- The members of a section. A section that is absent has none. -/
def sectionOf (ms : Members) (part : String) : Members :=
  ((ms.get? part).bind Json.members?).getD []

theorem at?_eq (ms : Members) (part name : String) :
    (Json.obj ms).at? [part, name] = (sectionOf ms part).get? name := by
  simp only [Json.at?, Json.members?, sectionOf, Option.bind_some, Option.bind_fun_some]
  cases ms.get? part with
  | none => rfl
  | some v => cases v <;> rfl

def defaults : Members :=
  [("client", Client.default.toJson), ("logging", Logging.default.toJson),
    ("notifications", Notifications.default.toJson)]

/-- A section of a file over that of the defaults. -/
def mergedSection (ms : Members) (part : String) : Members :=
  Json.mergeMembers (sectionOf defaults part) (sectionOf ms part)

theorem toJson_default : default.toJson = .obj defaults := rfl

theorem sectionOf_defaults : ∀ f ∈ Field.all,
    (sectionOf defaults f.part).get? f.name = some (f.write f.default) :=
  Field.forall_mem_all.2 ⟨⟨rfl, rfl, rfl, rfl, rfl, rfl⟩, ⟨rfl, rfl⟩, rfl, rfl, rfl⟩

variable {ms : Members} (hms : Json.WellFormed (.obj ms))

include hms

theorem sorted_sectionOf (part : String) : (sectionOf ms part).Sorted := by
  rw [sectionOf]
  cases hget : ms.get? part with
  | none => exact .nil
  | some v =>
      cases v with
      | obj fields => exact hms.sorted (.member (Members.mem_of_get? hget) .self)
      | _ => exact .nil

theorem get?_mergedSection : ∀ f ∈ Field.all,
    (mergedSection ms f.part).get? f.name = some (f.written (.obj ms)) := by
  intro f hf
  rw [mergedSection, Members.get?_mergeMembers (sorted_sectionOf hms f.part).nodup,
    sectionOf_defaults f hf, Json.overlay_eq_getD (Field.write_ne_obj f hf _), ← at?_eq]
  rfl

/-- The sections of a file over the defaults, each of which is there. -/
theorem get?_merged (hsections : Sectioned (.obj ms)) :
    ∀ part ∈ ["client", "notifications", "logging"],
      (Json.mergeMembers defaults ms).get? part = some (.obj (mergedSection ms part)) := by
  obtain ⟨_, hfile, hparts⟩ := hsections
  obtain rfl := Json.obj.inj hfile
  intro part hpart
  obtain ⟨fields, hfields⟩ : ∃ fields, defaults.get? part = some (.obj fields) := by
    obtain _ | ⟨-, _ | ⟨-, _ | ⟨-, ⟨⟩⟩⟩⟩ := hpart <;> exact ⟨_, rfl⟩
  rw [Members.get?_mergeMembers (hms.sorted .self).nodup, hfields, mergedSection, sectionOf,
    sectionOf, hfields]
  cases hget : ms.get? part with
  | none => rfl
  | some v =>
      obtain rfl | ⟨given, rfl⟩ := hparts part hpart v hget
      · rfl
      · exact congrArg some (Json.merge_obj fields given)

omit hms in
theorem sorted_mergedSection (part : String) : (mergedSection ms part).Sorted :=
  (sorted_sectionOf (plain_toJson .default).1 part).mergeMembers _

omit hms in
theorem sorted_merged : (Json.mergeMembers defaults ms).Sorted :=
  ((plain_toJson .default).1.sorted .self).mergeMembers _

theorem given_mergedSection {f : Field} (hf : f ∈ Field.all) (a : f.Value) :
    Json.Given f.write f.default ((mergedSection ms f.part).get? f.name) a ↔
      f.written (.obj ms) = f.write a := by
  rw [get?_mergedSection hms f hf, Json.given_some]

/-- Settings are read from a file over the defaults field by field. -/
theorem ofJson_merge_eq_ok_iff (hsections : Sectioned (.obj ms)) {s : Settings} :
    ofJson (default.toJson.merge (.obj ms)) = .ok s ↔
      ∀ f ∈ Field.all, f.written (.obj ms) = f.write (f.get s) := by
  have hget := get?_merged hms hsections
  obtain ⟨⟨hurl, hattempts, hdelay, halive, htimeout, hbuffer⟩, ⟨hcapacity, htopics⟩, hlevel, hjson,
    hcapture⟩ := Field.forall_mem_all.1 fun f hf ↦ given_mergedSection hms hf (f.get s)
  rw [toJson_default, Json.merge_obj, ofJson_eq_ok_iff sorted_merged (hget "client" (by simp))
    (hget "logging" (by simp)) (hget "notifications" (by simp)),
    Client.ofJson_eq_ok_iff (sorted_mergedSection _),
    Notifications.ofJson_eq_ok_iff (sorted_mergedSection _),
    Logging.ofJson_eq_ok_iff (sorted_mergedSection _), Field.forall_mem_all]
  exact and_congr (and_congr hurl (and_congr hattempts (and_congr hdelay (and_congr halive
    (and_congr htimeout hbuffer))))) (and_congr (and_congr hcapacity htopics)
    (and_congr hlevel (and_congr hjson hcapture)))

theorem exists_ofJson_merge_iff (hsections : Sectioned (.obj ms)) :
    (∃ s, ofJson (default.toJson.merge (.obj ms)) = .ok s) ↔
      ¬ ∃ f ∈ Field.all, f.Misfit (.obj ms) := by
  rw [Field.not_exists_misfit]
  constructor
  · rintro ⟨s, hs⟩ f hf
    exact ⟨f.get s, (ofJson_merge_eq_ok_iff hms hsections).1 hs f hf⟩
  · intro h
    obtain ⟨s, hs⟩ := Field.exists_get h
    exact ⟨s, (ofJson_merge_eq_ok_iff hms hsections).2 hs⟩

theorem layered_iff (hsections : Sectioned (.obj ms)) {env : Environment} {s s' : Settings}
    (hs : ofJson (default.toJson.merge (.obj ms)) = .ok s) :
    Layered env (.obj ms) s' ↔ s' = (overridden env s).1 := by
  have hwritten := (ofJson_merge_eq_ok_iff hms hsections).1 hs
  have hholds : ∀ f ∈ Field.all, ∀ a, f.Holds env (.obj ms) a ↔ f.get (overridden env s).1 = a :=
    fun f hf a ↦ (Field.holds_iff hf (hwritten f hf)).trans (becomes_iff_of_overridden env s f hf a)
  constructor
  · intro h
    exact Field.get_ext fun f hf ↦ ((hholds f hf _).1 (h f hf)).symm
  · rintro rfl f hf
    exact (hholds f hf _).2 rfl

/-- Files that give the same for each field are read alike. -/
theorem ofJson_merge_congr {ms' : Members} (hms' : Json.WellFormed (.obj ms'))
    (hsections : Sectioned (.obj ms)) (hsections' : Sectioned (.obj ms'))
    (hgiven : ∀ f ∈ Field.all, f.given (.obj ms') = f.given (.obj ms)) :
    ofJson (default.toJson.merge (.obj ms')) = ofJson (default.toJson.merge (.obj ms)) := by
  have hagree : ∀ {part : String} {fields : List Json.Field},
      fields.map (·.name) = (Field.all.filter (·.part = part)).map (·.name) → ∀ g ∈ fields,
        (mergedSection ms' part).get? g.name = (mergedSection ms part).get? g.name := by
    intro part fields hnames g hg
    obtain ⟨f, hmem, hname⟩ := List.mem_map.1 (hnames ▸ List.mem_map_of_mem hg)
    obtain ⟨hf, hpart⟩ := List.mem_filter.1 hmem
    obtain rfl := of_decide_eq_true hpart
    rw [← hname, get?_mergedSection hms f hf, get?_mergedSection hms' f hf, Field.written,
      Field.written, hgiven f hf]
  have hclient : Client.ofJson (.obj (mergedSection ms' "client")) =
      Client.ofJson (.obj (mergedSection ms "client")) :=
    Json.Shape.read_congr Client.local_shape (sorted_mergedSection _)
      (sorted_mergedSection _) (hagree rfl)
  have hlogging : Logging.ofJson (.obj (mergedSection ms' "logging")) =
      Logging.ofJson (.obj (mergedSection ms "logging")) :=
    Json.Shape.read_congr Logging.local_shape (sorted_mergedSection _)
      (sorted_mergedSection _) (hagree rfl)
  have hnotifications : Notifications.ofJson (.obj (mergedSection ms' "notifications")) =
      Notifications.ofJson (.obj (mergedSection ms "notifications")) :=
    Json.Shape.read_congr Notifications.local_shape (sorted_mergedSection _)
      (sorted_mergedSection _) (hagree rfl)
  have hget := get?_merged hms hsections
  have hother := get?_merged hms' hsections'
  rw [toJson_default, Json.merge_obj, Json.merge_obj,
    ofJson_eq sorted_merged (hget "client" (by simp)) (hget "logging" (by simp))
      (hget "notifications" (by simp)),
    ofJson_eq sorted_merged (hother "client" (by simp)) (hother "logging" (by simp))
      (hother "notifications" (by simp)), hclient, hlogging, hnotifications]

end Files

section Loading

variable {bytes : ByteArray} {env : Environment} {file : Json} {path : String} {s : Settings}

theorem dialable_iff {url : String} : Dialable url ↔
    ("ws://".toList.isPrefixOf url.toList || "wss://".toList.isPrefixOf url.toList) = true := by
  rw [Dialable, Bool.or_eq_true, List.isPrefixOf_iff_prefix, List.isPrefixOf_iff_prefix]

theorem Unfit.check_eq {field reason : String} (h : Unfit s field reason) :
    check s = .error (.invalid field reason) := by
  cases h with
  | url hurl =>
      rw [dialable_iff, Bool.not_eq_true] at hurl
      rw [check, hurl]
      rfl
  | capacity hurl hcapacity =>
      rw [check, dialable_iff.1 hurl]
      simp [hcapacity]
  | eventBufferSize hurl hcapacity hbuffer =>
      rw [check, dialable_iff.1 hurl]
      simp [hcapacity, hbuffer]

theorem check_of_fit (hurl : Dialable s.client.url) (hcapacity : s.notifications.capacity ≠ 0)
    (hbuffer : s.client.eventBufferSize ≠ 0) : check s = .ok () := by
  rw [check, dialable_iff.1 hurl]
  simp [hcapacity, hbuffer]

theorem exists_unfit_or_fit (s : Settings) : (∃ field reason, Unfit s field reason) ∨
    Dialable s.client.url ∧ s.notifications.capacity ≠ 0 ∧ s.client.eventBufferSize ≠ 0 := by
  by_cases hurl : Dialable s.client.url
  · by_cases hcapacity : s.notifications.capacity = 0
    · exact .inl ⟨_, _, .capacity hurl hcapacity⟩
    · by_cases hbuffer : s.client.eventBufferSize = 0
      · exact .inl ⟨_, _, .eventBufferSize hurl hcapacity hbuffer⟩
      · exact .inr ⟨hurl, hcapacity, hbuffer⟩
  · exact .inl ⟨_, _, .url hurl⟩

theorem check_eq_ok_iff : check s = .ok () ↔
    Dialable s.client.url ∧ s.notifications.capacity ≠ 0 ∧ s.client.eventBufferSize ≠ 0 := by
  constructor
  · intro h
    refine (exists_unfit_or_fit s).resolve_left ?_
    rintro ⟨field, reason, hunfit⟩
    cases h.symm.trans hunfit.check_eq
  · rintro ⟨hurl, hcapacity, hbuffer⟩
    exact check_of_fit hurl hcapacity hbuffer

/-- The check fails exactly for what is unfit, with the field and the reason of that. -/
theorem check_eq_error_iff {e : LoadError} :
    check s = .error e ↔ ∃ field reason, Unfit s field reason ∧ e = .invalid field reason := by
  constructor
  · intro h
    rcases exists_unfit_or_fit s with ⟨field, reason, hunfit⟩ | hfit
    · exact ⟨field, reason, hunfit, Except.error.inj (h.symm.trans hunfit.check_eq)⟩
    · cases h.symm.trans (check_eq_ok_iff.2 hfit)
  · rintro ⟨field, reason, hunfit, rfl⟩
    exact hunfit.check_eq

theorem check_eq_invalid_iff {field reason : String} :
    check s = .error (.invalid field reason) ↔ Unfit s field reason := by
  rw [check_eq_error_iff]
  constructor
  · rintro ⟨_, _, hunfit, ⟨⟩⟩
    exact hunfit
  · exact fun hunfit ↦ ⟨_, _, hunfit, rfl⟩

theorem check_eq_ok_iff_not_unfit :
    check s = .ok () ↔ ∀ field reason, ¬ Unfit s field reason := by
  simp only [← check_eq_invalid_iff]
  cases h : check s with
  | ok => simp
  | error e =>
      obtain ⟨field, reason, -, rfl⟩ := check_eq_error_iff.1 h
      simp

theorem ofFile_of_contains (hbytes : Contains bytes file) (path : String) :
    ofFile path (.content bytes) = (ofJson (default.toJson.merge file)).mapError .shape := by
  obtain ⟨text, htext, hread⟩ := hbytes
  rw [ofFile, htext]
  dsimp only
  rw [ofText, hread]
  rfl

theorem load_of_error {e : LoadError} {source : File} (h : ofFile path source = .error e) :
    load path source env = .error e := by
  rw [load, h]
  rfl

theorem load_of_ok {source : File} (h : ofFile path source = .ok s) :
    load path source env = (check (overridden env s).1).map fun _ ↦ overridden env s := by
  rw [load, h]
  show (do check (overridden env s).1; return overridden env s) = _
  cases check (overridden env s).1 <;> rfl

theorem map_eq_ok_iff {x : Except ε Unit} {a b : α} :
    (x.map fun _ ↦ a) = .ok b ↔ x = .ok () ∧ a = b := by
  cases x <;> simp [Except.map]

theorem map_eq_error_iff {x : Except ε Unit} {a : α} {e : ε} :
    (x.map fun _ ↦ a) = .error e ↔ x = .error e := by
  cases x <;> simp [Except.map]

theorem fromUTF8?_toUTF8 (text : String) : String.fromUTF8? text.toUTF8 = some text := by
  have hvalid : text.toUTF8.IsValidUTF8 := text.isValidUTF8
  rw [String.fromUTF8?, dif_pos hvalid]
  rfl

theorem contains_toUTF8 {text : String} (h : Json.Written 127 text file) :
    Contains text.toUTF8 file :=
  ⟨text, fromUTF8?_toUTF8 text, Json.read_eq_ok_iff.2 h⟩

theorem Contains.wellFormed (hbytes : Contains bytes file) : file.WellFormed := by
  obtain ⟨text, -, hread⟩ := hbytes
  exact Json.wellFormed_of_read hread

theorem load_of_misfit (hbytes : Contains bytes file) (hfile : Sectioned file)
    (hmisfit : ∃ f ∈ Field.all, f.Misfit file) (path : String) (env : Environment) :
    ∃ e, load path (.content bytes) env = .error (.shape e) := by
  obtain ⟨ms, rfl, -⟩ := id hfile
  have hnone := not_not.2 hmisfit
  rw [← exists_ofJson_merge_iff hbytes.wellFormed hfile] at hnone
  have hfrom := ofFile_of_contains hbytes path
  cases hs : ofJson (default.toJson.merge (.obj ms)) with
  | error e =>
      rw [hs] at hfrom
      exact ⟨e, load_of_error hfrom⟩
  | ok s => exact absurd ⟨s, hs⟩ hnone

/-- Where every field fits, the layers make one value of the settings, and it is checked. -/
theorem load_of_not_misfit (hbytes : Contains bytes file) (hfile : Sectioned file)
    (hfits : ¬ ∃ f ∈ Field.all, f.Misfit file) (path : String) (env : Environment) :
    ∃ s reports, (∀ s', Layered env file s' ↔ s' = s) ∧
      load path (.content bytes) env = (check s).map fun _ ↦ (s, reports) := by
  obtain ⟨ms, rfl, -⟩ := id hfile
  obtain ⟨s, hs⟩ := (exists_ofJson_merge_iff hbytes.wellFormed hfile).2 hfits
  have hfrom := ofFile_of_contains hbytes path
  rw [hs] at hfrom
  exact ⟨_, _, fun _ ↦ layered_iff hbytes.wellFormed hfile hs, load_of_ok hfrom⟩

theorem load_congr {bytes' : ByteArray} {file' : Json} (hbytes : Contains bytes file)
    (hfile : Sectioned file) (hbytes' : Contains bytes' file') (hfile' : Sectioned file')
    (hgiven : ∀ f ∈ Field.all, f.given file' = f.given file) (path : String) (env : Environment) :
    load path (.content bytes') env = load path (.content bytes) env := by
  obtain ⟨ms, rfl, -⟩ := id hfile
  obtain ⟨ms', rfl, -⟩ := id hfile'
  rw [load, load, ofFile_of_contains hbytes, ofFile_of_contains hbytes',
    ofJson_merge_congr hbytes.wellFormed hbytes'.wellFormed hfile hfile' hgiven]

/-- What is loaded from a file: each field by its layers, an error of the file exactly if a field
is misfitted, and an error of the settings exactly if a client cannot run with them. Files that give
the same for each field are loaded alike. -/
theorem load_layered (hbytes : Contains bytes file) (hfile : Sectioned file) (path : String)
    (env : Environment) :
    (∀ s, (∃ reports, load path (.content bytes) env = .ok (s, reports)) ↔
      (¬ ∃ f ∈ Field.all, f.Misfit file) ∧ Layered env file s ∧
        ∀ field reason, ¬ Unfit s field reason) ∧
    ((∃ e, load path (.content bytes) env = .error e ∧ e.IsJson) ↔
      ∃ f ∈ Field.all, f.Misfit file) ∧
    (∀ field reason, load path (.content bytes) env = .error (.invalid field reason) ↔
      (¬ ∃ f ∈ Field.all, f.Misfit file) ∧ ∃ s, Layered env file s ∧ Unfit s field reason) ∧
    ∀ bytes' file', Contains bytes' file' → Sectioned file' →
      (∀ f ∈ Field.all, f.given file' = f.given file) →
      load path (.content bytes') env = load path (.content bytes) env := by
  have hcongr : ∀ bytes' file', Contains bytes' file' → Sectioned file' →
      (∀ f ∈ Field.all, f.given file' = f.given file) →
      load path (.content bytes') env = load path (.content bytes) env :=
    fun _ _ hbytes' hfile' hgiven ↦ load_congr hbytes hfile hbytes' hfile' hgiven path env
  simp only [← check_eq_ok_iff_not_unfit]
  simp only [← check_eq_invalid_iff]
  by_cases hmisfit : ∃ f ∈ Field.all, f.Misfit file
  · obtain ⟨e, he⟩ := load_of_misfit hbytes hfile hmisfit path env
    refine ⟨fun s ↦ ?_, ?_, fun field reason ↦ ?_, hcongr⟩
    · simp only [he, hmisfit, not_true_eq_false, false_and, iff_false]
      exact fun ⟨_, h⟩ ↦ nomatch h
    · exact ⟨fun _ ↦ hmisfit, fun _ ↦ ⟨_, he, trivial⟩⟩
    · simp only [he, hmisfit, not_true_eq_false, false_and, iff_false]
      exact nofun
  · obtain ⟨s, reports, hlayered, hload⟩ := load_of_not_misfit hbytes hfile hmisfit path env
    simp only [hload, hlayered, map_eq_ok_iff, map_eq_error_iff, Prod.mk.injEq] at hcongr ⊢
    refine ⟨fun s' ↦ ?_, ?_, fun field reason ↦ ?_, hcongr⟩
    · constructor
      · rintro ⟨-, hcheck, rfl, -⟩
        exact ⟨hmisfit, rfl, hcheck⟩
      · rintro ⟨-, rfl, hcheck⟩
        exact ⟨reports, hcheck, rfl, rfl⟩
    · refine ⟨fun ⟨e, he, hjson⟩ ↦ ?_, fun h ↦ absurd h hmisfit⟩
      obtain ⟨field, reason, -, rfl⟩ := check_eq_error_iff.1 he
      exact hjson.elim
    · rw [exists_eq_left]
      exact ⟨fun h ↦ ⟨hmisfit, h⟩, fun h ↦ h.2⟩

end Loading

/-- A file with one field of its own, a `null`, a name that is no field, and two fields that the
environment overrides. -/
def sample : Json :=
  .obj [("client", .obj [("connectTimeoutMs", .nat 0), ("keepaliveIntervalMs", .nat 20000),
      ("retries", .nat 3)]),
    ("logging", .obj [("json", .bool false), ("level", .null)])]

/-- A number with a plus sign and a zero before it, one that is too small, and a flag. -/
def sampleEnvironment : Environment := fun key ↦
  if key = "CASEFEED_KEEPALIVE_INTERVAL_MS" then some "+045000"
  else if key = "CASEFEED_RECONNECT_BASE_DELAY_MS" then some "0"
  else if key = "CASEFEED_LOG_JSON" then some "Yes" else none

theorem sectioned_sample : Sectioned sample := by
  refine ⟨_, rfl, ?_⟩
  rintro part (_ | ⟨-, _ | ⟨-, _ | ⟨-, ⟨⟩⟩⟩⟩) v hv
  · exact .inr ⟨_, (Option.some.inj hv).symm⟩
  · cases hv
  · exact .inr ⟨_, (Option.some.inj hv).symm⟩

theorem contains_sample : Contains sample.print.toUTF8 sample := by
  have hclient : ∀ m ∈ [("connectTimeoutMs", Json.nat 0), ("keepaliveIntervalMs", .nat 20000),
      ("retries", .nat 3)], m.2.WellFormed ∧ m.2.Floatless := by
    simp [Json.plain_nat]
  have hlogging : ∀ m ∈ [("json", Json.bool false), ("level", .null)],
      m.2.WellFormed ∧ m.2.Floatless := by
    simp [Json.plain_bool, Json.plain_null]
  have hsample : sample.WellFormed ∧ sample.Floatless := by
    refine Json.plain_obj (Members.sorted_of_names ["client", "logging"] rfl (by decide))
      (List.forall_mem_cons.2 ⟨?_, List.forall_mem_singleton.2 ?_⟩)
    · exact Json.plain_obj (Members.sorted_of_names
        ["connectTimeoutMs", "keepaliveIntervalMs", "retries"] rfl (by decide)) hclient
    · exact Json.plain_obj (Members.sorted_of_names ["json", "level"] rfl (by decide)) hlogging
  exact contains_toUTF8 (Json.written_print hsample.1 hsample.2 (by decide))

def sampleSettings : Settings where
  client := { Client.default with connectTimeoutMs := 0, keepaliveIntervalMs := 45000 }
  notifications := .default
  logging := { Logging.default with json := true }

theorem load_sample : ∃ reports,
    load "settings.json" (.content sample.print.toUTF8) sampleEnvironment =
      .ok (sampleSettings, reports) := by
  have hfits : ¬ ∃ f ∈ Field.all, f.Misfit sample := by
    rw [Field.not_exists_misfit]
    exact Field.forall_mem_all.2 ⟨⟨⟨_, rfl⟩, ⟨_, rfl⟩, ⟨_, rfl⟩, ⟨(20000 : UInt64), rfl⟩,
      ⟨(0 : UInt64), rfl⟩, ⟨_, rfl⟩⟩, ⟨⟨_, rfl⟩, ⟨_, rfl⟩⟩, ⟨_, rfl⟩, ⟨_, rfl⟩, ⟨_, rfl⟩⟩
  have hkeepalive : Field.keepaliveIntervalMs.FromEnv sampleEnvironment (45000 : UInt64) :=
    ⟨_, _, "+045000", rfl, rfl, by decide, ⟨['+'], 1, .inr rfl, by decide⟩, by decide, by decide⟩
  have hjson : Field.json.FromEnv sampleEnvironment true :=
    ⟨_, _, "Yes", rfl, rfl, by decide, "yes", by decide, by decide⟩
  have hlayered : Layered sampleEnvironment sample sampleSettings :=
    Field.forall_mem_all.2 ⟨⟨.fromDefault (Override.puts_url.not_fromEnv_iff.2 rfl) rfl,
      .fromDefault (Override.puts_maxReconnectAttempts.not_fromEnv_iff.2 rfl) rfl,
      .fromDefault (Override.puts_reconnectBaseDelayMs.not_fromEnv_iff.2 rfl) rfl,
      .fromEnv hkeepalive, .fromFile (Field.not_fromEnv_of_fixed rfl) rfl,
      .fromDefault (Field.not_fromEnv_of_fixed rfl) rfl⟩,
      ⟨.fromDefault (Field.not_fromEnv_of_fixed rfl) rfl,
        .fromDefault (Field.not_fromEnv_of_fixed rfl) rfl⟩,
      .fromDefault (Override.puts_logLevel.not_fromEnv_iff.2 rfl) rfl, .fromEnv hjson,
      .fromDefault (Field.not_fromEnv_of_fixed rfl) rfl⟩
  have hfit : ∀ field reason, ¬ Unfit sampleSettings field reason := check_eq_ok_iff_not_unfit.1 rfl
  exact ((load_layered contains_sample sectioned_sample _ _).1 _).2 ⟨hfits, hlayered, hfit⟩

end EventFeed.Settings
