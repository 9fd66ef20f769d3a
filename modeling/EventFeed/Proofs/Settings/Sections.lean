import EventFeed.Proofs.Json.Contents
import EventFeed.Proofs.Json.Shapes
import EventFeed.Settings.Basic

/-!
# Sections read from objects

A section is read from an object exactly when each member that stands for one of its fields is the
JSON form of a value, and a field that is not there has its default. `ofJson_congr` says that
settings depend on nothing else: members that are no fields change neither what is read nor the
fault that is met.
-/

namespace EventFeed.Settings

open Json (Given)

section Items

variable {j : Json}

theorem asUInt32_eq_ok_iff {n : UInt32} : asUInt32 j = .ok n ↔ j = .nat n.toNat :=
  Json.map_asWord_eq_ok_iff UInt32.toNat_lt_size (fun _ ↦ UInt32.ofNat_toNat)
    fun _ ↦ UInt32.toNat_ofNat_of_lt'

theorem asUInt64_eq_ok_iff {n : UInt64} : asUInt64 j = .ok n ↔ j = .nat n.toNat :=
  Json.map_asWord_eq_ok_iff UInt64.toNat_lt_size (fun _ ↦ UInt64.ofNat_toNat)
    fun _ ↦ UInt64.toNat_ofNat_of_lt'

theorem asSize_eq_ok_iff {n : UInt64} : asSize j = .ok n ↔ j = .nat n.toNat :=
  Json.map_asWord_eq_ok_iff UInt64.toNat_lt_size (fun _ ↦ UInt64.ofNat_toNat)
    fun _ ↦ UInt64.toNat_ofNat_of_lt'

theorem asTexts_eq_ok_iff {texts : List String} :
    Json.asList Json.asText j = .ok texts ↔ j = .arr (texts.map .str) :=
  Json.asList_eq_ok_iff Json.asText_eq_ok_iff

end Items

section Sections

open Json.Shape (checks_optional local_optional)

variable {ms : Members}

namespace Client

theorem checks_shape : shape.Checks :=
  (((((checks_optional.map _).seq checks_optional).seq checks_optional).seq checks_optional).seq
    checks_optional).seq checks_optional

theorem local_shape : shape.Local :=
  (((((local_optional.map _).seq local_optional).seq local_optional).seq local_optional).seq
    local_optional).seq local_optional

theorem ofJson_eq_ok_iff (hms : ms.Sorted) {c : Client} : ofJson (.obj ms) = .ok c ↔
    Given .str default.url (ms.get? "url") c.url ∧
    Given (.nat ·.toNat) default.maxReconnectAttempts (ms.get? "maxReconnectAttempts")
      c.maxReconnectAttempts ∧
    Given (.nat ·.toNat) default.reconnectBaseDelayMs (ms.get? "reconnectBaseDelayMs")
      c.reconnectBaseDelayMs ∧
    Given (.nat ·.toNat) default.keepaliveIntervalMs (ms.get? "keepaliveIntervalMs")
      c.keepaliveIntervalMs ∧
    Given (.nat ·.toNat) default.connectTimeoutMs (ms.get? "connectTimeoutMs")
      c.connectTimeoutMs ∧
    Given (.nat ·.toNat) default.eventBufferSize (ms.get? "eventBufferSize") c.eventBufferSize := by
  rw [ofJson, Json.Shape.read_object checks_shape hms]
  simp only [shape, Json.Shape.build_seq, Json.Shape.build_map,
    Json.Shape.build_optional Json.asText_eq_ok_iff, Json.Shape.build_optional asUInt32_eq_ok_iff,
    Json.Shape.build_optional asUInt64_eq_ok_iff, Json.Shape.build_optional asSize_eq_ok_iff]
  constructor
  · rintro ⟨_, _, ⟨_, _, ⟨_, _, ⟨_, _, ⟨_, _, ⟨_, hurl, rfl⟩, hattempts, rfl⟩, hdelay, rfl⟩,
      halive, rfl⟩, htimeout, rfl⟩, hbuffer, rfl⟩
    exact ⟨hurl, hattempts, hdelay, halive, htimeout, hbuffer⟩
  · rintro ⟨hurl, hattempts, hdelay, halive, htimeout, hbuffer⟩
    exact ⟨_, _, ⟨_, _, ⟨_, _, ⟨_, _, ⟨_, _, ⟨_, hurl, rfl⟩, hattempts, rfl⟩, hdelay, rfl⟩,
      halive, rfl⟩, htimeout, rfl⟩, hbuffer, rfl⟩

end Client

namespace Notifications

theorem checks_shape : shape.Checks := (checks_optional.map _).seq checks_optional

theorem local_shape : shape.Local := (local_optional.map _).seq local_optional

theorem ofJson_eq_ok_iff (hms : ms.Sorted) {n : Notifications} : ofJson (.obj ms) = .ok n ↔
    Given (.nat ·.toNat) default.capacity (ms.get? "capacity") n.capacity ∧
    Given (fun topics ↦ .arr (topics.map .str)) default.defaultTopics (ms.get? "defaultTopics")
      n.defaultTopics := by
  rw [ofJson, Json.Shape.read_object checks_shape hms]
  simp only [shape, Json.Shape.build_seq, Json.Shape.build_map,
    Json.Shape.build_optional asSize_eq_ok_iff, Json.Shape.build_optional asTexts_eq_ok_iff]
  constructor
  · rintro ⟨_, _, ⟨_, hcapacity, rfl⟩, htopics, rfl⟩
    exact ⟨hcapacity, htopics⟩
  · rintro ⟨hcapacity, htopics⟩
    exact ⟨_, _, ⟨_, hcapacity, rfl⟩, htopics, rfl⟩

end Notifications

namespace Logging

theorem checks_shape : shape.Checks :=
  ((checks_optional.map _).seq checks_optional).seq checks_optional

theorem local_shape : shape.Local := ((local_optional.map _).seq local_optional).seq local_optional

theorem ofJson_eq_ok_iff (hms : ms.Sorted) {l : Logging} : ofJson (.obj ms) = .ok l ↔
    Given .str default.level (ms.get? "level") l.level ∧
    Given .bool default.json (ms.get? "json") l.json ∧
    Given (.nat ·.toNat) default.captureRecent (ms.get? "captureRecent") l.captureRecent := by
  rw [ofJson, Json.Shape.read_object checks_shape hms]
  simp only [shape, Json.Shape.build_seq, Json.Shape.build_map,
    Json.Shape.build_optional Json.asText_eq_ok_iff,
    Json.Shape.build_optional Json.asBool_eq_ok_iff, Json.Shape.build_optional asSize_eq_ok_iff]
  constructor
  · rintro ⟨_, _, ⟨_, _, ⟨_, hlevel, rfl⟩, hjson, rfl⟩, hcapture, rfl⟩
    exact ⟨hlevel, hjson, hcapture⟩
  · rintro ⟨hlevel, hjson, hcapture⟩
    exact ⟨_, _, ⟨_, _, ⟨_, hlevel, rfl⟩, hjson, rfl⟩, hcapture, rfl⟩

end Logging

theorem local_shape : shape.Local := ((local_optional.map _).seq local_optional).seq local_optional

variable {client logging notifications : Json}

/-- Settings whose three sections are there: the first fault of a section is that of the whole. -/
theorem ofJson_eq (hms : ms.Sorted) (hclient : ms.get? "client" = some client)
    (hlogging : ms.get? "logging" = some logging)
    (hnotifications : ms.get? "notifications" = some notifications) :
    ofJson (.obj ms) = (do
      let c ← Client.ofJson client
      let l ← Logging.ofJson logging
      let n ← Notifications.ofJson notifications
      return ⟨c, n, l⟩) := by
  let parts : Members :=
    [("client", client), ("logging", logging), ("notifications", notifications)]
  have hparts : parts.Sorted :=
    Members.sorted_of_names ["client", "logging", "notifications"] rfl (by decide)
  have hagree : ∀ f ∈ shape.fields, ms.get? f.name = parts.get? f.name := by
    rintro f (_ | ⟨-, _ | ⟨-, _ | ⟨-, ⟨⟩⟩⟩⟩)
    · exact hclient
    · exact hnotifications
    · exact hlogging
  have hcheck : Json.Shape.checkMembers shape.fields parts = (do
      (Client.ofJson client).map fun _ ↦ ()
      (Logging.ofJson logging).map fun _ ↦ ()
      (Notifications.ofJson notifications).map fun _ ↦ ()
      return ()) := rfl
  have hbuild : ∀ {c n l}, Client.ofJson client = .ok c →
      Notifications.ofJson notifications = .ok n → Logging.ofJson logging = .ok l →
      shape.build parts = .ok ⟨c, n, l⟩ := by
    intro c n l hc hn hl
    exact Json.Shape.build_seq.2 ⟨mk c n, l, Json.Shape.build_seq.2 ⟨mk c, n,
      (Json.Shape.build_map _).2 ⟨c, hc, rfl⟩, hn, rfl⟩, hl, rfl⟩
  rw [ofJson, Json.Shape.read_congr local_shape hms hparts hagree]
  show (do Json.Shape.checkMembers shape.fields parts; shape.build parts) = _
  rw [hcheck]
  cases hc : Client.ofJson client with
  | error e => rfl
  | ok c =>
      cases hl : Logging.ofJson logging with
      | error e => rfl
      | ok l =>
          cases hn : Notifications.ofJson notifications with
          | error e => rfl
          | ok n => exact hbuild hc hn hl

theorem ofJson_eq_ok_iff (hms : ms.Sorted) (hclient : ms.get? "client" = some client)
    (hlogging : ms.get? "logging" = some logging)
    (hnotifications : ms.get? "notifications" = some notifications) {s : Settings} :
    ofJson (.obj ms) = .ok s ↔ Client.ofJson client = .ok s.client ∧
      Notifications.ofJson notifications = .ok s.notifications ∧
      Logging.ofJson logging = .ok s.logging := by
  rw [ofJson_eq hms hclient hlogging hnotifications]
  obtain ⟨c, n, l⟩ := s
  cases Client.ofJson client <;> cases Logging.ofJson logging <;>
    cases Notifications.ofJson notifications <;>
    simp [Bind.bind, Except.bind, pure, Except.pure]

end Sections

section Written

open Json (Floatless WellFormed plain_bool plain_nat plain_str)

theorem plain_word (n : UInt64) : WellFormed (.nat n.toNat) ∧ Floatless (.nat n.toNat) :=
  plain_nat n.toNat_lt

namespace Client

theorem plain_fields (c : Client) : ∀ m ∈ c.fields, WellFormed m.2 ∧ Floatless m.2 := by
  have hattempts : c.maxReconnectAttempts.toNat < 2 ^ 64 :=
    c.maxReconnectAttempts.toNat_lt.trans (by decide)
  simp [fields, plain_str, plain_word, plain_nat hattempts]

theorem toJson_eq (c : Client) : c.toJson = .obj (Members.ofList c.fields) := by
  simp only [toJson, fields, Members.ofList, List.foldl, Members.insert, String.reduceEq,
    String.reduceLT, ↓reduceIte]

end Client

namespace Notifications

theorem plain_fields (n : Notifications) : ∀ m ∈ n.fields, WellFormed m.2 ∧ Floatless m.2 := by
  have htopics : WellFormed (.arr (n.defaultTopics.map .str)) ∧
      Floatless (.arr (n.defaultTopics.map .str)) :=
    Json.plain_arr (List.forall_mem_map.2 fun _ _ ↦ plain_str)
  simp [fields, plain_word, htopics]

theorem toJson_eq (n : Notifications) : n.toJson = .obj (Members.ofList n.fields) := by
  simp only [toJson, fields, Members.ofList, List.foldl, Members.insert, String.reduceEq,
    String.reduceLT, ↓reduceIte]

end Notifications

namespace Logging

theorem plain_fields (l : Logging) : ∀ m ∈ l.fields, WellFormed m.2 ∧ Floatless m.2 := by
  simp [fields, plain_bool, plain_str, plain_word]

theorem toJson_eq (l : Logging) : l.toJson = .obj (Members.ofList l.fields) := by
  simp only [toJson, fields, Members.ofList, List.foldl, Members.insert, String.reduceEq,
    String.reduceLT, ↓reduceIte]

end Logging

theorem plain_toJson (s : Settings) : WellFormed s.toJson ∧ Floatless s.toJson := by
  have hclient := Json.plain_record s.client.plain_fields
  have hlogging := Json.plain_record s.logging.plain_fields
  have hnotifications := Json.plain_record s.notifications.plain_fields
  rw [← Client.toJson_eq] at hclient
  rw [← Logging.toJson_eq] at hlogging
  rw [← Notifications.toJson_eq] at hnotifications
  exact Json.plain_obj
    (Members.sorted_of_names ["client", "logging", "notifications"] rfl (by decide))
    (by simp [hclient, hlogging, hnotifications])

end Written

end EventFeed.Settings
