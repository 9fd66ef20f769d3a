import EventFeed.Frame.Control
import EventFeed.Notification.Record
import EventFeed.Proofs.Json.Printing
import EventFeed.Proofs.Json.Shapes

/-!
# Control frames and notifications are read as they are written

What is printed for a control frame stands for that frame alone (`Control.ofText?_encode`), in one
line without control characters, and it has a topic exactly when the frame has one. What is printed
for a notification stands for that notification (`Record.ofText?_print`).
-/

namespace EventFeed

open Json (Floatless Unbroken WellFormed)

namespace Frame

theorem Action.lookup_named (a : Action) : Action.named.lookup a.name = some a := by
  cases a <;> decide

namespace Control

variable {f : Control} {ms : Members}

theorem checks_shape : shape.Checks :=
  (Json.Shape.checks_required.map _).seq Json.Shape.checks_optional

theorem build_shape (haction : ms.get? "action" = some (.str f.action.name))
    (htopic : ms.get? "topic" = f.topic.map .str) : shape.build ms = .ok f :=
  Json.Shape.build_seq.2 ⟨Control.mk f.action, f.topic,
    (Json.Shape.build_map _).2 ⟨f.action,
      Json.Shape.build_required_of haction (Json.asVariant_str f.action.lookup_named), rfl⟩,
    Json.Shape.build_optional_text htopic, rfl⟩

/-- The members of a frame, which stand in the order of their names. -/
def members (f : Control) : Members :=
  ("action", .str f.action.name) :: (f.topic.map fun topic ↦ ("topic", Json.str topic)).toList

theorem toJson_eq (f : Control) : f.toJson = .obj f.members := by
  obtain ⟨action, topic⟩ := f
  cases topic <;> rfl

theorem sorted_members (f : Control) : f.members.Sorted := by
  obtain ⟨action, topic⟩ := f
  cases topic with
  | none => exact List.pairwise_singleton _ _
  | some topic => exact List.pairwise_pair.2 (by decide : "action" < "topic")

theorem get?_members_action (f : Control) : f.members.get? "action" = some (.str f.action.name) :=
  rfl

theorem get?_members_topic (f : Control) : f.members.get? "topic" = f.topic.map .str := by
  obtain ⟨action, topic⟩ := f
  cases topic <;> rfl

theorem plain_members (f : Control) : ∀ m ∈ f.members, WellFormed m.2 ∧ Floatless m.2 := by
  obtain ⟨action, topic⟩ := f
  cases topic <;> simp [members, Json.plain_str]

theorem depth_toJson (f : Control) : f.toJson.depth ≤ 127 := by
  obtain ⟨action, topic⟩ := f
  cases topic <;> simp [toJson, Json.depth, Json.depthMembers]

theorem floatless_toJson (f : Control) : Floatless f.toJson := by
  rw [toJson_eq]
  exact Json.floatless_obj.2 fun m hm ↦ (f.plain_members m hm).2

theorem read_encode (f : Control) : Json.read f.encode = .ok (.obj f.members) := by
  have hformed : WellFormed f.toJson := by
    rw [toJson_eq]
    exact Json.wellFormed_obj.2 ⟨f.sorted_members, fun m hm ↦ (f.plain_members m hm).1⟩
  rw [← toJson_eq]
  exact Json.read_print hformed f.floatless_toJson f.depth_toJson

theorem ofText?_encode (f : Control) : ofText? f.encode = some f := by
  have hbuild := build_shape f.get?_members_action f.get?_members_topic
  exact Json.ofText?_of_ok f.read_encode
    ((Json.Shape.read_object checks_shape f.sorted_members).2 hbuild)

theorem encode_injective : Function.Injective encode := by
  intro f g h
  have hread := congrArg ofText? h
  rw [ofText?_encode, ofText?_encode] at hread
  exact Option.some.inj hread

theorem unbroken_encode (f : Control) : Unbroken f.encode.toList := by
  rw [encode, Json.toList_print]
  exact Json.unbroken_render f.floatless_toJson

end Control

end Frame

namespace Notification

theorem Severity.lookup_named (s : Severity) : Severity.named.lookup s.name = some s := by
  cases s <;> decide

namespace Record

variable {r : Record} {ms : Members}

theorem checks_shape : shape.Checks :=
  ((((((Json.Shape.checks_required.map _).seq Json.Shape.checks_required).seq
    Json.Shape.checks_required).seq Json.Shape.checks_required).seq
    Json.Shape.checks_required).seq Json.Shape.checks_required).seq Json.Shape.checks_optional

theorem build_shape (hid : ms.get? "id" = some (.str r.id))
    (htitle : ms.get? "title" = some (.str r.title)) (hbody : ms.get? "body" = some (.str r.body))
    (hseverity : ms.get? "severity" = some (.str r.severity.name))
    (htimestamp : ms.get? "timestamp" = some (.str r.timestamp))
    (hread : ms.get? "read" = some (.bool r.read))
    (hlink : ms.get? "link" = r.link.map .str) : shape.build ms = .ok r := by
  have htext : ∀ {name s}, ms.get? name = some (.str s) →
      (Json.Shape.required name Json.asText).build ms = .ok s :=
    fun hget ↦ Json.Shape.build_required_of hget rfl
  simp only [shape, Json.Shape.build_seq, Json.Shape.build_map]
  exact ⟨_, _, ⟨_, _, ⟨_, _, ⟨_, _, ⟨_, _, ⟨_, _, ⟨_, htext hid, rfl⟩, htext htitle, rfl⟩,
    htext hbody, rfl⟩, Json.Shape.build_required_of hseverity
      (Json.asVariant_str r.severity.lookup_named), rfl⟩, htext htimestamp, rfl⟩,
    Json.Shape.build_required_of hread rfl, rfl⟩, Json.Shape.build_optional_text hlink, rfl⟩

/-- The members of a notification in the order in which they are printed. -/
def fields (r : Record) : List (String × Json) :=
  [("id", .str r.id), ("title", .str r.title), ("body", .str r.body),
    ("severity", .str r.severity.name), ("timestamp", .str r.timestamp), ("read", .bool r.read)] ++
    (r.link.map fun link ↦ ("link", Json.str link)).toList

theorem toJson_eq (r : Record) : r.toJson = .obj r.fields := by
  obtain ⟨id, title, body, severity, timestamp, read, link⟩ := r
  cases link <;> rfl

theorem plain_fields (r : Record) : ∀ m ∈ r.fields, WellFormed m.2 ∧ Floatless m.2 := by
  obtain ⟨id, title, body, severity, timestamp, read, link⟩ := r
  cases link <;> simp [fields, Json.plain_str, Json.plain_bool]

theorem read_print (r : Record) :
    Json.read r.toJson.print = .ok (.obj (Members.ofList r.fields)) := by
  rw [toJson_eq]
  refine Json.read_eq_ok_iff.2 (Json.written_print_record r.plain_fields ?_)
  obtain ⟨id, title, body, severity, timestamp, read, link⟩ := r
  cases link <;> simp [fields, Json.depth, Json.depthMembers]

theorem ofText?_print (r : Record) : ofText? r.toJson.print = some r := by
  have hbuild : shape.build (Members.ofList r.fields) = .ok r := by
    obtain ⟨id, title, body, severity, timestamp, read, link⟩ := r
    cases link <;> apply build_shape <;> rw [Members.get?_ofList] <;> rfl
  exact Json.ofText?_of_ok r.read_print
    ((Json.Shape.read_object checks_shape (Members.sorted_ofList _)).2 hbuild)

end Record

end Notification

end EventFeed
