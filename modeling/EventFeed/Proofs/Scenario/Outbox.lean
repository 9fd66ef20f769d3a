import EventFeed.Proofs.Frame.Writing
import EventFeed.Proofs.Scenario.Bench

/-!
# What was sent

The transport of a bench keeps the text of each frame that is sent on it. Whatever is done to the
bench, what can be read in these texts is the frames that the client has sent, on all connections
and in their order. The main result, `written_is_read_back`, puts this together with what makes it
so: a frame is the only one that is written as it is. The same holds of notifications.
-/

namespace EventFeed

open Connection

@[simp] def Connection.Effect.frame? : Effect → Option Frame.Control
  | .send _ frame => some frame
  | .open .. | .close _ | .become _ | .publish _ | .answer _ | .report _ => none

/-- The frames that are sent, on any connection. -/
def Connection.framesSent (effects : List Effect) : List Frame.Control :=
  effects.filterMap Effect.frame?

theorem Connection.framesSent_cons (e : Effect) (effects : List Effect) :
    framesSent (e :: effects) = e.frame?.toList ++ framesSent effects := by
  simp only [framesSent, List.filterMap_cons]
  cases e.frame? <;> rfl

theorem Connection.framesSent_append (first rest : List Effect) :
    framesSent (first ++ rest) = framesSent first ++ framesSent rest :=
  List.filterMap_append

namespace Scenario

namespace Transport

theorem sent_open (t : Transport) (now call : Nat) (url : String) :
    (t.open now call url).sent = t.sent := by
  rw [Transport.open]
  cases t.nextOutcome <;> rfl

/-- Every frame can be read back, so none is passed over. -/
theorem sentFrames_of_sent {t t' : Transport} {frames : List Frame.Control}
    (h : t'.sent = (frames.map Frame.Control.encode).reverse ++ t.sent) :
    t'.sentFrames = t.sentFrames ++ frames := by
  have hread : (frames.map Frame.Control.encode).filterMap Frame.Control.ofText? = frames := by
    simp [List.filterMap_map, Frame.Control.ofText?_encode]
  rw [sentFrames, sentFrames, h, List.reverse_append, List.reverse_reverse, List.filterMap_append,
    hread]

end Transport

namespace Scene

variable (s : Scene)

theorem sent_perform (e : Effect) : (s.perform e).transport.sent =
    (e.frame?.toList.map Frame.Control.encode).reverse ++ s.transport.sent := by
  cases e with
  | «open» call url => exact s.transport.sent_open s.now call url
  | _ => rfl

theorem sent_foldl (effects : List Effect) : (effects.foldl perform s).transport.sent =
    ((framesSent effects).map Frame.Control.encode).reverse ++ s.transport.sent := by
  induction effects generalizing s with
  | nil => rfl
  | cons e effects ih =>
      rw [List.foldl_cons, ih, sent_perform, framesSent_cons, List.map_append, List.reverse_append,
        List.append_assoc]

theorem sent_takeAt (m : Moment) (i : Input) : (s.takeAt m i).transport.sent =
    ((framesSent (s.client.step s.config m i).2).map Frame.Control.encode).reverse ++
      s.transport.sent :=
  sent_foldl _ _

end Scene

namespace Bench

/-- From one bench to another its client has taken some inputs, and what the client has sent
meanwhile is what the transport has been sent. -/
structure Leads (b : Bench) (more : List (Moment × Input)) (b' : Bench) : Prop where
  config : b'.scene.config = b.scene.config
  inputs : b'.inputs = b.inputs ++ more
  client : b'.scene.client = (b.scene.client.run b.scene.config more).1
  sent : b'.scene.transport.sent =
    ((framesSent (b.scene.client.run b.scene.config more).2).map Frame.Control.encode).reverse ++
      b.scene.transport.sent

section Leads

variable {b b' b'' : Bench} {first rest : List (Moment × Input)}

theorem Leads.refl (b : Bench) : b.Leads [] b where
  config := rfl
  inputs := (List.append_nil _).symm
  client := rfl
  sent := rfl

theorem Leads.trans (h : b.Leads first b') (h' : b'.Leads rest b'') :
    b.Leads (first ++ rest) b'' where
  config := h'.config.trans h.config
  inputs := by rw [h'.inputs, h.inputs, List.append_assoc]
  client := by rw [h'.client, h.client, h.config, Client.run_append]
  sent := by
    rw [h'.sent, h.sent, h.client, h.config, Client.run_append, framesSent_append, List.map_append,
      List.reverse_append, List.append_assoc]

theorem leads_take (b : Bench) (i : Input) : b.Leads [(b.scene.moment, i)] (b.take i) where
  config := by rw [scene_take, Scene.config_takeAt]
  inputs := rfl
  client := by rw [scene_take, Scene.client_takeAt, Client.run_cons, Client.run_nil]
  sent := by
    rw [scene_take, Scene.sent_takeAt, Client.run_cons, Client.run_nil, List.append_nil]

theorem leads_edit (b : Bench) {f : Transport → Transport}
    (hsent : (f b.scene.transport).sent = b.scene.transport.sent) : b.Leads [] (b.edit f) where
  config := rfl
  inputs := (List.append_nil _).symm
  client := rfl
  sent := hsent

theorem leads_deliver (b : Bench) : ∃ more, b.Leads more b.deliver := by
  cases hinbox : b.scene.transport.inbox with
  | nil =>
      have hnone : b.deliver = b := by simp [Bench.deliver, hinbox]
      rw [hnone]
      exact ⟨[], .refl b⟩
  | cons i inbox =>
      rw [deliver_eq hinbox]
      exact ⟨_, (b.leads_edit rfl).trans (leads_take _ i)⟩

theorem leads_iterate_deliver (b : Bench) (n : Nat) : ∃ more, b.Leads more (deliver^[n] b) := by
  induction n generalizing b with
  | zero => exact ⟨[], .refl b⟩
  | succ n ih =>
      obtain ⟨first, hfirst⟩ := b.leads_deliver
      obtain ⟨rest, hrest⟩ := ih b.deliver
      rw [Function.iterate_succ_apply]
      exact ⟨_, hfirst.trans hrest⟩

theorem leads_call (b : Bench) : ∃ more, b.Leads more b.call := by
  rw [call]
  split
  · obtain ⟨rest, hrest⟩ := b.begin.leads_iterate_deliver b.begin.scene.transport.inbox.length
    have hbegin := b.leads_take .begin
    have hbegun : b.Leads [(b.scene.moment, .begin)] b.begin :=
      ⟨hbegin.config, hbegin.inputs, hbegin.client, hbegin.sent⟩
    exact ⟨_, hbegun.trans hrest⟩
  · exact ⟨[], .refl b⟩

theorem leads_act (b : Bench) (a : Act) : ∃ more, b.Leads more (b.act a) := by
  cases a with
  | adjust script fallback failSends =>
      exact ⟨[], b.leads_edit (f := fun t ↦ { t with script, fallback, failSends }) rfl⟩
  | push text =>
      refine ⟨[], b.leads_edit (f := fun t ↦ (t.push text).1) ?_⟩
      rw [Transport.push]
      split <;> rfl
  | fail fault =>
      refine ⟨[], b.leads_edit (f := fun t ↦ (t.fail fault).1) ?_⟩
      rw [Transport.fail]
      split <;> rfl
  | drop =>
      have hsent : b.scene.transport.drop.1.sent = b.scene.transport.sent := by
        rw [Transport.drop]
        split <;> rfl
      exact ⟨[], rfl, (List.append_nil _).symm, rfl, hsent⟩
  | wait millis => exact ⟨[], rfl, (List.append_nil _).symm, rfl, rfl⟩
  | command command => exact ⟨_, b.leads_take (.command command)⟩
  | call => exact b.leads_call
  | deliver => exact b.leads_deliver
  | ping => exact ⟨_, b.leads_take .ping⟩
  | retry => exact ⟨_, b.leads_take .retry⟩
  | expire => exact ⟨_, b.leads_take .expired⟩

theorem leads_play (b : Bench) (acts : List Act) : ∃ more, b.Leads more (b.play acts) := by
  induction acts generalizing b with
  | nil => exact ⟨[], .refl b⟩
  | cons a acts ih =>
      obtain ⟨first, hfirst⟩ := b.leads_act a
      obtain ⟨rest, hrest⟩ := ih (b.act a)
      exact ⟨_, hfirst.trans hrest⟩

end Leads

/-- A control frame is read back from its text, which is one line without control characters, those
below U+0020, and has a topic exactly when the frame has one; no other frame has that text. So
whatever is done to a bench from whatever it is, the frames that can be read in what was sent on it
are those from before and then the ones that its client has sent. A notification is read back from
its text. -/
theorem written_is_read_back :
    (∀ f : Frame.Control, Frame.Control.ofText? f.encode = some f ∧
        Json.Unbroken f.encode.toList ∧
        ∃ ms : Members, Json.read f.encode = .ok (.obj ms) ∧ ms.get? "topic" = f.topic.map .str) ∧
      Function.Injective Frame.Control.encode ∧
      (∀ (b : Bench) (acts : List Act), ∃ more,
        (b.play acts).inputs = b.inputs ++ more ∧
          (b.play acts).scene.transport.sentFrames = b.scene.transport.sentFrames ++
            framesSent (b.scene.client.run b.scene.config more).2) ∧
      ∀ r : Notification.Record, Notification.Record.ofText? r.toJson.print = some r := by
  refine ⟨fun f ↦ ?_, Frame.Control.encode_injective, fun b acts ↦ ?_,
    Notification.Record.ofText?_print⟩
  · exact ⟨f.ofText?_encode, f.unbroken_encode, f.members, f.read_encode, f.get?_members_topic⟩
  · obtain ⟨more, h⟩ := b.leads_play acts
    exact ⟨more, h.inputs, Transport.sentFrames_of_sent h.sent⟩

end Bench

end Scenario

end EventFeed
