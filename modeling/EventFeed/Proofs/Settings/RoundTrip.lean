import EventFeed.Proofs.Settings.Layers

/-!
# Settings are loaded as they are written

The text of settings stands for their JSON form, and so do all texts with the fields in another
order or with other blanks. Whichever of them a file has, loading it gives back the settings, or
the error of their check (`load_written`).
-/

namespace EventFeed.Settings

open Json (ValueText)

variable {env : Environment} {s : Settings}

theorem Client.valueText_fields (c : Client) :
    ValueText 126 (Json.obj c.fields).render c.toJson := by
  rw [toJson_eq]
  exact Json.valueText_render_record c.plain_fields
    (by simp [fields, Json.depth, Json.depthMembers, Json.nat])

theorem Notifications.valueText_fields (n : Notifications) :
    ValueText 126 (Json.obj n.fields).render n.toJson := by
  have htopics : (Json.arr (n.defaultTopics.map .str)).depth ≤ 1 :=
    Json.depth_arr_le.2 (List.forall_mem_map.2 fun _ _ ↦ Nat.zero_le 0)
  rw [toJson_eq]
  refine Json.valueText_render_record n.plain_fields (Json.depth_obj_le.2 ?_)
  simpa [fields, Json.nat, Json.depth] using le_trans htopics (by decide : 1 ≤ 125)

theorem Logging.valueText_fields (l : Logging) :
    ValueText 126 (Json.obj l.fields).render l.toJson := by
  rw [toJson_eq]
  exact Json.valueText_render_record l.plain_fields
    (by simp [fields, Json.depth, Json.depthMembers, Json.nat])

theorem written_print (s : Settings) : Json.Written 127 s.print s.toJson := by
  let sections : Members :=
    [("client", s.client.toJson), ("notifications", s.notifications.toJson),
      ("logging", s.logging.toJson)]
  have hstands : List.Forall₂ (Json.Stands (ValueText 126))
      [("client", .obj s.client.fields), ("notifications", .obj s.notifications.fields),
        ("logging", .obj s.logging.fields)] sections :=
    .cons ⟨rfl, s.client.valueText_fields⟩ (.cons ⟨rfl, s.notifications.valueText_fields⟩
      (.cons ⟨rfl, s.logging.valueText_fields⟩ .nil))
  have htoJson : s.toJson = .obj (Members.ofList sections) := by
    simp only [toJson, sections, Members.ofList, List.foldl, Members.insert, String.reduceEq,
      String.reduceLT, ↓reduceIte]
  rw [Json.Written, print, Json.toList_print, htoJson]
  exact .of (Or.inr (Or.inr (Json.objectText_render hstands (Members.latest_ofList _))))

theorem sectioned_toJson (s : Settings) : Sectioned s.toJson := by
  refine ⟨_, rfl, ?_⟩
  rintro part (_ | ⟨-, _ | ⟨-, _ | ⟨-, ⟨⟩⟩⟩⟩) v hv <;>
    exact .inr ⟨_, (Option.some.inj hv).symm⟩

/-- Nothing is left to the defaults. -/
theorem written_toJson (s : Settings) : ∀ f ∈ Field.all,
    f.written s.toJson = f.write (f.get s) :=
  Field.forall_mem_all.2 ⟨⟨rfl, rfl, rfl, rfl, rfl, rfl⟩, ⟨rfl, rfl⟩, rfl, rfl, rfl⟩

theorem overridden_of_unset (henv : ∀ o ∈ Override.all, env o.name = none) :
    overridden env s = (s, []) := by
  have hrun : ∀ o ∈ Override.all, ∀ s, o.run env s = (s, []) := by
    intro o ho s
    rw [Override.run, henv o ho]
    rfl
  simp only [Override.all, List.forall_mem_cons] at hrun
  simp only [overridden, Override.all, List.foldl_cons, List.foldl_nil, hrun, List.append_nil]

/-- Settings that are written to a file are loaded from it if they pass the check. -/
theorem load_written (s : Settings) (path : String)
    (henv : ∀ o ∈ Override.all, env o.name = none) :
    Json.Written 127 s.print s.toJson ∧ ∀ text, Json.Written 127 text s.toJson →
      load path (.content text.toUTF8) env = (check s).map fun _ ↦ (s, []) := by
  refine ⟨s.written_print, fun text htext ↦ ?_⟩
  have hread : ofJson (default.toJson.merge s.toJson) = .ok s :=
    (ofJson_merge_eq_ok_iff s.plain_toJson.1 s.sectioned_toJson).2 s.written_toJson
  have hfile := ofFile_of_contains (contains_toUTF8 htext) path
  rw [hread] at hfile
  rw [load_of_ok hfile, overridden_of_unset henv]

/-- Empty texts, an empty list, zeros and the greatest numbers. -/
def extreme : Settings where
  client := ⟨"wss://", 0, 18446744073709551615, 0, 0, 18446744073709551615⟩
  notifications := ⟨1, []⟩
  logging := ⟨"", true, 0⟩

theorem load_extreme : load "settings.json" (.content extreme.print.toUTF8) (fun _ ↦ none) =
    .ok (extreme, []) :=
  (load_written extreme "settings.json" fun _ _ ↦ rfl).2 extreme.print extreme.written_print

end EventFeed.Settings
