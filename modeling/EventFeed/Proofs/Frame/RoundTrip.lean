import EventFeed.Proofs.Frame.Decoding
import EventFeed.Proofs.Json.Printing

/-!
# Events are read as they are printed

An event whose data hold no floating point numbers is printed as a text that decodes to it, if it
is not too deep for the reader. An event that was decoded is not, and its data are well formed, so
that nothing has to be asked of them but that (`decode_print`).
-/

namespace EventFeed

open Json (Floatless Given WellFormed)

namespace Event

variable {e : Event} {j : Json}

/-- An event as it is printed, with its members in the order of their names. -/
theorem describes_printed (e : Event) : e.Describes (.obj (Members.ofList
    [("id", .str e.id), ("type", .str e.type), ("data", .obj e.data),
      ("timestamp", .str e.timestamp)])) := by
  refine .object ?_ ?_ ?_ ?_ <;> rw [Members.get?_ofList]
  · exact .present e.id
  · rfl
  · exact .present e.data
  · exact .present e.timestamp

theorem depth_toJson_le {n : Nat} : e.toJson.depth ≤ n + 1 ↔ (Json.obj e.data).depth ≤ n := by
  rw [toJson, Json.depth_obj_le]
  simp [Json.depth]

/-- The data of an event stand in the value that describes it, unless they are missing there. -/
theorem Describes.data_cases (h : e.Describes j) :
    e.data = [] ∨ (∃ ms, j = .obj ms ∧ ("data", .obj e.data) ∈ ms) ∨
      ∃ items, j = .arr items ∧ .obj e.data ∈ items := by
  cases h with
  | @object ms _ _ hdata _ =>
      cases hget : ms.get? "data" with
      | none =>
          rw [hget, Json.given_none] at hdata
          exact Or.inl hdata
      | some v =>
          rw [hget, Json.given_some] at hdata
          exact Or.inr (Or.inl ⟨ms, rfl, Members.mem_of_get? (hdata ▸ hget)⟩)
  | @array more _ hdata _ =>
      cases hget : more[0]? with
      | none =>
          rw [hget, Json.given_none] at hdata
          exact Or.inl hdata
      | some v =>
          rw [hget, Json.given_some] at hdata
          refine Or.inr (Or.inr ⟨_, rfl, ?_⟩)
          exact List.mem_cons_of_mem _ (List.mem_cons_of_mem _ (hdata ▸ List.mem_of_getElem? hget))

theorem Describes.wellFormed_data (h : e.Describes j) (hj : WellFormed j) :
    WellFormed (.obj e.data) := by
  rcases h.data_cases with hnil | ⟨ms, rfl, hmem⟩ | ⟨items, rfl, hmem⟩
  · rw [hnil]
    exact Json.wellFormed_obj.2 ⟨.nil, nofun⟩
  · exact (Json.wellFormed_obj.1 hj).2 _ hmem
  · exact Json.wellFormed_arr.1 hj _ hmem

theorem Describes.depth_data_le {n : Nat} (h : e.Describes j) (hj : j.depth ≤ n + 2) :
    (Json.obj e.data).depth ≤ n + 1 := by
  rcases h.data_cases with hnil | ⟨ms, rfl, hmem⟩ | ⟨items, rfl, hmem⟩
  · rw [hnil]
    exact Json.depth_obj_le.2 nofun
  · exact Json.depth_obj_le.1 hj _ hmem
  · exact Json.depth_arr_le.1 hj _ hmem

end Event

namespace Frame

variable {e : Event} {text : String}

theorem decode_toJson_print (hdata : WellFormed (.obj e.data)) (hfloat : Floatless (.obj e.data))
    (hdepth : e.toJson.depth ≤ 127) : decode e.toJson.print = .ok e := by
  have hfields : ∀ m ∈ [("id", Json.str e.id), ("type", .str e.type), ("data", .obj e.data),
      ("timestamp", .str e.timestamp)], WellFormed m.2 ∧ Floatless m.2 := by
    simp only [List.forall_mem_cons]
    exact ⟨Json.plain_str, Json.plain_str, ⟨hdata, hfloat⟩, Json.plain_str, nofun⟩
  exact decode_eq_ok_iff.2 ⟨_, Json.written_print_record hfields hdepth, e.describes_printed⟩

theorem wellFormed_data_of_decode (h : decode text = .ok e) :
    WellFormed (.obj e.data) ∧ e.toJson.depth ≤ 127 := by
  obtain ⟨j, hj, he⟩ := decode_eq_ok_iff.1 h
  obtain ⟨w, hw⟩ := Json.Padded.exists_inside hj
  exact ⟨he.wellFormed_data hw.wellFormed, Event.depth_toJson_le.2 (he.depth_data_le hw.depth_le)⟩

/-- An event without floating point numbers is decoded from what is printed for it. -/
theorem decode_print :
    (∀ e : Event, WellFormed (.obj e.data) → Floatless (.obj e.data) → e.toJson.depth ≤ 127 →
        decode e.toJson.print = .ok e) ∧
      ∀ text e, decode text = .ok e → Floatless (.obj e.data) → decode e.toJson.print = .ok e := by
  refine ⟨fun e ↦ decode_toJson_print, fun text e h hfloat ↦ ?_⟩
  obtain ⟨hdata, hdepth⟩ := wellFormed_data_of_decode h
  exact decode_toJson_print hdata hfloat hdepth

/-- The integers at both limits, and an event that was an array. -/
theorem decode_print_limits :
    let e : Event := ⟨"", "notification", [("low", .num (.int (-9223372036854775808))),
      ("text", .arr [.str "é\n", .num (.int 18446744073709551615)])], "now"⟩
    let e' : Event := ⟨"", "😀", [], ""⟩
    decode e.toJson.print = .ok e ∧ decode e'.toJson.print = .ok e' := by
  intro e e'
  have hlow : WellFormed (.num (.int (-9223372036854775808))) := Json.wellFormed_int.2 (by decide)
  have hhigh : WellFormed (.num (.int 18446744073709551615)) := Json.wellFormed_int.2 (by decide)
  constructor
  · refine decode_print.1 e ?_ ?_ (by decide)
    · have hsorted : Members.Sorted e.data := List.pairwise_pair.2 (by decide)
      simpa [e, Json.wellFormed_obj, Json.wellFormed_arr, Json.plain_str, hlow, hhigh] using hsorted
    · simp [e, Json.floatless_obj, Json.floatless_arr, Json.plain_str, Json.floatless_int]
  · refine decode_print.2 (Json.arr [.str "", .str "😀"]).print e' ?_ ?_
    · refine decode_print_of_describes ?_ ?_ (by decide) (.array (by simp) .absent .absent)
      · simp [Json.wellFormed_arr, Json.plain_str]
      · simp [Json.floatless_arr, Json.plain_str]
    · simp [e', Json.floatless_obj]

end Frame

end EventFeed
