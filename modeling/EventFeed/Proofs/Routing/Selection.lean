import EventFeed.Routing.Router
import Mathlib.Data.List.Basic

/-!
# What filters select

The categories share no types, so the category of an event is the one that has its type in its
list. A filter that is put together from categories and a type selects the events of all of them
and of that type, in whatever order they were named and however often.
-/

namespace EventFeed.Routing

namespace Category

variable {c c' : Category} {type : String}

theorem mem_all (c : Category) : c ∈ all := by
  cases c <;> decide

theorem of?_eq_some_iff : of? type = some c ↔ type ∈ c.types := by
  constructor
  · intro h
    simpa using List.find?_some h
  · intro h
    -- No type comes twice, so no category before this one has it in its list.
    have hall : ∀ c : Category, ∀ type ∈ c.types, of? type = some c := by
      intro c
      cases c <;> decide
    exact hall c type h

theorem eq_of_mem_types (h : type ∈ c.types) (h' : type ∈ c'.types) : c = c' := by
  rw [← of?_eq_some_iff] at h h'
  exact Option.some_inj.1 (h.symm.trans h')

theorem exists_of?_eq_some_iff : (∃ c, of? type = some c) ↔ type ∈ all.flatMap types := by
  rw [List.mem_flatMap]
  constructor
  · rintro ⟨c, hc⟩
    exact ⟨c, c.mem_all, of?_eq_some_iff.1 hc⟩
  · rintro ⟨c, -, hc⟩
    exact ⟨c, of?_eq_some_iff.2 hc⟩

end Category

namespace Filter

variable {c : Category} {category : Option Category} {cs : List Category} {e : Event}
  {f : Filter} {type : String}

theorem mem_categories_withCategory {c' : Category} :
    c ∈ (f.withCategory c').categories ↔ c = c' ∨ c ∈ f.categories :=
  List.mem_insert_iff

theorem mem_categories_foldl :
    c ∈ (cs.foldl withCategory f).categories ↔ c ∈ cs ∨ c ∈ f.categories := by
  induction cs generalizing f with
  | nil => simp
  | cons c' cs ih =>
      rw [List.foldl_cons, ih, mem_categories_withCategory, List.mem_cons]
      tauto

theorem types_foldl (cs : List Category) (f : Filter) :
    (cs.foldl withCategory f).types = f.types := by
  induction cs generalizing f with
  | nil => rfl
  | cons c cs ih => exact ih (f.withCategory c)

theorem subject_foldl (cs : List Category) (f : Filter) :
    (cs.foldl withCategory f).subject = f.subject := by
  induction cs generalizing f with
  | nil => rfl
  | cons c cs ih => exact ih (f.withCategory c)

/-- A filter that names a type does not select everything. -/
theorem selects_iff (h : f.types ≠ []) :
    f.selects category type = true ↔ (∃ c ∈ category, c ∈ f.categories) ∨ type ∈ f.types := by
  have hnamed : (f.categories.isEmpty && f.types.isEmpty) = false := by simp [h]
  rw [selects, hnamed, Bool.false_or, Bool.or_eq_true, Option.any_eq_true]
  simp

theorem keeps_foldl_iff :
    (cs.foldl withCategory (ofType type)).keeps category e = true ↔
      (∃ c ∈ category, c ∈ cs) ∨ e.type = type := by
  have hcategories : (ofType type).categories = [] := rfl
  have htypes : (ofType type).types = [type] := rfl
  have hsubject : (ofType type).subject = none := rfl
  have hnamed : (cs.foldl withCategory (ofType type)).types ≠ [] := by
    rw [types_foldl, htypes]
    exact List.cons_ne_nil type []
  rw [keeps, subject_foldl, hsubject, Option.all_none, Bool.and_true, selects_iff hnamed,
    types_foldl, htypes, List.mem_singleton]
  simp only [mem_categories_foldl, hcategories, List.not_mem_nil, or_false]

end Filter

end EventFeed.Routing
