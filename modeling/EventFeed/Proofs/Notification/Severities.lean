import EventFeed.Proofs.Notification.Notices
import EventFeed.Proofs.Text.Ends

/-!
# Severities as they are written

A severity in an event may be written in letters of either case and with blanks around it. Where a
severity is read, neither matters. The level of an alert is compared with its four words before the
blanks are taken away, so that blanks hide it; `severity_of_restyled` says exactly when that shows.
-/

namespace EventFeed

open Text (asciiLower trim Restyled)

/-- The event with another severity in its data. -/
def Event.withSeverity (e : Event) (s : String) : Event :=
  { e with data := e.data.insert "severity" (.str s) }

namespace Notification

/-- A severity in small letters and without the blanks around it. -/
def word (s : String) : String := String.ofList (asciiLower (trim s.toList))

/-- Whether there are blanks around a severity. -/
def IsPadded (s : String) : Prop := trim s.toList ≠ s.toList

instance (s : String) : Decidable (IsPadded s) :=
  inferInstanceAs (Decidable (trim s.toList ≠ s.toList))

def levels : List (String × Severity) :=
  [("critical", .error), ("high", .error), ("medium", .warning), ("low", .info)]

/-- The severity of an alert whose level is a word, with or without blanks around it. -/
def levelOf (padded : Bool) (word : String) : Severity :=
  ((if padded then none else levels.lookup word).or (Severity.spellings.lookup word)).getD .warning

section Words

variable {e : Event} {s t : String}

theorem word_eq_iff : word s = word t ↔ Restyled s.toList t.toList := by
  rw [word, word, String.ofList_inj, Text.restyled_iff]

theorem word_lower (s : String) : word (String.ofList (asciiLower s.toList)) = word s := by
  rw [word, word, String.toList_ofList, Text.trim_asciiLower, Text.asciiLower_asciiLower]

theorem parse_eq (s : String) : Severity.parse s = Severity.spellings.lookup (word s) := rfl

theorem lower_of_not_padded (h : ¬ IsPadded s) :
    String.ofList (asciiLower s.toList) = word s := by
  rw [word, not_not.1 h]

theorem lookup_of_not_level {w : String} (h : w ∉ levels.map (·.1)) : levels.lookup w = none := by
  refine List.lookup_eq_none_iff.2 fun p hp ↦ bne_iff_ne.2 ?_
  rintro rfl
  exact h (List.mem_map_of_mem hp)

/-- Blanks around a level hide it. -/
theorem lookup_lower_of_padded (h : IsPadded s) :
    levels.lookup (String.ofList (asciiLower s.toList)) = none := by
  refine lookup_of_not_level fun hlevel ↦ h (Text.trim_asciiLower_eq_self_iff.1 ?_)
  have hlevels : ∀ w ∈ levels.map (·.1), trim w.toList = w.toList := by decide
  simpa using hlevels _ hlevel

/-- Blanks around a word are of no account unless it is a level above or below a warning. -/
theorem levelOf_eq_iff {w : String} :
    levelOf true w = levelOf false w ↔ w ∉ ["critical", "high", "low"] := by
  by_cases hw : w ∈ levels.map (·.1)
  · have hlevels : ∀ w ∈ levels.map (·.1),
        (levelOf true w = levelOf false w ↔ w ∉ ["critical", "high", "low"]) := by decide
    exact hlevels w hw
  · have hnone := lookup_of_not_level hw
    have hnot : w ∉ ["critical", "high", "low"] := by
      intro hmem
      have hsub : ["critical", "high", "low"] ⊆ levels.map (·.1) := by decide
      exact hw (hsub hmem)
    simp [levelOf, hnone, hnot]

theorem text?_of_str {key : String} (h : e.data.get? key = some (.str s)) :
    e.text? key = if s = "" then none else some s := by
  rw [Event.text?, h]

theorem bind_parse (h : e.data.get? "severity" = some (.str s)) :
    (e.text? "severity").bind Severity.parse = Severity.spellings.lookup (word s) := by
  rw [text?_of_str h]
  split
  · next hs =>
    subst hs
    rfl
  · rfl

/-- The levels come before the severities. -/
theorem level_or_parse (w : String) :
    (if w = "critical" || w = "high" then Severity.error
      else if w = "medium" then .warning
      else if w = "low" then .info
      else (Severity.parse w).getD .warning) =
      ((levels.lookup w).or (Severity.parse w)).getD .warning := by
  by_cases hw : w ∈ levels.map (·.1)
  · simp only [levels, List.map_cons, List.map_nil, List.mem_cons, List.not_mem_nil, or_false] at hw
    rcases hw with rfl | rfl | rfl | rfl <;> rfl
  · rw [lookup_of_not_level hw]
    simp only [levels, List.map_cons, List.map_nil, List.mem_cons, List.not_mem_nil, or_false,
      not_or] at hw
    simp [hw]

theorem ofLevel_eq (h : e.data.get? "severity" = some (.str s)) :
    Grade.ofLevel e = levelOf (IsPadded s) (word s) := by
  rw [Grade.ofLevel, text?_of_str h]
  by_cases hs : s = ""
  · subst hs
    rfl
  · rw [if_neg hs]
    refine (level_or_parse (String.ofList (asciiLower s.toList))).trans ?_
    rw [parse_eq, word_lower, levelOf]
    by_cases hpadded : IsPadded s
    · simp [hpadded, lookup_lower_of_padded hpadded]
    · simp [hpadded, lower_of_not_padded hpadded]

end Words

section Notices

variable {e : Event} {s t : String}

theorem get?_withSeverity (e : Event) (s : String) :
    (e.withSeverity s).data.get? "severity" = some (.str s) := by
  rw [Event.withSeverity, Members.get?_insert, if_pos rfl]

theorem exists_notice_of_grade (stamp : Stamp) {grade : Grade}
    (hgrade : (Rule.of? e.type).map (·.grade) = some grade) :
    ∃ n, Notice.ofEvent? stamp e = some n ∧ n.record.severity = grade.severity e := by
  obtain ⟨rule, hrule, rfl⟩ := Option.map_eq_some_iff.1 hgrade
  exact ⟨_, Notice.ofEvent?_of_rule stamp hrule, rfl⟩

/-- A notice or a system alert has the severity that can be read, or its own. -/
theorem severity_of_given (stamp : Stamp) {otherwise : Severity}
    (hgrade : (Rule.of? e.type).map (·.grade) = some (.given otherwise))
    (hs : e.data.get? "severity" = some (.str s)) :
    ∃ n, Notice.ofEvent? stamp e = some n ∧
      n.record.severity = (Severity.spellings.lookup (word s)).getD otherwise := by
  obtain ⟨n, hn, hseverity⟩ := exists_notice_of_grade stamp hgrade
  refine ⟨n, hn, hseverity.trans ?_⟩
  rw [Grade.severity, bind_parse hs]

theorem severity_of_level (stamp : Stamp) (htype : e.type = "alert_created")
    (hs : e.data.get? "severity" = some (.str s)) :
    ∃ n, Notice.ofEvent? stamp e = some n ∧ n.record.severity = levelOf (IsPadded s) (word s) := by
  have hgrade : (Rule.of? e.type).map (·.grade) = some .level := by
    rw [htype]
    rfl
  obtain ⟨n, hn, hseverity⟩ := exists_notice_of_grade stamp hgrade
  exact ⟨n, hn, hseverity.trans (ofLevel_eq hs)⟩

theorem levelOf_eq_error_iff {w : String} {padded : Bool} (h : w ∈ ["critical", "high"]) :
    levelOf padded w = .error ↔ padded = false := by
  have hlevels : ∀ w ∈ ["critical", "high"], ∀ padded,
      (levelOf padded w = .error ↔ padded = false) := by decide
  exact hlevels w h padded

theorem levelOf_eq_levelOf_iff {w : String} {p q : Prop} [Decidable p] [Decidable q] :
    levelOf p w = levelOf q w ↔ ¬ (w ∈ ["critical", "high", "low"] ∧ ¬ (p ↔ q)) := by
  by_cases hp : p <;> by_cases hq : q <;>
    simp only [hp, hq, decide_true, decide_false, levelOf_eq_iff,
      eq_comm (a := levelOf false w)] <;>
    simp

/-- A severity that is written in letters of another case or with other blanks around it leaves the
severity of the notification as it is, but for one kind of event: an alert whose level is above or
below a warning loses it to blanks. -/
theorem severity_of_restyled (stamp : Stamp)
    (htype : e.type ∈ ["notification", "system_alert", "alert_created"])
    (hs : e.data.get? "severity" = some (.str s)) (h : Restyled s.toList t.toList) :
    ∃ n n' : Notice, Notice.ofEvent? stamp e = some n ∧
      Notice.ofEvent? stamp (e.withSeverity t) = some n' ∧
      (n'.record.severity = n.record.severity ↔
        ¬ (e.type = "alert_created" ∧ word s ∈ ["critical", "high", "low"] ∧
          ¬ (IsPadded t ↔ IsPadded s))) ∧
      (e.type = "alert_created" → word s ∈ ["critical", "high"] →
        (n.record.severity = .error ↔ ¬ IsPadded s)) := by
  have hword : word t = word s := (word_eq_iff.2 h).symm
  have ht := get?_withSeverity e t
  by_cases halert : e.type = "alert_created"
  · obtain ⟨n, hn, hseverity⟩ := severity_of_level stamp halert hs
    obtain ⟨n', hn', hseverity'⟩ := severity_of_level (e := e.withSeverity t) stamp halert ht
    refine ⟨n, n', hn, hn', ?_, fun _ hlevel ↦ ?_⟩
    · rw [hseverity, hseverity', hword, levelOf_eq_levelOf_iff]
      simp only [halert, true_and]
    · rw [hseverity, levelOf_eq_error_iff hlevel, decide_eq_false_iff_not]
  · obtain ⟨otherwise, hgrade⟩ : ∃ otherwise,
        (Rule.of? e.type).map (·.grade) = some (.given otherwise) := by
      simp only [List.mem_cons, List.not_mem_nil, or_false, halert] at htype
      rcases htype with htype | htype
      · exact ⟨.info, by rw [htype]; rfl⟩
      · exact ⟨.warning, by rw [htype]; rfl⟩
    obtain ⟨n, hn, hseverity⟩ := severity_of_given stamp hgrade hs
    obtain ⟨n', hn', hseverity'⟩ := severity_of_given (e := e.withSeverity t) stamp hgrade ht
    refine ⟨n, n', hn, hn', ?_, fun hlevel ↦ absurd hlevel halert⟩
    rw [hseverity, hseverity', hword]
    simp [halert]

/-- An alert with nothing but a severity. -/
def alertOf (severity : String) : Event := ⟨"", "alert_created", [("severity", .str severity)], ""⟩

theorem severity_of_padded_low :
    let stamp : Stamp := ⟨"1", ⟨2026, 1, 1, 0, 0, 0, 0⟩⟩
    Restyled " LOW".toList "low\t".toList ∧
      ∃ n n' : Notice, Notice.ofEvent? stamp (alertOf " LOW") = some n ∧
        Notice.ofEvent? stamp ((alertOf " LOW").withSeverity "low\t") = some n' ∧
        n'.record.severity = n.record.severity := by
  intro stamp
  have h : Restyled " LOW".toList "low\t".toList := Text.restyled_iff.2 (by decide)
  obtain ⟨n, n', hn, hn', hsame, -⟩ := severity_of_restyled stamp (e := alertOf " LOW")
    (by decide) rfl h
  exact ⟨h, n, n', hn, hn', hsame.2 (by decide)⟩

theorem padded_critical_is_a_warning :
    let stamp : Stamp := ⟨"1", ⟨2026, 1, 1, 0, 0, 0, 0⟩⟩
    Restyled "critical".toList " critical ".toList ∧
      ∃ n n' : Notice, Notice.ofEvent? stamp (alertOf "critical") = some n ∧
        Notice.ofEvent? stamp ((alertOf "critical").withSeverity " critical ") = some n' ∧
        n.record.severity = .error ∧ n'.record.severity = .warning :=
  ⟨Text.restyled_iff.2 (by decide), _, _, rfl, rfl, rfl, rfl⟩

end Notices

end Notification

end EventFeed
