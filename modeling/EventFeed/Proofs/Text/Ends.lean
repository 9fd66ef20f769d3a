import EventFeed.Text.Blank
import Mathlib

/-!
# The ends of a text

Characters of one kind are taken from both ends of a text by `Text.strip`; blanks are one such
kind. What is left does not depend on what stood at the ends, and `strip_eq_self_iff` says when
nothing is taken.
-/

namespace EventFeed.Text

def strip (p : Char → Bool) (cs : List Char) : List Char := (cs.dropWhile p).rdropWhile p

theorem trim_eq_strip (cs : List Char) : trim cs = strip isBlank cs := rfl

section Strip

variable {p : Char → Bool} {cs core before after : List Char}

theorem rdropWhile_append (cs : List Char) (h : ∀ c ∈ after, p c = true) :
    (cs ++ after).rdropWhile p = cs.rdropWhile p := by
  induction after using List.reverseRecOn with
  | nil => rw [List.append_nil]
  | append_singleton after c ih =>
      rw [← List.append_assoc, List.rdropWhile_concat_pos _ _ _ (h c (by simp))]
      exact ih fun d hd ↦ h d (by simp [hd])

theorem strip_append (core : List Char) (hbefore : ∀ c ∈ before, p c = true)
    (hafter : ∀ c ∈ after, p c = true) : strip p (before ++ core ++ after) = strip p core := by
  rw [strip, strip, List.append_assoc, List.dropWhile_append_of_pos hbefore,
    List.dropWhile_append]
  cases hcore : core.dropWhile p with
  | nil => simp [List.dropWhile_eq_nil_iff.2 hafter]
  | cons c rest => simpa using rdropWhile_append (c :: rest) hafter

/-- What is taken away is of the kind. -/
theorem exists_strip (p : Char → Bool) (cs : List Char) :
    ∃ before after, (∀ c ∈ before, p c = true) ∧ (∀ c ∈ after, p c = true) ∧
      cs = before ++ strip p cs ++ after := by
  refine ⟨cs.takeWhile p, (cs.dropWhile p).rtakeWhile p, fun c hc ↦ ?_, fun c hc ↦ ?_, ?_⟩
  · exact List.mem_takeWhile_imp hc
  · exact List.mem_rtakeWhile_imp hc
  · rw [strip, List.append_assoc, List.rdropWhile_append_rtakeWhile,
      List.takeWhile_append_dropWhile]

theorem dropWhile_eq_self_iff : cs.dropWhile p = cs ↔ ∀ c ∈ cs.head?, p c = false := by
  cases cs with
  | nil => simp
  | cons c cs => simp [List.dropWhile_eq_self_iff]

theorem rdropWhile_eq_self_iff : cs.rdropWhile p = cs ↔ ∀ c ∈ cs.getLast?, p c = false := by
  rw [List.rdropWhile, List.reverse_eq_iff, dropWhile_eq_self_iff, List.head?_reverse]

theorem strip_eq_self_iff :
    strip p cs = cs ↔ (∀ c ∈ cs.head?, p c = false) ∧ ∀ c ∈ cs.getLast?, p c = false := by
  rw [← dropWhile_eq_self_iff, ← rdropWhile_eq_self_iff]
  constructor
  · intro hstrip
    have hle : cs.length ≤ (cs.dropWhile p).length := by
      calc cs.length = (strip p cs).length := by rw [hstrip]
        _ ≤ (cs.dropWhile p).length := (List.rdropWhile_prefix p _).length_le
    have hdrop : cs.dropWhile p = cs := (List.dropWhile_suffix p).eq_of_length_le hle
    rw [strip, hdrop] at hstrip
    exact ⟨hdrop, hstrip⟩
  · rintro ⟨hdrop, hlast⟩
    rw [strip, hdrop, hlast]

theorem strip_map {f : Char → Char} (hf : ∀ c, p (f c) = p c) (cs : List Char) :
    strip p (cs.map f) = (strip p cs).map f := by
  have hcomp : p ∘ f = p := funext hf
  simp only [strip, List.rdropWhile, List.dropWhile_map, ← List.map_reverse, hcomp]

theorem strip_map_eq_self_iff {f : Char → Char} (hf : ∀ c, p (f c) = p c) :
    strip p (cs.map f) = cs.map f ↔ strip p cs = cs := by
  simp only [strip_eq_self_iff, List.head?_map, List.getLast?_map, Option.mem_def,
    Option.map_eq_some_iff, forall_exists_index, and_imp, forall_apply_eq_imp_iff₂, hf]

end Strip

/-! ## Case and blanks -/

theorem isBlank_eq_false_of_letter {c : Char} (h : 65 ≤ c.toNat ∧ c.toNat ≤ 122) :
    isBlank c = false := by
  simp only [isBlank, Bool.or_eq_false_iff, Bool.and_eq_false_iff, decide_eq_false_iff_not,
    beq_eq_false_iff_ne]
  omega

theorem isBlank_toLower (c : Char) : isBlank c.toLower = isBlank c := by
  by_cases h : c.isUpper = true
  · have hbounds : 65 ≤ c.toNat ∧ c.toNat ≤ 90 := by
      simpa [Char.isUpper, UInt32.le_iff_toNat_le] using h
    have hvalid : (c.toNat + 32).isValidChar := .inl (by omega)
    have hlower : c.toLower.toNat = c.toNat + 32 := by
      rw [Char.toLower_eq_of_isUpper h, Char.toNat_ofNat, if_pos hvalid]
    rw [isBlank_eq_false_of_letter ⟨by omega, by omega⟩,
      isBlank_eq_false_of_letter ⟨by omega, by omega⟩]
  · rw [Char.toLower_eq_of_not_isUpper h]

/-- The same text with letters of another case and with other blanks around it. -/
def Restyled (cs ds : List Char) : Prop :=
  ∃ before core after before' core' after' : List Char,
    cs = before ++ core ++ after ∧ ds = before' ++ core' ++ after' ∧
      asciiLower core = asciiLower core' ∧
      ∀ c ∈ before ++ after ++ before' ++ after', isBlank c = true

variable {cs ds : List Char}

theorem trim_asciiLower (cs : List Char) : trim (asciiLower cs) = asciiLower (trim cs) :=
  strip_map isBlank_toLower cs

theorem trim_asciiLower_eq_self_iff : trim (asciiLower cs) = asciiLower cs ↔ trim cs = cs :=
  strip_map_eq_self_iff isBlank_toLower

theorem asciiLower_asciiLower (cs : List Char) : asciiLower (asciiLower cs) = asciiLower cs := by
  simp [asciiLower, Char.toLower_toLower_eq_toLower]

theorem restyled_iff : Restyled cs ds ↔ asciiLower (trim cs) = asciiLower (trim ds) := by
  constructor
  · rintro ⟨before, core, after, before', core', after', rfl, rfl, hcore, hblank⟩
    simp only [List.mem_append, or_imp, forall_and] at hblank
    obtain ⟨⟨⟨hbefore, hafter⟩, hbefore'⟩, hafter'⟩ := hblank
    rw [trim_eq_strip, trim_eq_strip, strip_append core hbefore hafter,
      strip_append core' hbefore' hafter', ← trim_eq_strip, ← trim_eq_strip, ← trim_asciiLower,
      ← trim_asciiLower, hcore]
  · intro h
    obtain ⟨before, after, hbefore, hafter, hcs⟩ := exists_strip isBlank cs
    obtain ⟨before', after', hbefore', hafter', hds⟩ := exists_strip isBlank ds
    refine ⟨before, trim cs, after, before', trim ds, after', hcs, hds, h, ?_⟩
    simp only [List.mem_append, or_imp, forall_and]
    exact ⟨⟨⟨hbefore, hafter⟩, hbefore'⟩, hafter'⟩

end EventFeed.Text
