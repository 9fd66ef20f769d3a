import EventFeed.Proofs.Notification.Upkeep

/-!
# Updates that overlap

An update changes the log and counts its unread records while it has the log for itself, and stores
the number when others may have the log again. `Overlap` is a center with the numbers that are
counted and not stored. Where the number counted last is stored before an older one, the center
ends up with the older one. Where that does not happen, it shows the number of unread records
whenever all numbers are stored: this is `orderly_updates_agree`.
-/

namespace EventFeed.Notification

structure Overlap where
  center : Center
  /-- Counted and not yet stored, in the order in which the log was changed. -/
  counted : List Nat

namespace Overlap

/-- One half of an update. -/
inductive Step where
  | change (a : Action)
  /-- One of the updates under way stores its number. -/
  | store (k : Nat)

def step (s : Overlap) : Step → Overlap
  | .change a =>
    match a.change? with
    | none => s
    | some f =>
      { center := { s.center with log := f s.center.log }
        counted := s.counted ++ [(f s.center.log).unread] }
  | .store k =>
    match s.counted[k]? with
    | none => s
    | some count => { center := s.center.post count, counted := s.counted.eraseIdx k }

def play (capacity : Nat) (steps : List Step) : Overlap := steps.foldl step ⟨.empty capacity, []⟩

theorem play_concat (capacity : Nat) (steps : List Step) (x : Step) :
    play capacity (steps ++ [x]) = (play capacity steps).step x := by
  simp [play]

/-- The two halves without anything between them are what the center does on its own. -/
theorem step_change_store (c : Center) (a : Action) :
    let s := ((⟨c, []⟩ : Overlap).step (.change a)).step (.store 0)
    s.counted = [] ∧ s.center.log = (c.act a).1.log ∧ s.center.unread = (c.act a).1.unread := by
  cases h : a.change? with
  | none => simp [step, h, Center.act_of_none h]
  | some f => simp [step, h, Center.act_of_some h, Center.post]

/-- Whether the number counted last is stored while older ones are not. -/
def Overtakes (s : Overlap) : Step → Prop
  | .change _ => False
  | .store k => k ≠ 0 ∧ k + 1 = s.counted.length

def Orderly (capacity : Nat) (steps : List Step) : Prop :=
  ∀ first x rest, steps = first ++ x :: rest → ¬ (play capacity first).Overtakes x

theorem getLast?_eraseIdx {l : List Nat} {k : Nat} (h : k + 1 < l.length) :
    (l.eraseIdx k).getLast? = l.getLast? := by
  have hlength : (l.eraseIdx k).length = l.length - 1 := List.length_eraseIdx_of_lt (by omega)
  have hkeeps : ¬ l.length - 1 - 1 < k := by omega
  have hnext : l.length - 1 - 1 + 1 = l.length - 1 := by omega
  rw [List.getLast?_eq_getElem?, List.getLast?_eq_getElem?, hlength, List.getElem?_eraseIdx,
    if_neg hkeeps, hnext]

section Orderly

variable {capacity : Nat} {steps : List Step} {x : Step} {s : Overlap}

theorem Orderly.of_concat (h : Orderly capacity (steps ++ [x])) :
    Orderly capacity steps ∧ ¬ (play capacity steps).Overtakes x := by
  constructor
  · intro first y rest hsteps
    apply h first y (rest ++ [x])
    rw [hsteps, List.append_assoc, List.cons_append]
  · exact h steps x [] rfl

/-- Numbers that are stored in the order in which they are counted do not overtake one another. -/
theorem orderly_of_first (capacity : Nat) (h : ∀ k, .store k ∈ steps → k = 0) :
    Orderly capacity steps := by
  intro first x rest hsteps hovertakes
  cases x with
  | change a => exact hovertakes
  | store k =>
      apply hovertakes.1
      apply h k
      rw [hsteps]
      exact List.mem_append_right _ List.mem_cons_self

/-- The number counted last, stored or not, is that of the log as it is. -/
def Current (s : Overlap) : Prop :=
  s.counted.getLast?.getD s.center.unread.value = s.center.log.unread

theorem Current.step (h : s.Current) (hx : ¬ s.Overtakes x) : (s.step x).Current := by
  cases x with
  | change a =>
      cases hchange : a.change? with
      | none => simpa [Overlap.step, hchange] using h
      | some f => simp [Overlap.step, hchange, Current]
  | store k =>
      cases hcount : s.counted[k]? with
      | none => simpa [Overlap.step, hcount] using h
      | some count =>
          have hlt : k < s.counted.length := (List.getElem?_eq_some_iff.1 hcount).1
          by_cases hlast : k + 1 = s.counted.length
          · -- It is the number counted last, so no older one is left.
            have hk : k = 0 := by
              by_contra hk
              exact hx ⟨hk, hlast⟩
            obtain ⟨only, honly⟩ := List.length_eq_one_iff.1 (hlast.symm.trans (by rw [hk]))
            obtain rfl : only = count := by simpa [honly, hk] using hcount
            simpa [Overlap.step, honly, hk, Center.post, Current] using h
          · have hkept := getLast?_eraseIdx (l := s.counted) (k := k) (by omega)
            obtain ⟨last, hlatest⟩ : ∃ last, s.counted.getLast? = some last := by
              rw [← Option.isSome_iff_exists, List.getLast?_isSome]
              exact List.ne_nil_of_length_pos (by omega)
            rw [hlatest] at hkept
            rw [Current, hlatest] at h
            simpa [Overlap.step, hcount, Center.post, Current, hkept] using h

theorem current_play (h : Orderly capacity steps) : (play capacity steps).Current := by
  induction steps using List.reverseRecOn with
  | nil => rfl
  | append_singleton steps x ih =>
      obtain ⟨hsteps, hx⟩ := h.of_concat
      rw [play_concat]
      exact (ih hsteps).step hx

/-- A center whose updates overlap, but do not overtake one another, shows how many records are
unread as soon as all of them are through. An update that nothing overlaps is then what the center
does on its own. -/
theorem orderly_updates_agree (h : Orderly capacity steps)
    (hthrough : (play capacity steps).counted = []) :
    let c := (play capacity steps).center
    c.unread.value = c.log.unread ∧
      ∀ a, let s := play capacity (steps ++ [.change a, .store 0])
        s.counted = [] ∧ s.center.log = (c.act a).1.log ∧
          s.center.unread = (c.act a).1.unread := by
  intro c
  constructor
  · have hcurrent := current_play h
    rw [Current, hthrough] at hcurrent
    exact hcurrent
  · intro a s
    have hbefore : play capacity steps = ⟨c, []⟩ := by rw [← hthrough]
    have hafter : s = ((⟨c, []⟩ : Overlap).step (.change a)).step (.store 0) := by
      rw [← hbefore, ← play_concat, ← play_concat, List.append_assoc]
      rfl
    rw [hafter]
    exact step_change_store c a

/-- After two updates at once a third one has the log for itself. -/
theorem two_updates_at_once :
    let stamp : Stamp := ⟨"", ⟨2026, 1, 1, 0, 0, 0, 0⟩⟩
    let steps : List Step :=
      [.change (.bare stamp "notification"), .change (.bare stamp "notification"),
        .store 0, .store 0]
    (play 100 steps).center.unread.value = 2 ∧
      (play 100 (steps ++ [.change .markAllRead, .store 0])).center.unread.value = 0 := by
  intro stamp steps
  have hfirst : ∀ k, .store k ∈ steps → k = 0 := by simp [steps]
  obtain ⟨hagree, halone⟩ := orderly_updates_agree (orderly_of_first 100 hfirst) (by decide)
  rw [hagree, (halone .markAllRead).2.2]
  decide

/-- The number of the second update is stored first, and then the older one, which is the smaller
of the two and stays. -/
theorem overtaken_update_shows_too_few :
    let stamp : Stamp := ⟨"", ⟨2026, 1, 1, 0, 0, 0, 0⟩⟩
    let steps : List Step :=
      [.change (.bare stamp "notification"), .change (.bare stamp "notification"),
        .store 1, .store 0]
    (play 100 steps).counted = [] ∧ (play 100 steps).center.unread.value = 1 ∧
      (play 100 steps).center.log.unread = 2 := by
  decide

end Orderly

end Overlap

end EventFeed.Notification
