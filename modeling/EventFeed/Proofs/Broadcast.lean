import EventFeed.Broadcast
import Mathlib.Data.List.Basic
import Mathlib.Order.MinMax

/-!
# Receivers of a broadcast

`Holds` says which messages a broadcast has carried in all, of which it keeps the last ones. A
receiver `Follows` them: what it has got is a part of what lies before its position, in order, and
all of it as long as it has lost nothing. To receive everything at once is to receive one after the
other until there is nothing more.
-/

namespace EventFeed

/-- To keep the first elements of a list before another one is put in front changes nothing. -/
theorem take_cons_take {α : Type} (a : α) (l : List α) (n : Nat) :
    (a :: l.take n).take n = (a :: l).take n := by
  cases n with
  | zero => rfl
  | succ n =>
      rw [List.take_succ_cons, List.take_succ_cons, List.take_take, Nat.min_eq_left n.le_succ]

namespace Broadcast

variable {α : Type}

theorem size_foldl_send (b : Broadcast α) (news : List α) :
    (news.foldl Broadcast.send b).size = b.size := by
  induction news generalizing b with
  | nil => rfl
  | cons a news ih => exact ih (b.send a)

structure Holds (b : Broadcast α) (all : List α) : Prop where
  sent : b.sent = all.length
  kept : b.kept = all.reverse.take b.size
  size : 0 < b.size

namespace Holds

variable {b : Broadcast α} {all : List α} {position : Nat}

theorem empty (capacity : Nat) : Holds (Broadcast.empty capacity : Broadcast α) [] where
  sent := rfl
  kept := (List.take_nil).symm
  size := by
    obtain ⟨k, hk⟩ := Nat.isPowerOfTwo_nextPowerOfTwo (max capacity 1)
    rw [Broadcast.empty, hk]
    exact Nat.two_pow_pos k

theorem send (h : Holds b all) (a : α) : Holds (b.send a) (all ++ [a]) where
  sent := by rw [sent_send, h.sent, List.length_append, List.length_singleton]
  kept := by rw [size_send, Broadcast.send, h.kept, List.reverse_concat, take_cons_take]
  size := h.size

theorem foldl_send (h : Holds b all) (news : List α) :
    Holds (news.foldl Broadcast.send b) (all ++ news) := by
  induction news generalizing b all with
  | nil => rwa [List.append_nil]
  | cons a news ih =>
      have hsent := ih (h.send a)
      rwa [List.append_assoc] at hsent

theorem oldest_le (h : Holds b all) : b.oldest ≤ all.length := by
  rw [oldest, h.sent]
  exact Nat.sub_le _ _

theorem since_eq (h : Holds b all) (hkept : b.oldest ≤ position) :
    b.since position = all.drop position := by
  have hle : b.sent - position ≤ b.size := by
    rw [oldest] at hkept
    omega
  rw [since, h.kept, List.take_take, Nat.min_eq_left hle, h.sent, ← List.reverse_drop,
    List.reverse_reverse]

/-- What a receiver gets: a message, or that it has lost some, or nothing at the end. -/
theorem receive_cases (h : Holds b all) (hle : position ≤ all.length) :
    (position < b.oldest ∧
        b.receive position = (.lagged (b.oldest - position), b.oldest)) ∨
      (∃ a, b.oldest ≤ position ∧ all[position]? = some a ∧
        b.receive position = (.message a, position + 1)) ∨
      (position = all.length ∧ b.receive position = (.nothing, position)) := by
  by_cases hlost : position < b.oldest
  · exact Or.inl ⟨hlost, if_pos hlost⟩
  · have hkept : b.oldest ≤ position := by omega
    have hsince := h.since_eq hkept
    by_cases hend : position = all.length
    · have hnone : b.since position = [] := by rw [hsince, hend, List.drop_length]
      refine Or.inr (Or.inr ⟨hend, ?_⟩)
      rw [receive, if_neg hlost, hnone]
    · have hlt : position < all.length := by omega
      rw [List.drop_eq_getElem_cons hlt] at hsince
      refine Or.inr (Or.inl ⟨all[position], hkept, List.getElem?_eq_getElem hlt, ?_⟩)
      rw [receive, if_neg hlost, hsince]

theorem receive_advances (h : Holds b all) (hle : position ≤ all.length) {r : Received α}
    {next : Nat} (hreceive : b.receive position = (r, next)) (hr : r ≠ .nothing) :
    position < next ∧ next ≤ all.length := by
  rcases h.receive_cases hle with ⟨hlost, heq⟩ | ⟨a, -, ha, heq⟩ | ⟨-, heq⟩
  · cases heq.symm.trans hreceive
    exact ⟨hlost, h.oldest_le⟩
  · cases heq.symm.trans hreceive
    obtain ⟨hlt, -⟩ := List.getElem?_eq_some_iff.1 ha
    exact ⟨Nat.lt_succ_self _, hlt⟩
  · cases heq.symm.trans hreceive
    exact absurd rfl hr

theorem eq_length_of_nothing (h : Holds b all) (hle : position ≤ all.length) {next : Nat}
    (hreceive : b.receive position = (.nothing, next)) : position = all.length := by
  rcases h.receive_cases hle with ⟨-, heq⟩ | ⟨a, -, -, heq⟩ | ⟨hend, -⟩
  · cases heq.symm.trans hreceive
  · cases heq.symm.trans hreceive
  · exact hend

theorem receiveAll_of_kept (h : Holds b all) (hkept : b.oldest ≤ position)
    (hle : position ≤ all.length) :
    b.receiveAll position = ((all.drop position).map .message, all.length) := by
  have hlost : b.oldest - position = 0 := by omega
  rw [receiveAll, if_pos hlost, max_eq_left hkept, h.since_eq hkept, h.sent, max_eq_right hle]

theorem receiveAll_of_lost (h : Holds b all) (hlost : position < b.oldest) :
    b.receiveAll position =
      (.lagged (b.oldest - position) :: (b.receiveAll b.oldest).1,
        (b.receiveAll b.oldest).2) := by
  have hne : b.oldest - position ≠ 0 := by omega
  have hle : position ≤ all.length := hlost.le.trans h.oldest_le
  rw [h.receiveAll_of_kept le_rfl h.oldest_le, receiveAll, if_neg hne, max_eq_right hlost.le,
    h.since_eq le_rfl, h.sent, max_eq_right hle]

/-- What is received first, and then all that is received after it. -/
theorem receiveAll_cons (h : Holds b all) (hle : position ≤ all.length) {r : Received α}
    {next : Nat} (hreceive : b.receive position = (r, next)) (hr : r ≠ .nothing) :
    b.receiveAll position = (r :: (b.receiveAll next).1, (b.receiveAll next).2) := by
  rcases h.receive_cases hle with ⟨hlost, heq⟩ | ⟨a, hkept, ha, heq⟩ | ⟨-, heq⟩
  · cases heq.symm.trans hreceive
    exact h.receiveAll_of_lost hlost
  · cases heq.symm.trans hreceive
    obtain ⟨hlt, ha⟩ := List.getElem?_eq_some_iff.1 ha
    rw [h.receiveAll_of_kept hkept hle, h.receiveAll_of_kept (hkept.trans (Nat.le_succ _)) hlt,
      List.drop_eq_getElem_cons hlt, ha, List.map_cons]
  · cases heq.symm.trans hreceive
    exact absurd rfl hr

end Holds

/-- What a receiver has got when it is at a position. -/
structure Follows (all : List α) (position : Nat) (got : List α) (lossless : Prop) : Prop where
  within : position ≤ all.length
  sublist : got.Sublist (all.take position)
  complete : lossless → got = all.take position

namespace Follows

variable {all got : List α} {position : Nat} {lossless : Prop}

theorem start : Follows ([] : List α) 0 [] lossless :=
  ⟨le_rfl, .refl _, fun _ ↦ rfl⟩

theorem mono (h : Follows all position got lossless) {lossless' : Prop}
    (himp : lossless' → lossless) : Follows all position got lossless' :=
  ⟨h.within, h.sublist, fun hl ↦ h.complete (himp hl)⟩

theorem append (h : Follows all position got lossless) (more : List α) :
    Follows (all ++ more) position got lossless := by
  have htake : (all ++ more).take position = all.take position :=
    List.take_append_of_le_length h.within
  refine ⟨h.within.trans (by simp), ?_, ?_⟩
  · rw [htake]
    exact h.sublist
  · rw [htake]
    exact h.complete

theorem message (h : Follows all position got lossless) {a : α} (ha : all[position]? = some a) :
    Follows all (position + 1) (got ++ [a]) lossless := by
  obtain ⟨hlt, -⟩ := List.getElem?_eq_some_iff.1 ha
  have htake : all.take (position + 1) = all.take position ++ [a] := by
    rw [List.take_add_one, ha]
    rfl
  refine ⟨hlt, ?_, ?_⟩
  · rw [htake]
    exact h.sublist.append (.refl _)
  · intro hl
    rw [htake, h.complete hl]

theorem skip (h : Follows all position got lossless) {next : Nat} (hle : position ≤ next)
    (hnext : next ≤ all.length) : Follows all next got False :=
  ⟨hnext, h.sublist.trans (List.take_sublist_take_left hle), False.elim⟩

end Follows

end Broadcast

end EventFeed
