import Mathlib.Data.List.Basic

/-!
Lists without repetitions, in order of first appearance.
-/

namespace ClassNav

variable {α : Type} [BEq α] [LawfulBEq α]

theorem eraseDups_concat (items : List α) (item : α) :
    (items ++ [item]).eraseDups = items.eraseDups ++ if item ∈ items then [] else [item] := by
  rw [List.eraseDups_append]
  split
  next known => simp [List.removeAll, known]
  next unknown => simp [List.removeAll, unknown, List.eraseDups_cons]

theorem nodup_eraseDups (items : List α) : items.eraseDups.Nodup := by
  rw [← items.reverse_reverse]
  induction items.reverse with
  | nil => exact List.nodup_nil
  | cons item items ih =>
    rw [List.reverse_cons, eraseDups_concat]
    split
    next => simpa using ih
    next unknown =>
      refine List.nodup_append.2 ⟨ih, List.pairwise_singleton _ item, fun a listed b same => ?_⟩
      obtain rfl := List.mem_singleton.1 same
      rintro rfl
      exact unknown (List.mem_eraseDups.1 listed)

/-- What is listed once keeps the order in which it appeared first. -/
theorem pairwise_idxOf_eraseDups (items : List α) :
    items.eraseDups.Pairwise fun a b => items.idxOf a < items.idxOf b := by
  rw [← items.reverse_reverse]
  induction items.reverse with
  | nil => exact .nil
  | cons item items ih =>
    rw [List.reverse_cons, eraseDups_concat]
    have earlier {a : α} (known : a ∈ items.reverse.eraseDups) :
        (items.reverse ++ [item]).idxOf a = items.reverse.idxOf a :=
      List.idxOf_append_of_mem (List.mem_eraseDups.1 known)
    refine List.pairwise_append.2 ⟨?_, by split <;> simp, ?_⟩
    · refine ih.imp_of_mem fun listed listed' ordered => ?_
      rwa [earlier listed, earlier listed']
    · intro a listed b last
      split at last
      next => cases last
      next unknown =>
        obtain rfl := List.mem_singleton.1 last
        rw [earlier listed, List.idxOf_append_of_notMem unknown]
        have inside := List.idxOf_lt_length_of_mem (List.mem_eraseDups.1 listed)
        omega

/-- Of items in the order of their places, each value that is listed once has a place before all places of
the values behind it. -/
theorem pairwise_eraseDups_of_sorted {β : Type} {earlier : β → β → Prop} {items : List (β × α)}
    (sorted : items.Pairwise fun one next => earlier one.1 next.1) :
    (items.map (·.2)).eraseDups.Pairwise fun a b =>
      ∃ place, (place, a) ∈ items ∧ ∀ other, (other, b) ∈ items → earlier place other := by
  refine (pairwise_idxOf_eraseDups _).imp_of_mem fun {a b} listed listed' ordered => ?_
  have inside := List.idxOf_lt_length_of_mem (List.mem_eraseDups.1 listed)
  have here := List.getElem_idxOf inside
  rw [List.getElem_map] at here
  rw [List.length_map] at inside
  rcases first : items[(items.map (·.2)).idxOf a] with ⟨place, value⟩
  obtain rfl : value = a := by simpa [first] using here
  refine ⟨place, first ▸ List.getElem_mem inside, fun other found => ?_⟩
  obtain ⟨j, within, there⟩ := List.mem_iff_getElem.1 found
  have behind : (items.map (·.2)).idxOf b ≤ j := by
    refine Nat.le_of_not_lt fun before => ?_
    have differs := List.not_of_lt_findIdx before
    simp [there] at differs
  have later := List.pairwise_iff_getElem.1 sorted _ j inside within (by omega)
  rwa [first, there] at later

theorem eraseDups_filter (p : α → Bool) (items : List α) :
    (items.filter p).eraseDups = items.eraseDups.filter p := by
  rw [← items.reverse_reverse]
  induction items.reverse with
  | nil => rfl
  | cons item items ih =>
    rw [List.reverse_cons, List.filter_append, eraseDups_concat, List.filter_append, ← ih]
    by_cases kept : p item = true
    · rw [List.filter_cons_of_pos kept, List.filter_nil, eraseDups_concat]
      by_cases known : item ∈ items <;> simp [known, kept]
    · rw [List.filter_cons_of_neg kept, List.filter_nil, List.append_nil]
      by_cases known : item ∈ items <;> simp [known, kept]

/-- A list behind another adds what is not listed yet. -/
theorem eraseDups_append_filter (items more : List α) :
    (items ++ more).eraseDups =
      items.eraseDups ++ more.eraseDups.filter fun item => item ∉ items.eraseDups := by
  rw [List.eraseDups_append, List.removeAll, eraseDups_filter]
  congr 2
  funext item
  simp

end ClassNav
