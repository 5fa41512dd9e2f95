import ClassNav.Document.Import

/-!
All imports of a text, in order. Each search begins where the import before it ended.
-/

namespace ClassNav.Import

open Character

theorem skipBlanks?_suffix {t r : Text} (h : skipBlanks? t = some r) : r <:+ t := by
  unfold skipBlanks? at h
  split at h
  · split at h
    · rw [← Option.some.inj h]; exact List.dropWhile_suffix _
    · simp at h
  · simp at h

theorem stripPrefix?_suffix {lead t r : Text} (h : Text.stripPrefix? lead t = some r) : r <:+ t := by
  induction lead generalizing t with
  | nil =>
    cases t <;> exact Option.some.inj h ▸ List.suffix_rfl
  | cons c lead ih =>
    cases t with
    | nil => cases h
    | cons d t =>
      change (if c == d then Text.stripPrefix? lead t else none) = some r at h
      split at h
      · exact (ih h).trans (List.suffix_cons d t)
      · cases h

theorem stripPrefix?_getD_suffix (lead t : Text) : (Text.stripPrefix? lead t).getD t <:+ t := by
  cases h : Text.stripPrefix? lead t with
  | none => exact List.suffix_rfl
  | some r => exact stripPrefix?_suffix h

theorem skipKeyword?_suffix {t r : Text} (h : skipKeyword? t = some r) : r <:+ t := by
  unfold skipKeyword? at h
  split at h
  next rest found => exact (skipBlanks?_suffix h).trans (stripPrefix?_suffix found)
  next =>
    obtain ⟨a, ha, h⟩ := Option.bind_eq_some_iff.1 h
    obtain ⟨b, hb, h⟩ := Option.bind_eq_some_iff.1 h
    obtain ⟨c, hc, h⟩ := Option.bind_eq_some_iff.1 h
    exact (stripPrefix?_suffix h).trans <| (stripPrefix?_getD_suffix _ _).trans <|
      (stripPrefix?_suffix hc).trans <| (skipBlanks?_suffix hb).trans (stripPrefix?_suffix ha)

theorem closing?_suffix {t r : Text} (h : closing? t = some r) : r <:+ t := by
  unfold closing? at h
  split at h
  next a b q rest =>
    split at h
    · rw [← Option.some.inj h]; exact ⟨[a, b, q], rfl⟩
    · simp at h
  next => simp at h

theorem extension?_suffix {t name r : Text} (h : extension? t = some (name, r)) : r <:+ t := by
  unfold extension? at h
  split at h
  next dot a rest =>
    have tail : rest <:+ dot :: a :: rest := ⟨[dot, a], rfl⟩
    split at h
    · split at h
      next after closed =>
        obtain ⟨-, rfl⟩ := Prod.mk.inj (Option.some.inj h)
        exact (closing?_suffix closed).trans tail
      next =>
        split at h
        next =>
          split at h
          · obtain ⟨after, closed, he⟩ := Option.map_eq_some_iff.1 h
            obtain ⟨-, rfl⟩ := Prod.mk.inj he
            exact (closing?_suffix closed).trans ⟨[dot, a, _], rfl⟩
          · simp at h
        next => simp at h
    · simp at h
  next => simp at h

theorem lastExtension?_suffix {t name r : Text} (h : lastExtension? t = some (name, r)) :
    r <:+ t := by
  fun_induction lastExtension? t generalizing name with
  | case1 => simp at h
  | case2 => simp at h
  | case3 c t _ name' after found ih =>
    obtain ⟨-, rfl⟩ := Prod.mk.inj (Option.some.inj h)
    exact (ih found).trans (List.suffix_cons _ _)
  | case4 => exact extension?_suffix h

theorem stylesheetName?_suffix {t name r : Text} (h : stylesheetName? t = some (name, r)) :
    r <:+ t := by
  unfold stylesheetName? at h
  split at h
  next => simp at h
  next c rest =>
    split at h
    · simp at h
    · obtain ⟨⟨name', after⟩, found, he⟩ := Option.map_eq_some_iff.1 h
      obtain ⟨-, rfl⟩ := Prod.mk.inj he
      exact (lastExtension?_suffix found).trans (List.suffix_cons _ _)

theorem afterKey?_suffix {t name r : Text} (h : afterKey? t = some (name, r)) : r <:+ t := by
  obtain ⟨a, ha, h⟩ := Option.bind_eq_some_iff.1 h
  obtain ⟨b, hb, h⟩ := Option.bind_eq_some_iff.1 h
  split at h
  next q rest =>
    split at h
    · obtain ⟨⟨name', after⟩, found, he⟩ := Option.map_eq_some_iff.1 h
      obtain ⟨-, rfl⟩ := Prod.mk.inj he
      exact (stripPrefix?_getD_suffix _ _).trans <| (stylesheetName?_suffix found).trans <|
        (List.suffix_cons _ _).trans <| (skipKeyword?_suffix hb).trans (skipBlanks?_suffix ha)
    · simp at h
  next => simp at h

theorem here?_length {t r : Text} {i : Import} (h : here? t = some (i, r)) :
    r.length < t.length := by
  simp only [here?] at h
  split at h
  next => simp at h
  next nonempty =>
    obtain ⟨⟨name, after⟩, found, he⟩ := Option.map_eq_some_iff.1 h
    obtain ⟨-, rfl⟩ := Prod.mk.inj he
    have shorter := (afterKey?_suffix found).length_le
    have whole := congrArg List.length
      (List.takeWhile_append_dropWhile (p := fun c => !isBlank c) (l := t))
    have positive : 0 < (t.takeWhile fun c => !isBlank c).length := by
      simpa [List.length_pos_iff] using nonempty
    simp only [List.length_append] at whole
    show after.length < t.length
    omega

theorem first?_length {t r : Text} {i : Import} (h : first? t = some (i, r)) :
    r.length < t.length := by
  fun_induction first? t with
  | case1 => simp at h
  | case2 c t found hfound =>
    rw [Option.some.inj h] at hfound
    exact here?_length hfound
  | case3 c t _ ih => exact Nat.lt_succ_of_lt (ih h)

/-- Every import, whatever its key. -/
def anyKey (t : Text) : List Import :=
  match _found : first? t with
  | none => []
  | some (i, rest) => i :: anyKey rest
termination_by t.length
decreasing_by exact first?_length _found

/-- The imports that bind a name; a key such as the closing brace of a list binds none. -/
def all (t : Text) : List Import := (anyKey t).filter fun i => isIdentifier i.binding

end ClassNav.Import
