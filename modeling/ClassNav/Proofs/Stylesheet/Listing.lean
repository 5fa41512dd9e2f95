import ClassNav.Proofs.Stylesheet.Search

/-!
Which names a stylesheet is listed with, and in which order: those it declares, by the line and the offset
of the dot before each one's first declaration.
-/

namespace ClassNav.Stylesheet

/-- A stylesheet declares a name behind the dot at an offset of a line. -/
def DeclaredAt (content name : Text) (line offset : Nat) : Prop :=
  ∃ whole, (Text.lines content)[line]? = some whole ∧ DeclaresAt whole name offset

/-- Declared names behind the places of their dots, line and offset. -/
def declaredPlaces (content : Text) : List ((Nat × Nat) × Text) :=
  (Text.lines content).zipIdx.flatMap fun (whole, line) =>
    (dottedPlaces 0 (selectorPart whole)).map fun (offset, name) => ((line, offset), name)

theorem mem_declaredPlaces_iff {content name : Text} {line offset : Nat} :
    ((line, offset), name) ∈ declaredPlaces content ↔ DeclaredAt content name line offset := by
  simp only [declaredPlaces, DeclaredAt, List.mem_flatMap, List.mem_map, Prod.exists, Prod.mk.injEq,
    List.mk_mem_zipIdx_iff_getElem?, declaresAt_iff_mem_dottedPlaces]
  constructor
  · rintro ⟨whole, _, here, _, _, found, ⟨rfl, rfl⟩, rfl⟩
    exact ⟨whole, here, found⟩
  · rintro ⟨whole, here, found⟩
    exact ⟨whole, line, here, offset, name, found, ⟨rfl, rfl⟩, rfl⟩

/-- On an earlier line, or before on the same line. -/
def Earlier (one next : Nat × Nat) : Prop := one.1 < next.1 ∨ one.1 = next.1 ∧ one.2 < next.2

theorem pairwise_declaredPlaces (content : Text) :
    (declaredPlaces content).Pairwise fun one next => Earlier one.1 next.1 := by
  refine List.pairwise_flatMap.2 ⟨fun (whole, line) _ => ?_, ?_⟩
  · refine List.pairwise_map.2 ((pairwise_dottedPlaces 0 _).imp ?_)
    exact fun ordered => .inr ⟨rfl, ordered⟩
  · have numbered : (Text.lines content).zipIdx.Pairwise fun one next => one.2 < next.2 := by
      rw [← List.pairwise_map (f := Prod.snd) (R := (· < ·)), List.zipIdx_map_snd]
      exact List.pairwise_lt_range' 1
    refine numbered.imp fun {one next} ordered first listed second listed' => ?_
    obtain ⟨_, -, rfl⟩ := List.mem_map.1 listed
    obtain ⟨_, -, rfl⟩ := List.mem_map.1 listed'
    exact .inl ordered

theorem map_declaredPlaces (content : Text) :
    (declaredPlaces content).map (·.2) =
      (Text.lines content).flatMap fun whole => dottedNames (selectorPart whole) := by
  conv_rhs => rw [← List.zipIdx_map_fst 0 (Text.lines content), List.flatMap_map]
  rw [declaredPlaces, List.map_flatMap]
  congr 1
  funext ⟨whole, line⟩
  rw [List.map_map, ← map_dottedPlaces 0]
  rfl

theorem classNames_eq_eraseDups (content : Text) :
    classNames content = ((declaredPlaces content).map (·.2)).eraseDups := by
  rw [map_declaredPlaces, classNames]

theorem mem_classNames_iff_declaredAt {content name : Text} :
    name ∈ classNames content ↔ ∃ line offset, DeclaredAt content name line offset := by
  simp only [classNames_eq_eraseDups, List.mem_eraseDups, List.mem_map, Prod.exists,
    mem_declaredPlaces_iff, exists_eq_right]

/-- The names come by the place where each is declared first. -/
theorem pairwise_classNames (content : Text) :
    (classNames content).Pairwise fun a b => ∃ line offset, DeclaredAt content a line offset ∧
      ∀ line' offset', DeclaredAt content b line' offset' → Earlier (line, offset) (line', offset') := by
  rw [classNames_eq_eraseDups]
  refine (pairwise_eraseDups_of_sorted (pairwise_declaredPlaces content)).imp ?_
  rintro a b ⟨⟨line, offset⟩, first, before⟩
  refine ⟨line, offset, mem_declaredPlaces_iff.1 first, fun line' offset' declared => ?_⟩
  exact before _ (mem_declaredPlaces_iff.2 declared)

/-- Lines behind a stylesheet add the names that it has not declared. -/
theorem classNames_append_newline (content more : Text) :
    classNames (content ++ '\n' :: more) =
      classNames content ++ (classNames more).filter (· ∉ classNames content) := by
  rw [classNames, Text.lines_append_newline, List.flatMap_append, eraseDups_append_filter]
  rfl

/-- **The listed names are exactly the declared ones.** A name is listed if it contains the part asked for
and some line declares it, once, and by its first place. Asking for a part leaves the order as it is, and
so does searching the whole text instead of its lines. Lines that follow add at the end what they declare
first. -/
theorem listing_exact (content part : Text) :
    (∀ name, name ∈ classNamesWith content part ↔
      part <:+: name ∧ ∃ line offset, DeclaredAt content name line offset) ∧
    (classNamesWith content part).Nodup ∧
    ((classNamesWith content part).Pairwise fun a b => ∃ line offset,
      DeclaredAt content a line offset ∧ ∀ line' offset', DeclaredAt content b line' offset' →
        line < line' ∨ line = line' ∧ offset < offset') ∧
    classNamesWith content part =
      (classNamesWith content []).filter (fun name => Text.contains name part) ∧
    search content part = classNamesWith content part ∧
    ∀ more, classNamesWith (content ++ '\n' :: more) [] =
      classNamesWith content [] ++
        (classNamesWith more []).filter (· ∉ classNamesWith content []) := by
  refine ⟨fun name => ?_, ?_, ?_, ?_, search_eq content part, fun more => ?_⟩
  · rw [classNamesWith, List.mem_filter, Text.contains_iff, mem_classNames_iff_declaredAt, and_comm]
  · exact (nodup_eraseDups _).filter _
  · exact (pairwise_classNames content).filter _
  · rw [classNamesWith_nil, classNamesWith]
  · simp only [classNamesWith_nil, classNames_append_newline]

/-- What follows the last brace of a line is not listed, and a number is. -/
theorem listing_exact_of_two_lines :
    classNamesWith (".b, .a \x7b .c".toList ++ '\n' :: ".a .5,".toList) [] =
        ["b".toList, "a".toList, "5".toList] ∧
      (∃ line offset, DeclaredAt (".b, .a \x7b .c".toList ++ '\n' :: ".a .5,".toList) "5" line offset) ∧
      search ".b, .a \x7b .c" "a" = ["a".toList] := by
  obtain ⟨-, -, -, -, -, behind⟩ := listing_exact ".b, .a \x7b .c" []
  obtain ⟨-, -, -, -, searched, -⟩ := listing_exact ".b, .a \x7b .c" "a"
  obtain ⟨exact, -⟩ := listing_exact (".b, .a \x7b .c".toList ++ '\n' :: ".a .5,".toList) []
  have names : classNamesWith (".b, .a \x7b .c".toList ++ '\n' :: ".a .5,".toList) [] =
      ["b".toList, "a".toList, "5".toList] := (behind ".a .5,").trans (by decide)
  refine ⟨names, ((exact "5").1 ?_).2, searched.trans (by decide)⟩
  rw [names]
  decide

end ClassNav.Stylesheet
