import ClassNav.Proofs.Command.Reply
import ClassNav.Proofs.Settings.Written

/-!
Layers on one another, and settings that come back: what a command shows of them as JSON is a layer that makes
them again, and so is a settings file with that text, unless an extension holds a character that YAML refuses or
folds.
-/

namespace ClassNav

theorem Layer.onto_self (l : Layer) : l.onto l = l := by
  obtain ⟨_ | _, _ | _, _ | _⟩ := l <;> rfl

namespace Settings

theorem apply_apply (s : Settings) (f g : Layer) : (s.apply f).apply g = s.apply (g.onto f) := by
  obtain ⟨_ | _, _ | _, _ | _⟩ := g <;> rfl

theorem apply_again (s : Settings) (f : Layer) : (s.apply f).apply f = s.apply f := by
  rw [apply_apply, f.onto_self]

/-- Extensions are listed without dots in front. -/
def Bare (s : Settings) : Prop := ∀ e ∈ s.documentExtensions, bareExtension e = e

theorem apply_layer {s : Settings} (bare : s.Bare) (other : Settings) : other.apply s.layer = s := by
  obtain ⟨policy, delay, extensions⟩ := s
  simp only [apply, layer, Option.getD_some, Option.map_some, Settings.mk.injEq, true_and]
  exact (List.map_congr_left bare).trans (List.map_id' extensions)

theorem bare_of_merged {lower upper : Layer} {s : Settings} (merged : Merged lower upper s) : s.Bare := by
  rw [Bare, merged.documentExtensions]
  cases upper.documentExtensions.or lower.documentExtensions with
  | none => decide
  | some listed =>
    refine List.forall_mem_map.2 fun e _ => ?_
    exact List.dropWhile_idempotent _ _

theorem eq_apply_of_merged {lower upper : Layer} {s : Settings} (merged : Merged lower upper s) :
    s = (default.apply lower).apply upper := by
  have same := merged_apply lower upper
  cases s
  exact Settings.mk.injEq .. ▸ ⟨merged.camelCase.trans same.camelCase.symm,
    merged.debounceMs.trans same.debounceMs.symm, merged.documentExtensions.trans same.documentExtensions.symm⟩

/-- Layers that set everything between them leave nothing to the defaults. -/
theorem eq_of_merged {lower upper : Layer} {s r : Settings} (whole : upper.onto lower = s.layer)
    (bare : s.Bare) (merged : Merged lower upper r) : r = s := by
  rw [eq_apply_of_merged merged, apply_apply, whole, apply_layer bare]

section
variable {complaint : Text → Text} {store : Store} {global : Option Path} {dir : Path} {resolved : Resolved}

/-- Settings that were loaded are made of two layers, and they have a delay. -/
theorem merged_of_load (loaded : (load complaint store global dir).value = .ok resolved) :
    ∃ lower upper, Merged lower upper resolved.settings ∧ upper.debounceMs.or lower.debounceMs ≠ some 0 := by
  have layered := layered_load complaint store global dir
  rw [loaded] at layered
  obtain unusable | unusable | ⟨lower, upper, sets, sets'⟩ := layered.covered
  · obtain ⟨detail, failed⟩ := layered.globalFails.2 unusable
    cases failed
  · by_cases unusable' : ∃ p, global = some p ∧ Unusable store p
    · obtain ⟨detail, failed⟩ := layered.globalFails.2 unusable'
      cases failed
    · obtain ⟨detail, failed⟩ := layered.projectFails.2 ⟨unusable', unusable⟩
      cases failed
  · by_cases stuck : upper.debounceMs.or lower.debounceMs = some 0
    · obtain ⟨problem, hint, failed⟩ := layered.valueFails.2 ⟨lower, upper, sets, sets', stuck⟩
      cases failed
    · obtain ⟨same, ⟨rfl⟩, merged⟩ := layered.succeeds lower upper sets sets' stuck
      exact ⟨lower, upper, merged, stuck⟩

theorem delay_of_load (loaded : (load complaint store global dir).value = .ok resolved) :
    resolved.settings.debounceMs ≠ 0 := by
  obtain ⟨lower, upper, merged, delayed⟩ := merged_of_load loaded
  rw [merged.debounceMs]
  cases set : upper.debounceMs.or lower.debounceMs with
  | none => decide
  | some delay => simpa [set] using delayed

end

/-- A settings file with the settings as JSON makes them again, whether it is the only one or the one of the
project. -/
structure FedBack (s : Settings) (store : Store) (file : Path) : Prop where
  alone : ∀ complaint dir, Governs store none dir →
    ∃ r, (load complaint store (some file) dir).value = .ok r ∧ r.settings = s
  overGlobal : ∀ complaint global dir, (¬∃ p, global = some p ∧ Unusable store p) →
    Governs store (some file) dir →
    ∃ r, (load complaint store global dir).value = .ok r ∧ r.settings = s

theorem fedBack_of_sets {s : Settings} (bare : s.Bare) (delayed : s.debounceMs ≠ 0) {store : Store}
    {file : Path} (sets : Sets store file s.layer) : FedBack s store file where
  alone complaint dir governs := by
    obtain ⟨r, loaded, merged⟩ := (layered_load complaint store (some file) dir).succeeds s.layer .empty
      (.file sets) (.free governs) (by simpa [layer, Layer.empty] using delayed)
    exact ⟨r, loaded, eq_of_merged rfl bare merged⟩
  overGlobal complaint global dir usable governs := by
    obtain ⟨lower, -, -, read⟩ | ⟨detail, -, unusable, -⟩ := readGlobal_cases complaint store global
    · obtain ⟨r, loaded, merged⟩ := (layered_load complaint store global dir).succeeds _ s.layer
        ((read _).2 rfl) (.governed governs sets) (by simpa [layer] using delayed)
      exact ⟨r, loaded, eq_of_merged rfl bare merged⟩
    · exact absurd unusable usable

/-- A text is JSON for the layer. -/
def Writes (t : Text) (l : Layer) : Prop := ∃ j, Json.parse? t = some j ∧ Layer.ofJson? j = .ok l

theorem writes_of_spells {l : Layer} {t : Text} (spells : Json.Spells t l.toJson) : Writes t l := by
  have read := Json.parse?_of_spells [] [] (by simp [Json.IsGap]) spells
    (by simp [Json.IsGap]) l.fits_toJson
  exact ⟨l.toJson, by simpa using read, l.ofJson?_toJson⟩

theorem fits_resolved (r : Resolved) : Json.Fits 127 r.toJson := by
  have source (s : Source) : Json.Fits 125 s.toJson := by
    refine .object ?_
    simp only [List.forall_mem_cons, List.not_mem_nil, false_implies, implies_true, and_true]
    exact ⟨.string _, .string _, .bool _⟩
  refine .object ?_
  simp only [List.forall_mem_cons, List.not_mem_nil, false_implies, implies_true, and_true]
  exact ⟨r.settings.layer.fits_toJson, .array (List.forall_mem_map.2 fun s _ => source s),
    Json.fits_strings r.warnings⟩

theorem filled_render (s : Settings) (depth : Nat) : ¬Text.IsBlank (Json.render depth s.toJson) := by
  refine filled_of_head (c := '\x7b') ?_ rfl
  rw [toJson, Json.render, Json.bracket]
  split <;> rfl

theorem sets_of_kept {s : Settings} (kept : ∀ e ∈ s.documentExtensions, Yaml.Kept e) {store : Store}
    {file : Path} {depth : Nat} (held : store.readText file = .ok (Json.render depth s.toJson)) :
    Sets store file s.layer :=
  .written held (filled_render s depth) (ofYaml?_render kept depth)

/-- The settings are shown one level deep. -/
theorem infix_shown (r : Resolved) : Json.render 1 r.settings.toJson <:+: asLine (Json.print r.toJson) :=
  (Json.infix_field _ (List.mem_cons_self ..) 0).trans (List.prefix_append ..).isInfix

/-- What a layer gives back of settings that were loaded, and what becomes of them as a settings file. -/
structure Returns (r : Resolved) (back : Layer) : Prop where
  shown : ∀ style foreign store, (∀ s ∈ r.sources, foreign s.path = false) → ∃ text,
    Command.answer style foreign r store (.showConfig true) = ([], pure (.ok (text, store))) ∧
    Json.render 1 r.settings.toJson <:+: text ∧
    ∃ whole part, Json.parse? text = some whole ∧ whole.field? "config" = some part ∧
      Layer.ofJson? part = .ok back
  written : ∀ t, Json.Spells t r.settings.toJson → Writes t back
  applied : ∀ other : Settings, other.apply back = r.settings
  kept : (∀ e ∈ r.settings.documentExtensions, Yaml.Kept e) →
    ∀ store file depth, store.readText file = .ok (Json.render depth r.settings.toJson) →
      FedBack r.settings store file
  refused : (∃ e ∈ r.settings.documentExtensions, ∃ c ∈ e, 0x20 ≤ c.toNat ∧ Yaml.isPrintable c = false) →
    ∀ complaint store file dir depth, store.readText file = .ok (Json.render depth r.settings.toJson) →
      ∃ detail, (load complaint store (some file) dir).value = .error (.invalidGlobalSettings detail)

theorem returns_of_load {complaint : Text → Text} {store : Store} {global : Option Path} {dir : Path}
    {r : Resolved} (loaded : (load complaint store global dir).value = .ok r) :
    Returns r r.settings.layer := by
  obtain ⟨lower, upper, merged, -⟩ := merged_of_load loaded
  have bare := bare_of_merged merged
  constructor
  case shown =>
    intro style foreign store plain
    have read := Json.parse?_of_spells [] ['\n'] (by simp [Json.IsGap])
      (Json.spells_print (fits_resolved r).whole) (by simp [Json.IsGap]) (fits_resolved r)
    have printed := Command.json_of_printable (List.forall_mem_map.2 plain) r.toJson
    refine ⟨asLine (Json.print r.toJson), ?_, infix_shown r, r.toJson, r.settings.toJson,
      by simpa [asLine] using read, rfl, r.settings.layer.ofJson?_toJson⟩
    rw [Command.answer, Command.reply, if_pos rfl, printed]
    rfl
  case written => exact fun t spells => writes_of_spells (toJson_layer r.settings ▸ spells)
  case applied => exact apply_layer bare
  case kept =>
    exact fun kept store file depth held =>
      fedBack_of_sets bare (delay_of_load loaded) (sets_of_kept kept held)
  case refused =>
    rintro ⟨e, listed, c, found, visible, refused⟩ complaint store file dir depth held
    exact (layered_load complaint store (some file) dir).globalFails.2 ⟨file, rfl,
      .malformed held (filled_render _ depth) (ofYaml?_render_of_refused listed found visible refused depth)⟩

/-- The global file is the only one. -/
theorem load_of_sets (complaint : Text → Text) {store : Store} {file dir : Path} (layer : Layer)
    (sets : Sets store file layer) (governs : Governs store none dir) (delayed : layer.debounceMs ≠ some 0) :
    ∃ r, (load complaint store (some file) dir).value = .ok r ∧ r.settings = default.apply layer := by
  obtain ⟨r, loaded, merged⟩ := (layered_load complaint store (some file) dir).succeeds layer .empty
    (.file sets) (.free governs) delayed
  exact ⟨r, loaded, eq_apply_of_merged merged⟩

/-- **Layers add up, and settings come back.** One layer after another is the one over the other, and the same
layer again changes nothing. Every layer is read back from its JSON, and the settings that a command shows are
made again by the layer that their JSON is, on top of any others. As a settings file they come back too, unless
an extension has a character that YAML refuses, and then the file is, or one that YAML folds: a next-line
character, or a separator of lines beside a blank or before what may be a marker of documents. -/
theorem layers_compose_and_roundtrip :
    (∀ (s : Settings) (f g : Layer), (s.apply f).apply g = s.apply (g.onto f)) ∧
    (∀ (s : Settings) (f : Layer), (s.apply f).apply f = s.apply f) ∧
    (∀ f : Layer, Json.Spells (Json.print f.toJson) f.toJson ∧ ∀ t, Json.Spells t f.toJson → Writes t f) ∧
    ∀ complaint store global dir r, (load complaint store global dir).value = .ok r →
      ∃ back, Returns r back :=
  ⟨apply_apply, apply_again,
    fun f => ⟨Json.spells_print (f.fits_toJson (n := 0)).whole, fun _ => writes_of_spells⟩,
    fun _ _ _ _ r loaded => ⟨r.settings.layer, returns_of_load loaded⟩⟩

/-- One file of two has only a delay, the other dots to drop and another spelling of the policy. -/
theorem layers_compose_and_roundtrip_of_both :
    let complaint : Text → Text := fun _ => "did not find expected node content"
    let shown : Settings := ⟨.dashesOnly, 20, ["ts", "d.ts"]⟩
    let refused : Settings := ⟨.off, 500, ["a\x7f"]⟩
    let store : Store := ⟨⟨"/p"⟩, [(["p"], .directory),
      (["p", ".stylelink.yaml"], .file (Text.encode "documentExtensions: [..ts, .d.ts]\ncamelCase: Dashes")),
      (["g.yaml"], .file (Text.encode "debounceMs: 20")),
      (["shown.yaml"], .file (Text.encode (Json.render 1 shown.toJson))),
      (["escaped.yaml"], .file (Text.encode "documentExtensions: [\"a\\x7f\"]")),
      (["refused.yaml"], .file (Text.encode (Json.print refused.toJson)))]⟩
    Writes (Json.print (Layer.toJson ⟨none, some 20, none⟩)) ⟨none, some 20, none⟩ ∧
    (∃ r back, (load complaint store (some ⟨"/g.yaml"⟩) store.cwd).value = .ok r ∧ r.settings = shown ∧
      Returns r back ∧
      Writes (Json.print r.settings.toJson) back ∧ FedBack r.settings store ⟨"/shown.yaml"⟩) ∧
    ∃ detail, (load complaint store (some ⟨"/refused.yaml"⟩) ⟨"/"⟩).value =
      .error (.invalidGlobalSettings detail) := by
  intro complaint shown refused store
  obtain ⟨-, -, layers, returns⟩ := layers_compose_and_roundtrip
  obtain ⟨spells, reads⟩ := layers ⟨none, some 20, none⟩
  refine ⟨reads _ spells, ?_, ?_⟩
  · let project : Path := Path.join ⟨"/p"⟩ projectFileName
    have delay : store.readText ⟨"/g.yaml"⟩ = .ok ("debounceMs: 20" : Text) := by decide +kernel
    have others : store.readText project =
        .ok ("documentExtensions: [..ts, .d.ts]\ncamelCase: Dashes" : Text) := by decide +kernel
    have held : store.readText ⟨"/shown.yaml"⟩ = .ok (Json.render 1 shown.toJson) := by decide +kernel
    have governs : Governs store (some project) store.cwd := .here (by decide +kernel)
    obtain ⟨r, loaded, merged⟩ := (layered_load complaint store (some ⟨"/g.yaml"⟩) store.cwd).succeeds
      ⟨none, some 20, none⟩ ⟨some .dashesOnly, none, some ["..ts", ".d.ts"]⟩
      (.file (.written delay (filled_of_head rfl rfl) (by decide +kernel)))
      (.governed governs (.written others (filled_of_head rfl rfl) (by decide +kernel))) (by decide)
    have same : r.settings = shown := eq_apply_of_merged merged
    obtain ⟨back, returned⟩ := returns complaint store _ store.cwd r loaded
    refine ⟨r, back, loaded, same, returned,
      returned.written _ (Json.spells_print (r.settings.layer.fits_toJson (n := 0)).whole),
      returned.kept ?_ store ⟨"/shown.yaml"⟩ 1 ?_⟩
    · rw [same]
      intro e listed
      simp only [shown, List.mem_cons, List.not_mem_nil, or_false] at listed
      obtain rfl | rfl := listed <;> exact .of_carried (List.all_iff_forall_prop.1 (by decide))
    · rw [same]
      exact held
  · have escaped : store.readText ⟨"/escaped.yaml"⟩ = .ok ("documentExtensions: [\"a\\x7f\"]" : Text) := by
      decide +kernel
    have held : store.readText ⟨"/refused.yaml"⟩ = .ok (Json.print refused.toJson) := by decide +kernel
    have top : Governs store none ⟨"/"⟩ := .nowhere (by decide +kernel) (by decide +kernel)
    obtain ⟨r, loaded, same⟩ := load_of_sets complaint ⟨none, none, some ["a\x7f"]⟩
      (.written escaped (filled_of_head rfl rfl) (by decide +kernel)) top (by decide)
    have same : r.settings = refused := same
    obtain ⟨back, returned⟩ := returns complaint store _ ⟨"/"⟩ r loaded
    refine returned.refused ?_ complaint store ⟨"/refused.yaml"⟩ ⟨"/"⟩ 0 ?_
    · rw [same]
      exact ⟨_, List.mem_singleton_self _, '\x7f', by decide⟩
    · rw [same]
      exact held

/-- An extension may be written with an escape. JSON does not escape it, and without one YAML refuses a delete
character and folds a next-line character to a blank. -/
theorem shown_settings_refused_or_folded :
    let complaint : Text → Text := fun _ => "control characters are not allowed"
    let refused : Settings := ⟨.off, 500, ["a\x7f"]⟩
    let folded : Settings := ⟨.off, 500, ["a\x85b"]⟩
    let store : Store := ⟨⟨"/"⟩, [
      (["first.yaml"], .file (Text.encode "documentExtensions: [\"a\\x7f\"]")),
      (["second.yaml"], .file (Text.encode "documentExtensions: [\"a\\Nb\"]")),
      (["refused.yaml"], .file (Text.encode (Json.print refused.toJson))),
      (["folded.yaml"], .file (Text.encode (Json.print folded.toJson)))]⟩
    ((∃ r, (load complaint store (some ⟨"/first.yaml"⟩) store.cwd).value = .ok r ∧ r.settings = refused) ∧
      ¬FedBack refused store ⟨"/refused.yaml"⟩) ∧
    (∃ r, (load complaint store (some ⟨"/second.yaml"⟩) store.cwd).value = .ok r ∧ r.settings = folded) ∧
      ¬FedBack folded store ⟨"/folded.yaml"⟩ := by
  intro complaint refused folded store
  have top : Governs store none store.cwd := .nowhere (by decide +kernel) (by decide +kernel)
  refine ⟨⟨?_, fun back => ?_⟩, ?_, fun back => ?_⟩
  · have held : store.readText ⟨"/first.yaml"⟩ = .ok ("documentExtensions: [\"a\\x7f\"]" : Text) := by
      decide +kernel
    exact load_of_sets complaint ⟨none, none, some ["a\x7f"]⟩
      (.written held (filled_of_head rfl rfl) (by decide +kernel)) top (by decide)
  · have held : store.readText ⟨"/refused.yaml"⟩ = .ok (Json.print refused.toJson) := by decide +kernel
    obtain ⟨r, loaded, -⟩ := back.alone complaint store.cwd top
    obtain ⟨detail, failed⟩ := (layered_load complaint store (some ⟨"/refused.yaml"⟩) store.cwd).globalFails.2
      ⟨_, rfl, .malformed held (filled_render refused 0) (ofYaml?_render_of_refused (List.mem_singleton_self _)
        (c := '\x7f') (by decide) (by decide) (by decide) 0)⟩
    cases loaded.symm.trans failed
  · have held : store.readText ⟨"/second.yaml"⟩ = .ok ("documentExtensions: [\"a\\Nb\"]" : Text) := by
      decide +kernel
    exact load_of_sets complaint ⟨none, none, some ["a\x85b"]⟩
      (.written held (filled_of_head rfl rfl) (by decide +kernel)) top (by decide)
  · have held : store.readText ⟨"/folded.yaml"⟩ = .ok (Json.print folded.toJson) := by decide +kernel
    obtain ⟨r, loaded, same⟩ := back.alone complaint store.cwd top
    obtain ⟨r', loaded', different⟩ := load_of_sets complaint
      ⟨some .off, some 500, some ["a b"]⟩
      (.written held (filled_render folded 0) (by decide +kernel)) top (by decide)
    cases loaded.symm.trans loaded'
    exact absurd (same.symm.trans different) (by decide)

end Settings

end ClassNav
