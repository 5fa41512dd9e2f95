import ClassNav.Proofs.Json.Reading
import ClassNav.Proofs.Settings.Layers
import ClassNav.Proofs.Yaml.Tree
import ClassNav.Settings.Form
import Mathlib.Data.Bool.AllAny

/-!
What was written is read again: a layer as JSON, and settings as the text of a settings file.
-/

namespace ClassNav

open Json (Fits)

namespace Layer

/-! ## As JSON -/

theorem ofJson?_policy (p : Naming.Policy) : Naming.Policy.ofJson? p.toJson = .ok p := by
  simp only [Naming.Policy.toJson, Naming.Policy.ofJson?, Naming.Policy.parse?_name]

theorem milliseconds?_nat (n : UInt64) : milliseconds? (.nat n.toNat) = .ok n := by
  have small : 0 ≤ (n.toNat : Int) ∧ (n.toNat : Int).toNat < UInt64.size := ⟨by omega, n.toNat_lt⟩
  rw [Json.nat, milliseconds?, if_pos small]
  simp

theorem texts?_strings (ts : List Text) : texts? (.strings ts) = .ok ts := by
  rw [Json.strings, texts?, List.mapM_map]
  show ts.mapM (fun t => pure (id t)) = _
  rw [List.mapM_pure, List.map_id]
  rfl

theorem unlessNull_optional {α : Type} {read : Json → Except LayerError α} {write : α → Json}
    (back : ∀ a, read (write a) = .ok a) (something : ∀ a, write a ≠ .null) (a : Option α) :
    unlessNull read (some (.optional write a)) = .ok a := by
  cases a with
  | none => rfl
  | some a =>
    have there := something a
    rw [Json.optional]
    unfold unlessNull
    split
    next none => cases none
    next null => exact absurd (Option.some.inj null) there
    next j same =>
      obtain rfl := Option.some.inj same
      rw [back]
      rfl

theorem ofJson?_toJson (l : Layer) : ofJson? l.toJson = .ok l := by
  have policy := unlessNull_optional ofJson?_policy (by simp [Naming.Policy.toJson]) l.camelCase
  have delay := unlessNull_optional milliseconds?_nat (by simp [Json.nat]) l.debounceMs
  have extensions := unlessNull_optional texts?_strings (by simp [Json.strings]) l.documentExtensions
  show ofParts? (some (.optional Naming.Policy.toJson l.camelCase)) (some (.optional _ l.debounceMs))
    (some (.optional .strings l.documentExtensions)) = _
  rw [ofParts?, policy, delay, extensions]
  rfl

theorem fits_policy {n : Nat} (p : Naming.Policy) : Fits n p.toJson := .string _

theorem fits_milliseconds {n : Nat} (delay : UInt64) : Fits n (.nat delay.toNat) := .natural delay.toNat_lt

theorem fits_toJson (l : Layer) {n : Nat} : Fits (n + 2) l.toJson := by
  refine .object ?_
  simp only [List.forall_mem_cons, List.not_mem_nil, false_implies, implies_true, and_true]
  exact ⟨Json.fits_optional fits_policy _, Json.fits_optional fits_milliseconds _,
    Json.fits_optional Json.fits_strings _⟩

end Layer

namespace Settings

/-- The layer that sets everything. -/
def layer (s : Settings) : Layer := ⟨some s.camelCase, some s.debounceMs, some s.documentExtensions⟩

theorem toJson_layer (s : Settings) : s.layer.toJson = s.toJson := rfl

/-! ## As a settings file -/

theorem basedNumber?_digits {t : Text} (digits : ∀ c ∈ t, c.isDigit = true) (nonempty : t ≠ []) :
    Yaml.basedNumber? 10 t = some (Text.ofDigits t) := by
  rw [Yaml.basedNumber?, if_neg (by simpa using nonempty), Text.ofDigits]
  generalize 0 = n
  clear nonempty
  induction t generalizing n with
  | nil => rfl
  | cons c t ih =>
    have digit := digits c (List.mem_cons_self ..)
    have range := Character.toNat_of_isDigit digit
    have value : Json.hexValue? c = some (c.toNat - '0'.toNat) := by rw [Json.hexValue?, if_pos digit]
    have small : c.toNat - '0'.toNat < 10 := by
      have nought : '0'.toNat = 48 := rfl
      omega
    rw [List.foldl_cons, List.foldl_cons, Option.bind_some, value, Option.bind_some, if_pos small]
    exact ih (fun d found => digits d (List.mem_cons_of_mem _ found)) _

/-- Decimal digits are a number, as they neither have a sign nor begin like a number of another base. -/
theorem natural?_of_numeral {t : Text} {n : Nat} (numeral : Json.Numeral t n) : Yaml.natural? t = some n := by
  have read := basedNumber?_digits numeral.digits numeral.nonempty
  obtain ⟨c, r, rfl⟩ := List.exists_cons_of_ne_nil numeral.nonempty
  have digit := numeral.digits c (List.mem_cons_self ..)
  have unsigned : (Text.stripPrefix? ['+'] (c :: r)).getD (c :: r) = c :: r := by
    have other : '+' ≠ c := by
      rintro rfl
      cases digit
    simp [Text.stripPrefix?, List.isPrefixOf?, other]
  have decimal (d : Char) : Text.stripPrefix? ['0', d] (c :: r) = none := by
    by_cases nought : '0' = c
    · obtain rfl : r = [] := by simpa [← nought] using numeral.lead (by simp [← nought])
      simp [Text.stripPrefix?, List.isPrefixOf?]
    · simp [Text.stripPrefix?, List.isPrefixOf?, nought]
  have lead : ¬(1 < (c :: r).length ∧ (c :: r).head? = some '0') := by
    rintro ⟨long, nought⟩
    rw [numeral.lead nought] at long
    simp at long
  show ((Text.stripPrefix? ['0', 'x'] _).bind _).or (((Text.stripPrefix? ['0', 'o'] _).bind _).or
    (((Text.stripPrefix? ['0', 'b'] _).bind _).or _)) = _
  rw [unsigned, decimal, decimal, decimal, if_neg lead, read, numeral.value]
  rfl

theorem portable_toJson {s : Settings} (kept : ∀ e ∈ s.documentExtensions, Yaml.Kept e) :
    s.toJson.Portable := by
  have named : ∀ c ∈ s.camelCase.name, Yaml.Carried c := by
    cases s.camelCase <;> exact List.all_iff_forall_prop.1 (by decide)
  refine .object ?_ ?_ ?_ <;>
    simp only [List.forall_mem_cons, List.not_mem_nil, false_implies, implies_true, and_true]
  · exact ⟨List.all_iff_forall_prop.1 (by decide), List.all_iff_forall_prop.1 (by decide),
      List.all_iff_forall_prop.1 (by decide)⟩
  · decide
  · exact ⟨.string (.of_carried named), .natural _,
      .array (List.forall_mem_map.2 fun e listed => .string (kept e listed))⟩

theorem setting?_policy (p : Naming.Policy) : Layer.setting? Layer.policy? p.toJson.node = some (some p) := by
  rw [Naming.Policy.toJson, Json.node]
  show (Naming.Policy.parse? p.name).map some = _
  rw [Naming.Policy.parse?_name]
  rfl

theorem setting?_delay (delay : UInt64) :
    Layer.setting? Layer.delay? (Json.nat delay.toNat).node = some (some delay) := by
  have numeral := Json.numeral_decimal delay.toNat
  have set : Layer.isUnset? (.scalar none true (Text.decimal delay.toNat)) = some false := by
    have word : Yaml.isNullWord (Text.decimal delay.toNat) = false := by
      rw [Yaml.isNullWord, decide_eq_false_iff_not]
      intro listed
      have digits := List.all_eq_true.2 numeral.digits
      simp only [List.mem_cons, List.not_mem_nil, or_false] at listed
      obtain same | same | same | same := listed <;> exact absurd (same ▸ digits) (by decide)
    show some ((Text.decimal delay.toNat).isEmpty || Yaml.isNullWord _) = _
    simp [word, numeral.nonempty]
  have read : Layer.delay? (.scalar none true (Text.decimal delay.toNat)) = some delay := by
    show (Yaml.natural? (Text.decimal delay.toNat)).bind _ = _
    rw [natural?_of_numeral numeral, Option.bind_some, if_pos delay.toNat_lt]
    simp
  rw [Json.nat, Json.node]
  show (Layer.isUnset? (.scalar none true (Text.decimal delay.toNat))).bind _ = _
  rw [set]
  show (Layer.delay? (.scalar none true (Text.decimal delay.toNat))).map some = _
  rw [read]
  rfl

theorem setting?_words (ts : List Text) :
    Layer.setting? Layer.words? (Json.strings ts).node = some (some ts) := by
  have word : Layer.word? ∘ Json.node ∘ Json.string = fun t => pure (id t) := by
    funext t
    rw [Function.comp, Function.comp, Json.node]
    rfl
  rw [Json.strings, Json.node]
  show (((ts.map Json.string).map Json.node).mapM Layer.word?).map some = _
  rw [List.map_map, List.mapM_map, word, List.mapM_pure, List.map_id]
  rfl

theorem ofNode?_toJson (s : Settings) : Layer.ofNode? s.toJson.node = some s.layer := by
  rw [toJson, Json.node]
  show (Layer.setting? Layer.policy? s.camelCase.toJson.node).bind (fun _ =>
    (Layer.setting? Layer.delay? (Json.nat s.debounceMs.toNat).node).bind fun _ =>
      (Layer.setting? Layer.words? (Json.strings s.documentExtensions).node).map _) = _
  rw [setting?_policy, Option.bind_some, setting?_delay, Option.bind_some, setting?_words]
  rfl

theorem ofYaml?_render {s : Settings} (kept : ∀ e ∈ s.documentExtensions, Yaml.Kept e) (depth : Nat) :
    Layer.ofYaml? (Json.render depth s.toJson) = some s.layer := by
  rw [Layer.ofYaml?, toJson, Yaml.parse?_render (portable_toJson kept)]
  exact ofNode?_toJson s

/-- JSON leaves alone what YAML refuses, but for the common control characters. -/
theorem mem_quote {t : Text} {c : Char} (found : c ∈ t) (visible : 0x20 ≤ c.toNat)
    (refused : Yaml.isPrintable c = false) : c ∈ Json.quote t := by
  have same : c ∈ Json.escape c := by
    unfold Json.escape
    iterate 7
      split
      next sign =>
        subst sign
        first
        | exact absurd refused (by decide)
        | exact absurd visible (by decide)
    rw [if_neg (by omega)]
    exact List.mem_singleton_self c
  exact List.mem_append_left _ (List.mem_cons_of_mem _ (List.mem_flatMap.2 ⟨c, found, same⟩))

theorem ofYaml?_render_of_refused {s : Settings} {e : Text} (listed : e ∈ s.documentExtensions) {c : Char}
    (found : c ∈ e) (visible : 0x20 ≤ c.toNat) (refused : Yaml.isPrintable c = false)
    (depth : Nat) : Layer.ofYaml? (Json.render depth s.toJson) = none := by
  have extension : Json.quote e <:+: Json.render (depth + 1) (.strings s.documentExtensions) :=
    Json.infix_item (List.mem_map.2 ⟨e, listed, rfl⟩ : Json.string e ∈ _) (depth + 1)
  have extensions : Json.render (depth + 1) (.strings s.documentExtensions) <:+: Json.render depth s.toJson :=
    Json.infix_field "documentExtensions" (by simp) depth
  have held : c ∈ Json.render depth s.toJson :=
    (extension.trans extensions).subset (mem_quote found visible refused)
  have unread : Yaml.parse? (Json.render depth s.toJson) = none := by
    rw [Yaml.parse?, Yaml.tokens?, if_neg]
    · rfl
    · intro printable
      rw [List.all_eq_true.1 printable c held] at refused
      cases refused
  rw [Layer.ofYaml?, unread]

end Settings

end ClassNav
