import BandCanvas.Proofs.Json.Range
import BandCanvas.Proofs.Json.Record
import BandCanvas.Settings

namespace BandCanvas

open Json.Written

namespace Json

/-- The text that is written for a number reads back as that number. -/
def ReadsBack (x : Float) : Prop :=
  (Written.parse? (ofFloat x).compact).bind Written.float? = some x

instance (x : Float) : Decidable (ReadsBack x) :=
  inferInstanceAs (Decidable (_ = _))

theorem readsBack_iff (x : Float) : ReadsBack x ↔ Written.float? (ofFloat x).written = some x := by
  rw [ReadsBack, parse?_compact, Option.bind_some]

theorem written_ofFloat_ne_null {x : Float} (hx : x.isFinite = true) : (ofFloat x).written ≠ .null := by
  rw [ofFloat, if_pos hx, written, if_pos hx]
  exact nofun

end Json

namespace Settings

def numbers (s : Settings) : List Float :=
  [s.pageWidth, s.pageHeight, s.zoom] ++ s.devicePixelRatio.toList

def IsUsable (x : Float) : Prop :=
  x.isFinite = true ∧ 0 < x

structure Loaded (s : Settings) : Prop where
  zoom : IsUsable s.zoom
  pageWidth : IsUsable s.pageWidth
  pageHeight : IsUsable s.pageHeight
  ratio : ∀ x, s.devicePixelRatio = some x → x.isFinite = true
  delay : s.redrawDelay ≤ 18446744073709551615

section Repair

variable {standard x y : Float}

theorem isUsable_usable (h : IsUsable standard) (x : Float) : IsUsable (usable standard x) := by
  rw [usable]
  split
  next hx =>
    obtain ⟨hfinite, hpos⟩ := Bool.and_eq_true_iff.1 hx
    exact ⟨hfinite, of_decide_eq_true hpos⟩
  next => exact h

theorem usable_of_isUsable (standard : Float) (h : IsUsable x) : usable standard x = x := by
  rw [usable, if_pos (Bool.and_eq_true_iff.2 ⟨h.1, decide_eq_true h.2⟩)]

/-- Where a number is repaired after it was read back, it was the standard one, which does come back. -/
theorem readsBack_of_usable (hstandard : Json.ReadsBack standard)
    (hread : float? (Json.ofFloat x).written = some y) (h : usable standard y = x) : Json.ReadsBack x := by
  rw [Json.readsBack_iff] at hstandard ⊢
  rw [usable] at h
  split at h
  · subst h
    exact hread
  · subst h
    exact hstandard

theorem sanitize_of_loaded {s : Settings} (h : s.Loaded) : s.sanitize = s := by
  simp only [sanitize, usable_of_isUsable _ h.zoom, usable_of_isUsable _ h.pageWidth,
    usable_of_isUsable _ h.pageHeight]

end Repair

variable {s s' : Settings} {content : Option String}

theorem loaded_standard : standard.Loaded where
  zoom := ⟨by decide, by decide⟩
  pageWidth := ⟨by decide, by decide⟩
  pageHeight := ⟨by decide, by decide⟩
  ratio := nofun
  delay := by decide

theorem ratio_of_optional? {field : Option Json.Written} {ratio : Option Float} {x : Float}
    (h : withDefault none (optional? float?) field = some ratio) (hx : ratio = some x) : x.isFinite = true := by
  subst hx
  cases field with
  | none => cases h
  | some w => exact isFinite_float? (read_of_optional? h)

theorem loaded_of_read? {w : Json.Written} (h : read? w = some s) : s.sanitize.Loaded := by
  simp only [read?, Option.bind_eq_bind, Option.bind_eq_some_iff, Option.some.injEq] at h
  obtain ⟨field, -, -, -, -, -, -, -, -, -, ratio, hratio, delay, hdelay, -, -, -, -, -, -, rfl⟩ := h
  refine ⟨isUsable_usable loaded_standard.zoom _, isUsable_usable loaded_standard.pageWidth _,
    isUsable_usable loaded_standard.pageHeight _, fun x => ratio_of_optional? hratio, ?_⟩
  show delay ≤ 18446744073709551615
  cases hfield : field "redraw_debounce_ms" with
  | none =>
    rw [hfield] at hdelay
    obtain rfl := Option.some.inj hdelay
    decide
  | some w =>
    rw [hfield] at hdelay
    exact nat?_le hdelay

theorem loaded_of_load? (h : load? content = some s) : s.Loaded := by
  simp only [load?] at h
  split at h
  · obtain rfl := Option.some.inj h
    exact loaded_standard
  · obtain ⟨t, ht, rfl⟩ := Option.map_eq_some_iff.1 h
    obtain ⟨w, -, hw⟩ := Option.bind_eq_some_iff.1 ht
    exact loaded_of_read? hw

def members (s : Settings) : List (String × Json) :=
  [("page_width", Json.ofFloat s.pageWidth), ("page_height", Json.ofFloat s.pageHeight),
    ("background_color", .string s.backgroundColor), ("zoom", Json.ofFloat s.zoom),
    ("device_pixel_ratio", s.devicePixelRatio.elim .null Json.ofFloat),
    ("redraw_debounce_ms", .integer s.redrawDelay), ("public_assets_url", s.assetsUrl.elim .null .string),
    ("default_widget_tag", .string s.defaultTag), ("debug_logging", .bool s.debugLogging)]

theorem read?_toJson (h : s.redrawDelay ≤ 18446744073709551615) :
    read? s.toJson.written = (do
      let pageWidth ← float? (Json.ofFloat s.pageWidth).written
      let pageHeight ← float? (Json.ofFloat s.pageHeight).written
      let zoom ← float? (Json.ofFloat s.zoom).written
      let ratio ← optional? float? (s.devicePixelRatio.elim .null Json.ofFloat).written
      some { s with pageWidth := pageWidth, pageHeight := pageHeight, zoom := zoom, devicePixelRatio := ratio }) := by
  have hnames : (s.members.map Prod.fst).Nodup := by
    show fieldNames.Nodup
    decide
  obtain ⟨field, hfields, hfield⟩ := fields?_written fieldNames hnames
  have hread : fields? fieldNames s.toJson.written = some field := hfields
  have hdelay : nat? 18446744073709551615 (Json.integer s.redrawDelay).written = some s.redrawDelay :=
    nat?_integer h (by decide)
  have hurl : optional? text? (s.assetsUrl.elim .null Json.string).written = some s.assetsUrl :=
    optional?_elim s.assetsUrl fun t _ => ⟨text?_string t, nofun⟩
  simp [read?, hread, hfield, members, List.lookup, withDefault, text?_string, bool?_bool, hdelay, hurl]

theorem load?_save (s : Settings) : load? (some s.save) = (read? s.toJson.written).map sanitize := by
  have hnotBlank : (s.save.toList.all Blank.isBlank) = false := by
    rw [save, toJson, Json.pretty, String.toList_ofList]
    rfl
  rw [load?, Option.getD_some, hnotBlank, save, Json.parse?_pretty]
  rfl

theorem isFinite_numbers (h : s.Loaded) : ∀ x ∈ s.numbers, x.isFinite = true := by
  intro x hx
  simp only [numbers, List.cons_append, List.nil_append, List.mem_cons, Option.mem_toList] at hx
  rcases hx with rfl | rfl | rfl | hratio
  · exact h.pageWidth.1
  · exact h.pageHeight.1
  · exact h.zoom.1
  · exact h.ratio x hratio

theorem load?_save_of_readsBack (h : s.Loaded) (hback : ∀ x ∈ s.numbers, Json.ReadsBack x) :
    load? (some s.save) = some s := by
  have hnumber (x : Float) (hx : x ∈ s.numbers) : float? (Json.ofFloat x).written = some x :=
    (Json.readsBack_iff x).1 (hback x hx)
  have hratio : optional? float? (s.devicePixelRatio.elim .null Json.ofFloat).written =
      some s.devicePixelRatio := by
    apply optional?_elim
    intro x hx
    exact ⟨hnumber x (by simp [numbers, hx]), Json.written_ofFloat_ne_null (h.ratio x hx)⟩
  rw [load?_save, read?_toJson h.delay, hnumber s.pageWidth (by simp [numbers]),
    hnumber s.pageHeight (by simp [numbers]), hnumber s.zoom (by simp [numbers]), hratio]
  exact congrArg some (sanitize_of_loaded h)

theorem readsBack_of_load?_save (h : s.Loaded) (hsave : load? (some s.save) = some s) :
    ∀ x ∈ s.numbers, Json.ReadsBack x := by
  rw [load?_save, read?_toJson h.delay] at hsave
  obtain ⟨t, ht, hst⟩ := Option.map_eq_some_iff.1 hsave
  simp only [Option.bind_eq_bind, Option.bind_eq_some_iff, Option.some.injEq] at ht
  obtain ⟨width, hwidth, height, hheight, zoom, hzoom, ratio, hratio, rfl⟩ := ht
  have hratio' : ratio = s.devicePixelRatio := congrArg devicePixelRatio hst
  intro x hx
  simp only [numbers, List.cons_append, List.nil_append, List.mem_cons, Option.mem_toList] at hx
  rcases hx with rfl | rfl | rfl | hx
  · exact readsBack_of_usable (by decide +kernel) hwidth (congrArg pageWidth hst)
  · exact readsBack_of_usable (by decide +kernel) hheight (congrArg pageHeight hst)
  · exact readsBack_of_usable (by decide +kernel) hzoom (congrArg Settings.zoom hst)
  · rw [hratio', hx] at hratio
    exact (Json.readsBack_iff x).2 (read_of_optional? hratio)

/-- Loaded settings can be used, and saving them gives them back if and only if each number comes back from its
text. -/
theorem load_stable (h : load? content = some s) :
    (s.zoom.isFinite = true ∧ 0 < s.zoom) ∧ (s.pageWidth.isFinite = true ∧ 0 < s.pageWidth) ∧
    (s.pageHeight.isFinite = true ∧ 0 < s.pageHeight) ∧ (∀ x ∈ s.numbers, x.isFinite = true) ∧
    (load? (some s.save) = some s ↔ ∀ x ∈ s.numbers, Json.ReadsBack x) := by
  have hloaded := loaded_of_load? h
  exact ⟨hloaded.zoom, hloaded.pageWidth, hloaded.pageHeight, isFinite_numbers hloaded,
    readsBack_of_load?_save hloaded, load?_save_of_readsBack hloaded⟩

theorem load_stable_partial :
    let content := "\x7b \"debug_logging\": true, \"zoom\": -2.5, \"page_width\": 612.5, \"device_pixel_ratio\": 1.5 \x7d"
    ∃ s, load? (some content) = some s ∧ 0 < s.zoom ∧ load? (some s.save) = some s := by
  intro content
  have hloads : (load? (some content)).isSome = true := by decide +kernel
  have hback : (load? (some content)).all fun s => s.numbers.all fun x => decide (Json.ReadsBack x) := by
    decide +kernel
  obtain ⟨s, hs⟩ := Option.isSome_iff_exists.1 hloads
  rw [hs, Option.all_some, List.all_eq_true] at hback
  obtain ⟨⟨-, hzoom⟩, -, -, -, hstable⟩ := load_stable hs
  exact ⟨s, hs, hzoom, hstable.2 fun x hx => of_decide_eq_true (hback x hx)⟩

example : ¬ Json.ReadsBack 6.458023373509767e242 := by decide +kernel

end Settings

end BandCanvas
