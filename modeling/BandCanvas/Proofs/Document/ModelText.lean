import BandCanvas.Document.Model
import BandCanvas.Proofs.Json.Record

namespace BandCanvas

open Json.Written

namespace Chapter

def InRange (c : Chapter) : Prop :=
  c.pageCount ≤ maxCount

instance (c : Chapter) : Decidable c.InRange :=
  inferInstanceAs (Decidable (c.pageCount ≤ maxCount))

def members (c : Chapter) : List (String × Json) :=
  [("path", .string c.path), ("jrxml", .string c.report), ("locale", .string c.locale),
    ("editable", .bool c.editable)] ++ (c.params.elim [] fun p => [("params", .string p)]) ++
    [("pageCount", .integer c.pageCount)]

theorem nodup_members (c : Chapter) : (c.members.map Prod.fst).Nodup := by
  obtain ⟨path, report, locale, editable, params, pageCount⟩ := c
  cases params with
  | none =>
    show ["path", "jrxml", "locale", "editable", "pageCount"].Nodup
    decide
  | some p =>
    show ["path", "jrxml", "locale", "editable", "params", "pageCount"].Nodup
    decide

theorem read?_toJson {c : Chapter} (h : c.InRange) : read? c.toJson.written = some c := by
  have hcount : nat? maxCount (Json.integer c.pageCount).written = some c.pageCount := nat?_integer h (by decide)
  obtain ⟨field, hfields, hfield⟩ :=
    fields?_written ["path", "jrxml", "locale", "editable", "params", "pageCount"] c.nodup_members
  have hread : fields? ["path", "jrxml", "locale", "editable", "params", "pageCount"] c.toJson.written =
      some field :=
    hfields
  obtain ⟨path, report, locale, editable, params, pageCount⟩ := c
  simp only [read?, hread, hfield, Option.bind_eq_bind, Option.bind_some]
  cases params with
  | none => simp [members, List.lookup, required, withDefault, text?_string, bool?_bool, hcount]
  | some p =>
    have hp : optional? text? (Json.string p).written = some (some p) := rfl
    simp [members, List.lookup, required, withDefault, text?_string, bool?_bool, hp, hcount]

/-- What is read fits, because the reader refuses larger counts. -/
theorem inRange_of_read? {w : Json.Written} {c : Chapter} (h : read? w = some c) : c.InRange := by
  simp only [read?, Option.bind_eq_bind, Option.bind_eq_some_iff, Option.some.injEq] at h
  obtain ⟨field, -, -, -, -, -, -, -, -, -, -, -, count, hcount, rfl⟩ := h
  cases hfield : field "pageCount" with
  | none =>
    rw [hfield] at hcount
    obtain rfl : 1 = count := Option.some.inj hcount
    show 1 ≤ maxCount
    decide
  | some w =>
    rw [hfield] at hcount
    exact nat?_le hcount

end Chapter

namespace DocumentModel

def InRange (m : DocumentModel) : Prop :=
  ∀ c ∈ m.chapters, c.InRange

instance (m : DocumentModel) : Decidable m.InRange :=
  inferInstanceAs (Decidable (∀ c ∈ m.chapters, c.InRange))

def members (m : DocumentModel) : List (String × Json) :=
  ("chapters", .array (m.chapters.map Chapter.toJson)) ::
    m.backgroundColor.elim [] fun c => [("backgroundColor", .string c)]

theorem nodup_members (m : DocumentModel) : (m.members.map Prod.fst).Nodup := by
  obtain ⟨chapters, background⟩ := m
  cases background with
  | none =>
    show ["chapters"].Nodup
    decide
  | some c =>
    show ["chapters", "backgroundColor"].Nodup
    decide

theorem read?_toJson {m : DocumentModel} (h : m.InRange) : read? m.toJson.written = some m := by
  have hchapters : list? Chapter.read? (Json.array (m.chapters.map Chapter.toJson)).written = some m.chapters :=
    list?_map fun c hc => Chapter.read?_toJson (h c hc)
  obtain ⟨field, hfields, hfield⟩ := fields?_written ["chapters", "backgroundColor"] m.nodup_members
  have hread : fields? ["chapters", "backgroundColor"] m.toJson.written = some field := hfields
  obtain ⟨chapters, background⟩ := m
  simp only [read?, hread, hfield, Option.bind_eq_bind, Option.bind_some]
  cases background with
  | none => simp [members, List.lookup, required, withDefault, hchapters]
  | some c =>
    have hc : optional? text? (Json.string c).written = some (some c) := rfl
    simp [members, List.lookup, required, withDefault, hchapters, hc]

theorem inRange_of_read? {w : Json.Written} {m : DocumentModel} (h : read? w = some m) : m.InRange := by
  simp only [read?, Option.bind_eq_bind, Option.bind_eq_some_iff, Option.some.injEq] at h
  obtain ⟨field, -, chapters, hchapters, -, -, rfl⟩ := h
  cases hfield : field "chapters" with
  | none =>
    rw [hfield] at hchapters
    cases hchapters
  | some w =>
    rw [hfield] at hchapters
    intro c hc
    obtain ⟨v, hv⟩ := exists_of_mem_list? hchapters hc
    exact Chapter.inRange_of_read? hv

theorem inRange_of_parse? {text : String} {m : DocumentModel} (h : parse? text = some m) : m.InRange := by
  obtain ⟨w, -, hw⟩ := Option.bind_eq_some_iff.1 h
  exact inRange_of_read? hw

/-- Every model whose page counts fit is read back from its text, on one line or on several. -/
theorem parse?_written :
    (∀ m : DocumentModel, m.InRange →
      parse? m.toJson.compact = some m ∧ parse? m.toJson.pretty = some m) ∧
    ∀ (text : String) (m : DocumentModel), parse? text = some m →
      parse? m.toJson.compact = parse? text ∧ parse? m.toJson.pretty = parse? text := by
  have hback (m : DocumentModel) (h : m.InRange) :
      parse? m.toJson.compact = some m ∧ parse? m.toJson.pretty = some m := by
    have hread := read?_toJson h
    constructor
    · rw [parse?, Json.parse?_compact, Option.bind_some, hread]
    · rw [parse?, Json.parse?_pretty, Option.bind_some, hread]
  refine ⟨hback, fun text m h => ?_⟩
  rw [h]
  exact hback m (inRange_of_parse? h)

theorem parse?_written_quoted :
    let m : DocumentModel := ⟨[⟨"a\"b\\c\u0001", "letter", "pt_PT", true, some "", 4294967295⟩], none⟩
    let text := "[ [[\"a\", \"letter\"]], \"#FFFFFF\" ]"
    m.InRange ∧ parse? m.toJson.compact = some m ∧ (parse? text).isSome = true ∧
      ∀ m', parse? text = some m' → parse? m'.toJson.pretty = parse? text := by
  intro m text
  have hrange : m.InRange := by decide
  have hread : (parse? text).isSome = true := by decide +kernel
  exact ⟨hrange, (parse?_written.1 m hrange).1, hread, fun m' h => (parse?_written.2 text m' h).2⟩

end DocumentModel

end BandCanvas
