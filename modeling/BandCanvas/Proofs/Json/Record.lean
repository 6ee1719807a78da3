import BandCanvas.Json.Fields
import BandCanvas.Proofs.Json.Spelling

namespace BandCanvas.Json.Written

section Fields

variable {names : List String} {ms : List (String × Json)}

theorem find?_writtenMembers (name : String) (ms : List (String × Json)) :
    ((writtenMembers ms).find? fun m => m.1 == some name).map Prod.snd = (ms.lookup name).map written := by
  induction ms with
  | nil => rfl
  | cons m ms ih =>
    obtain ⟨n, j⟩ := m
    rw [writtenMembers, List.find?_cons, List.lookup_cons]
    by_cases hn : n = name
    · subst hn
      simp
    · have hname : (name == n) = false := by simpa using Ne.symm hn
      have hsome : (some n == some name) = false := by simpa using hn
      simp only [hname, hsome]
      exact ih

theorem map_fst_writtenMembers (ms : List (String × Json)) :
    (writtenMembers ms).map Prod.fst = (ms.map Prod.fst).map some := by
  induction ms with
  | nil => rfl
  | cons m ms ih =>
    obtain ⟨n, j⟩ := m
    rw [writtenMembers, List.map_cons, ih]
    rfl

theorem noDuplicates_writtenMembers (names : List String) (h : (ms.map Prod.fst).Nodup) :
    noDuplicates names (writtenMembers ms) = true := by
  rw [noDuplicates, List.all_eq_true]
  intro name _
  have hnames : ((writtenMembers ms).map Prod.fst).Nodup := by
    rw [map_fst_writtenMembers]
    exact h.map fun _ _ => Option.some.inj
  have hcount := List.nodup_iff_count_le_one.1 hnames (some name)
  rw [List.count, List.countP_map, List.countP_eq_length_filter] at hcount
  exact decide_eq_true hcount

theorem fields?_written (names : List String) (h : (ms.map Prod.fst).Nodup) :
    ∃ field, fields? names (Json.object ms).written = some field ∧
      ∀ name, field name = (ms.lookup name).map written := by
  have hnamed : ((writtenMembers ms).all fun m => m.1.isSome) = true := by
    rw [List.all_eq_true]
    intro m hm
    have hname : m.1 ∈ (ms.map Prod.fst).map some :=
      map_fst_writtenMembers ms ▸ List.mem_map_of_mem (f := Prod.fst) hm
    obtain ⟨n, -, hn⟩ := List.mem_map.1 hname
    rw [← hn]
    rfl
  refine ⟨_, ?_, fun name => find?_writtenMembers name ms⟩
  rw [Json.written, fields?, hnamed, noDuplicates_writtenMembers names h]
  rfl

end Fields

section Values

theorem text?_string (s : String) : text? (Json.string s).written = some s :=
  rfl

theorem bool?_bool (b : Bool) : bool? (Json.bool b).written = some b :=
  rfl

theorem nat?_integer {bound n : Nat} (hn : n ≤ bound) (hbound : bound < 2 ^ 64) :
    nat? bound (Json.integer n).written = some n := by
  have hinteger : (JsonNumber.ofInt n).integer? = some (n : Int) :=
    JsonNumber.integer?_ofInt (by omega) (by omega)
  simp only [Json.written, nat?, hinteger]
  exact if_pos hn

theorem nat?_le {bound n : Nat} {w : Written} (h : nat? bound w = some n) : n ≤ bound := by
  cases w with
  | number t =>
    simp only [nat?] at h
    split at h
    · split at h
      next hle =>
        obtain rfl := Option.some.inj h
        exact hle
      next => cases h
    next => cases h
  | _ => cases h

theorem optional?_of_ne_null {α : Type} (read : Written → Option α) {w : Written} (h : w ≠ .null) :
    optional? read w = (read w).map some := by
  unfold optional?
  split
  · exact absurd rfl h
  · rfl

theorem read_of_optional? {α : Type} {read : Written → Option α} {w : Written} {a : α}
    (h : optional? read w = some (some a)) : read w = some a := by
  by_cases hnull : w = .null
  · subst hnull
    cases h
  · rw [optional?_of_ne_null read hnull] at h
    obtain ⟨b, hb, heq⟩ := Option.map_eq_some_iff.1 h
    rwa [Option.some.inj heq] at hb

theorem optional?_elim {α : Type} {read : Written → Option α} {write : α → Json} (a : Option α)
    (h : ∀ b, a = some b → read (write b).written = some b ∧ (write b).written ≠ .null) :
    optional? read (a.elim .null write).written = some a := by
  cases a with
  | none => rfl
  | some a =>
    obtain ⟨hread, hnull⟩ := h a rfl
    show optional? read (write a).written = some (some a)
    rw [optional?_of_ne_null read hnull, hread, Option.map_some]

theorem list?_map {α : Type} {read : Written → Option α} {write : α → Json} {as : List α}
    (h : ∀ a ∈ as, read (write a).written = some a) :
    list? read (Json.array (as.map write)).written = some as := by
  rw [Json.written, list?]
  induction as with
  | nil => rfl
  | cons a as ih =>
    have htail := ih fun a ha => h a (List.mem_cons_of_mem _ ha)
    rw [List.map_cons, writtenItems, List.mapM_cons, h a List.mem_cons_self, htail]
    rfl

theorem exists_of_mem_list? {α : Type} {read : Written → Option α} {w : Written} {as : List α} {a : α}
    (h : list? read w = some as) (ha : a ∈ as) : ∃ v, read v = some a := by
  cases w with
  | array ws =>
    rw [list?] at h
    induction ws generalizing as with
    | nil =>
      obtain rfl := Option.some.inj h
      cases ha
    | cons v ws ih =>
      simp only [List.mapM_cons, Option.bind_eq_bind, Option.bind_eq_some_iff] at h
      obtain ⟨a', ha', as', htail, heq⟩ := h
      obtain rfl := Option.some.inj heq
      rcases List.mem_cons.1 ha with rfl | hmem
      · exact ⟨v, ha'⟩
      · exact ih hmem htail
  | _ => cases h

end Values

end BandCanvas.Json.Written
