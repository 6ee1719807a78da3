import Mathlib.Algebra.Ring.Nat
import Mathlib.Logic.ExistsUnique
import BandCanvas.Document.Paging
import BandCanvas.Proofs.Number.Word32

namespace BandCanvas

namespace DocumentModel

variable {cs ds : List Chapter} {c : Chapter} {m : DocumentModel}
  {page first index sum i j p n k : Nat}

theorem pagesOf_append (cs ds : List Chapter) : pagesOf (cs ++ ds) = pagesOf cs + pagesOf ds := by
  induction cs with
  | nil => exact (Nat.zero_add _).symm
  | cons c cs ih =>
    rw [List.cons_append, pagesOf, pagesOf, ih, Nat.add_assoc]

theorem pagesOf_eq_sum (cs : List Chapter) :
    pagesOf cs = (cs.map fun c => max c.pageCount 1).sum := by
  induction cs with
  | nil => rfl
  | cons c cs ih =>
    rw [pagesOf, ih]
    rfl

theorem pagesOf_split (h : cs[i]? = some c) :
    pagesOf cs = pagesOf (cs.take i) + c.pages + pagesOf (cs.drop (i + 1)) := by
  obtain ⟨hlt, rfl⟩ := List.getElem?_eq_some_iff.1 h
  calc pagesOf cs
      = pagesOf (cs.take i ++ cs.drop i) := by rw [List.take_append_drop]
    _ = pagesOf (cs.take i) + pagesOf (cs[i] :: cs.drop (i + 1)) := by
        rw [pagesOf_append, List.drop_eq_getElem_cons hlt]
    _ = pagesOf (cs.take i) + cs[i].pages + pagesOf (cs.drop (i + 1)) := by
        rw [pagesOf, Nat.add_assoc]

theorem pagesOf_take_mono (cs : List Chapter) (h : i ≤ j) :
    pagesOf (cs.take i) ≤ pagesOf (cs.take j) := by
  have hsplit := pagesOf_append ((cs.take j).take i) ((cs.take j).drop i)
  rw [List.take_append_drop, List.take_take, Nat.min_eq_left h] at hsplit
  omega

theorem pagesOf_take_lt (h : cs[i]? = some c) (hij : i < j) :
    pagesOf (cs.take i) + c.pages ≤ pagesOf (cs.take j) := by
  have hmono := pagesOf_take_mono cs (Nat.succ_le_of_lt hij)
  obtain ⟨hlt, rfl⟩ := List.getElem?_eq_some_iff.1 h
  rw [List.take_succ_eq_append_getElem hlt, pagesOf_append] at hmono
  exact hmono

theorem locate_eq_some_iff :
    locate page first index cs = some (i, p) ↔
      ∃ k c, i = index + k ∧ cs[k]? = some c ∧ 1 ≤ p ∧ p ≤ c.pages ∧
        page + 1 = first + pagesOf (cs.take k) + p := by
  induction cs generalizing first index with
  | nil =>
    constructor
    · intro h
      cases h
    · rintro ⟨k, c, -, h, -⟩
      cases h
  | cons d cs ih =>
    rw [locate]
    split
    next hpage =>
      constructor
      · intro h
        obtain ⟨rfl, rfl⟩ := Prod.mk.inj (Option.some.inj h)
        refine ⟨0, d, rfl, rfl, ?_⟩
        simp only [List.take_zero, pagesOf]
        omega
      · rintro ⟨k, c, rfl, hc, hp, hle, hnumber⟩
        cases k with
        | zero =>
          simp only [List.take_zero, pagesOf] at hnumber
          exact congrArg some (Prod.ext rfl (by omega))
        | succ k =>
          rw [List.take_succ_cons, pagesOf] at hnumber
          omega
    next hpage =>
      rw [ih]
      constructor
      · rintro ⟨k, c, rfl, hc, hp, hle, hnumber⟩
        refine ⟨k + 1, c, by omega, hc, hp, hle, ?_⟩
        rw [List.take_succ_cons, pagesOf]
        omega
      · rintro ⟨k, c, rfl, hc, hp, hle, hnumber⟩
        cases k with
        | zero =>
          obtain rfl := Option.some.inj hc
          simp only [List.take_zero, pagesOf] at hnumber
          omega
        | succ k =>
          rw [List.take_succ_cons, pagesOf] at hnumber
          exact ⟨k, c, by omega, hc, hp, hle, by omega⟩

theorem exists_locate (hfirst : first ≤ page) (hlast : page < first + pagesOf cs) :
    ∃ place, locate page first index cs = some place := by
  induction cs generalizing first index with
  | nil =>
    rw [pagesOf] at hlast
    omega
  | cons c cs ih =>
    rw [pagesOf] at hlast
    rw [locate]
    split
    next => exact ⟨_, rfl⟩
    next hpage => exact ih (by omega) (by omega)

/-- Whether there is a page at a place: in a chapter, counted from zero, and counted from one within it. -/
def HasPage (m : DocumentModel) (place : Nat × Nat) : Prop :=
  ∃ c, m.chapters[place.1]? = some c ∧ 1 ≤ place.2 ∧ place.2 ≤ max c.pageCount 1

/-- The number of a page is counted on from the pages of the chapters before its own. -/
theorem locatePage_eq_some_iff :
    m.locatePage n = some (i, p) ↔
      m.HasPage (i, p) ∧ n = pagesOf (m.chapters.take i) + p := by
  rw [locatePage, locate_eq_some_iff]
  constructor
  · rintro ⟨k, c, rfl, hc, hp, hle, hnumber⟩
    rw [Nat.zero_add]
    exact ⟨⟨c, hc, hp, hle⟩, by omega⟩
  · rintro ⟨⟨c, hc, hp, hle⟩, rfl⟩
    exact ⟨i, c, by omega, hc, hp, hle, by omega⟩

theorem HasPage.number_le (h : m.HasPage (i, p)) :
    1 ≤ pagesOf (m.chapters.take i) + p ∧ pagesOf (m.chapters.take i) + p ≤ m.totalPages := by
  obtain ⟨c, hc, hp, hle⟩ := h
  have hpages : c.pages = max c.pageCount 1 := rfl
  dsimp only at hc hp hle
  have hsplit := pagesOf_split hc
  rw [totalPages]
  omega

theorem locatePage_eq_none_iff : m.locatePage n = none ↔ n = 0 ∨ m.totalPages < n := by
  constructor
  · intro hnone
    rcases Nat.eq_zero_or_pos n with hzero | hfirst
    · exact .inl hzero
    · rcases Nat.lt_or_ge m.totalPages n with hbehind | hlast
      · exact .inr hbehind
      · obtain ⟨place, hplace⟩ : ∃ place, m.locatePage n = some place :=
          exists_locate hfirst (by rw [totalPages] at hlast; omega)
        rw [hnone] at hplace
        cases hplace
  · intro hrange
    cases hplace : m.locatePage n with
    | none => rfl
    | some place =>
      obtain ⟨i, p⟩ := place
      obtain ⟨hpage, rfl⟩ := locatePage_eq_some_iff.1 hplace
      have hnumber := hpage.number_le
      omega

/-- Pages are numbered in the order of their chapters, and within a chapter in their own. -/
theorem number_lt (h : m.HasPage (i, p)) (h' : m.HasPage (j, k)) :
    pagesOf (m.chapters.take i) + p < pagesOf (m.chapters.take j) + k ↔ i < j ∨ i = j ∧ p < k := by
  obtain ⟨c, hc, hp, hle⟩ := h
  obtain ⟨d, hd, hk, hle'⟩ := h'
  have hpages : c.pages = max c.pageCount 1 := rfl
  have hpages' : d.pages = max d.pageCount 1 := rfl
  dsimp only at hc hp hle hd hk hle'
  rcases Nat.lt_trichotomy i j with hij | rfl | hij
  · have hbefore := pagesOf_take_lt hc hij
    omega
  · omega
  · have hbefore := pagesOf_take_lt hd hij
    omega

def count32? (sum : Nat) : List Chapter → Option Nat
  | [] => some sum
  | c :: cs => (Word32.add? sum c.pages).bind fun sum => count32? sum cs

theorem count32?_eq (h : sum + pagesOf cs < Word32.limit) :
    count32? sum cs = some (sum + pagesOf cs) := by
  induction cs generalizing sum with
  | nil => rfl
  | cons c cs ih =>
    rw [pagesOf] at h ⊢
    rw [count32?, Word32.add?_eq (by omega), Option.bind_some, ih (by omega), Nat.add_assoc]

/-- The search for a page with 32 bits. -/
def locate32? (page first index : Nat) : List Chapter → Option (Option (Nat × Nat))
  | [] => some none
  | c :: cs => do
    let next ← Word32.add? first c.pages
    if first ≤ page ∧ page < next then
      let shifted ← Word32.add? 1 page
      let place ← Word32.sub? shifted first
      return some (index, place)
    else locate32? page next (index + 1) cs

theorem locate32?_eq (h : first + pagesOf cs < Word32.limit) :
    locate32? page first index cs = some (locate page first index cs) := by
  induction cs generalizing first index with
  | nil => rfl
  | cons c cs ih =>
    rw [pagesOf] at h
    rw [locate32?, locate, Word32.add?_eq (by omega), Option.bind_eq_bind, Option.bind_some]
    split
    next hpage =>
      -- the page is before `first + c.pages`, so that the number behind it still fits
      rw [Word32.add?_eq (by omega), Option.bind_some, Word32.sub?_eq (by omega)]
      rfl
    next => exact ih (by omega)

/-- A search with 32 bits that comes to its end finds what the search finds. -/
theorem eq_of_locate32? {found : Option (Nat × Nat)} (h : locate32? page first index cs = some found) :
    found = locate page first index cs := by
  induction cs generalizing first index with
  | nil => exact (Option.some.inj h).symm
  | cons c cs ih =>
    rw [locate32?] at h
    obtain ⟨next, hnext, h⟩ := Option.bind_eq_some_iff.1 h
    obtain rfl := Word32.eq_of_add? hnext
    rw [locate]
    split at h
    next hpage =>
      obtain ⟨shifted, hshifted, h⟩ := Option.bind_eq_some_iff.1 h
      obtain ⟨place, hplace, h⟩ := Option.bind_eq_some_iff.1 h
      obtain rfl := Word32.eq_of_add? hshifted
      obtain rfl := Word32.eq_of_sub? hplace
      rw [if_pos hpage]
      exact (Option.some.inj h).symm
    next hpage =>
      rw [if_neg hpage]
      exact ih h

end DocumentModel

namespace Paging

def updatePageNumber32? (chapterPage : Nat) (p : Paging) : Option (Option DocumentEvent × Paging) :=
  match p.model with
  | some m => do
    let before ← DocumentModel.count32? 0 (m.chapters.take p.chapterIndex)
    let page ← Word32.add? before chapterPage
    return (if p.loading then none else some (.pageNumber page), { p with page })
  | none => some (none, p)

theorem updatePageNumber32?_eq {p : Paging} {chapterPage : Nat}
    (h : (p.updatePageNumber chapterPage).2.page < Word32.limit) :
    p.updatePageNumber32? chapterPage = some (p.updatePageNumber chapterPage) := by
  obtain ⟨model, index, reported, page, total, loading⟩ := p
  cases model with
  | none => rfl
  | some m =>
    change DocumentModel.pagesOf (m.chapters.take index) + chapterPage < Word32.limit at h
    rw [updatePageNumber32?, updatePageNumber]
    dsimp only
    rw [DocumentModel.count32?_eq (by omega), Nat.zero_add, Option.bind_eq_bind, Option.bind_some,
      Word32.add?_eq h]
    rfl

end Paging

namespace DocumentModel

/-- The numbers from one to the total stand for the pages of the chapters, in order, and 32 bits are enough for
the search. -/
theorem pages_numbered (m : DocumentModel) (hm : m.totalPages < 2 ^ 32 - 1) :
    (∀ n, m.locatePage n = none ↔ n = 0 ∨ m.totalPages < n) ∧
    (∀ n place, m.locatePage n = some place → m.HasPage place) ∧
    (∀ place, m.HasPage place → ∃! n, m.locatePage n = some place) ∧
    (∀ n n' i j p k, m.locatePage n = some (i, p) → m.locatePage n' = some (j, k) →
      (n < n' ↔ i < j ∨ i = j ∧ p < k)) ∧
    (∀ (paging : Paging) p, paging.model = some m → m.HasPage (paging.chapterIndex, p) →
      m.locatePage (paging.updatePageNumber p).2.page = some (paging.chapterIndex, p) ∧
      paging.updatePageNumber32? p = some (paging.updatePageNumber p)) ∧
    count32? 0 m.chapters = some m.totalPages ∧
    ∀ n, locate32? n 1 0 m.chapters = some (m.locatePage n) := by
  have hlimit : m.totalPages + 1 < Word32.limit := by
    rw [Word32.limit]
    omega
  refine ⟨fun n => locatePage_eq_none_iff, ?_, ?_, ?_, ?_, ?_, fun n => ?_⟩
  · rintro n ⟨i, p⟩ hplace
    exact (locatePage_eq_some_iff.1 hplace).1
  · rintro ⟨i, p⟩ hpage
    refine ⟨_, locatePage_eq_some_iff.2 ⟨hpage, rfl⟩, ?_⟩
    intro n hn
    exact (locatePage_eq_some_iff.1 hn).2
  · intro n n' i j p k hn hn'
    obtain ⟨hpage, rfl⟩ := locatePage_eq_some_iff.1 hn
    obtain ⟨hpage', rfl⟩ := locatePage_eq_some_iff.1 hn'
    exact number_lt hpage hpage'
  · intro paging p hmodel hpage
    have hrecorded : (paging.updatePageNumber p).2.page =
        pagesOf (m.chapters.take paging.chapterIndex) + p := by
      rw [Paging.updatePageNumber, hmodel]
    have hnumber := hpage.number_le
    refine ⟨locatePage_eq_some_iff.2 ⟨hpage, hrecorded⟩, Paging.updatePageNumber32?_eq ?_⟩
    omega
  · have hsum : count32? 0 m.chapters = some (0 + pagesOf m.chapters) :=
      count32?_eq (by rw [totalPages] at hlimit; omega)
    rw [hsum, Nat.zero_add, totalPages]
  · exact locate32?_eq (by rw [totalPages] at hlimit; omega)

theorem pages_numbered_letters :
    let letter : Nat → Chapter := fun pageCount => ⟨"letters", "letter", "pt_PT", false, none, pageCount⟩
    let m : DocumentModel := ⟨[letter 3, letter 0, letter 2], none⟩
    m.totalPages < 2 ^ 32 - 1 ∧ m.locatePage 7 = none ∧ m.locatePage 4 = some (1, 1) ∧
      (∃! n, m.locatePage n = some (2, 2)) ∧
      m.locatePage ((⟨some m, 2, (0, 0), 1, 6, false⟩ : Paging).updatePageNumber 2).2.page =
        some (2, 2) ∧
      locate32? 6 1 0 m.chapters = some (some (2, 2)) := by
  intro letter m
  have hm : m.totalPages < 2 ^ 32 - 1 := by decide
  have hpage : m.HasPage (2, 2) := ⟨letter 2, rfl, by decide, by decide⟩
  obtain ⟨hnone, -, hunique, -, hreport, -, hsearch⟩ := pages_numbered m hm
  refine ⟨hm, (hnone 7).2 (.inr (by decide)), by decide, hunique (2, 2) hpage, ?_, hsearch 6⟩
  exact (hreport ⟨some m, 2, (0, 0), 1, 6, false⟩ 2 rfl hpage).1

end DocumentModel

end BandCanvas
