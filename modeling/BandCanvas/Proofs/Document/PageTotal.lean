import BandCanvas.Proofs.Document.PageNumbers

namespace BandCanvas

namespace DocumentModel

variable {cs : List Chapter} {c : Chapter} {i : Nat}

theorem pages_le_pagesOf (h : cs[i]? = some c) : c.pages ≤ pagesOf cs := by
  have hsplit := pagesOf_split h
  omega

theorem pagesOf_set (h : cs[i]? = some c) (d : Chapter) :
    pagesOf (cs.set i d) + c.pages = pagesOf cs + d.pages := by
  obtain ⟨hlt, -⟩ := List.getElem?_eq_some_iff.1 h
  have hset : (cs.set i d)[i]? = some d := List.getElem?_set_self hlt
  have hsplit := pagesOf_split h
  have hsplit' := pagesOf_split hset
  rw [List.take_set_of_le (Nat.le_refl i), List.drop_set_of_lt (Nat.lt_add_one i)] at hsplit'
  omega

end DocumentModel

namespace Paging

/-- The total is that of the model. -/
def Counted (p : Paging) : Prop :=
  p.total = p.model.elim 0 DocumentModel.totalPages

/-- The pages of the model and the page that is shown can be written with 32 bits. -/
def Fits (p : Paging) : Prop :=
  p.model.elim 0 DocumentModel.totalPages < Word32.limit ∧ p.page < Word32.limit

variable {p : Paging} {m : DocumentModel} {c : Chapter} {model : Option DocumentModel} {count : Nat}

theorem exists_chapter (hc : p.chapter? = some c) :
    ∃ m, p.model = some m ∧ m.chapters[p.chapterIndex]? = some c :=
  Option.bind_eq_some_iff.1 hc

theorem chapter?_outside (h : ∀ m, p.model = some m → m.chapters.length ≤ p.chapterIndex) :
    p.chapter? = none := by
  rw [chapter?]
  cases hmodel : p.model with
  | none => rfl
  | some m => exact List.getElem?_eq_none (h m hmodel)

theorem updatePageCount_some (hmodel : p.model = some m) (hc : p.chapter? = some c) (count : Nat) :
    let c' := { c with pageCount := count }
    let total := p.total - c.pages + c'.pages
    p.updatePageCount count =
      (if total ≠ p.total ∧ !p.loading then some (.pageCount total) else none,
        { p with model := some { m with chapters := m.chapters.set p.chapterIndex c' }, total }) := by
  simp only [updatePageCount, hmodel, hc]

theorem updatePageCount_none (hc : p.chapter? = none) (count : Nat) :
    p.updatePageCount count = (none, p) := by
  rw [updatePageCount, hc]
  cases p.model <;> rfl

theorem Counted.pages_le (h : p.Counted) (hc : p.chapter? = some c) : c.pages ≤ p.total := by
  obtain ⟨m, hmodel, hget⟩ := exists_chapter hc
  rw [Counted, hmodel] at h
  rw [h]
  exact DocumentModel.pages_le_pagesOf hget

theorem Counted.updatePageCount (h : p.Counted) (count : Nat) : (p.updatePageCount count).2.Counted := by
  cases hc : p.chapter? with
  | none =>
    rw [updatePageCount_none hc]
    exact h
  | some c =>
    obtain ⟨m, hmodel, hget⟩ := exists_chapter hc
    have hle := h.pages_le hc
    have hset := DocumentModel.pagesOf_set hget { c with pageCount := count }
    have htotal : p.total = DocumentModel.pagesOf m.chapters := by
      rw [Counted, hmodel] at h
      exact h
    rw [updatePageCount_some hmodel hc]
    show p.total - c.pages + Chapter.pages { c with pageCount := count } =
      DocumentModel.pagesOf (m.chapters.set p.chapterIndex _)
    omega

theorem updatePageNumber_keeps (p : Paging) (page : Nat) :
    (p.updatePageNumber page).2.model = p.model ∧ (p.updatePageNumber page).2.total = p.total := by
  rw [updatePageNumber]
  split <;> exact ⟨rfl, rfl⟩

def reset32? (model : Option DocumentModel) (p : Paging) : Option Paging :=
  match model with
  | some m => do
    let total ← DocumentModel.count32? 0 m.chapters
    return { p.reset (some m) with total }
  | none => some (p.reset none)

theorem reset32?_eq (h : model.elim 0 DocumentModel.totalPages < Word32.limit) :
    p.reset32? model = some (p.reset model) := by
  cases model with
  | none => rfl
  | some m =>
    change DocumentModel.pagesOf m.chapters < Word32.limit at h
    rw [reset32?, DocumentModel.count32?_eq (by omega), Nat.zero_add]
    rfl

def updatePageCount32? (count : Nat) (p : Paging) : Option (Option DocumentEvent × Paging) :=
  match p.model, p.chapter? with
  | some m, some c => do
    let c' := { c with pageCount := count }
    let others ← Word32.sub? p.total c.pages
    let total ← Word32.add? others c'.pages
    let event := if total ≠ p.total ∧ !p.loading then some (.pageCount total) else none
    return (event, { p with model := some { m with chapters := m.chapters.set p.chapterIndex c' }, total })
  | _, _ => some (none, p)

/-- The pages of the chapter are part of the total, so what is taken off is there. -/
theorem updatePageCount32?_eq (h : p.Counted)
    (hfits : (p.updatePageCount count).2.total < Word32.limit) :
    p.updatePageCount32? count = some (p.updatePageCount count) := by
  cases hc : p.chapter? with
  | none =>
    rw [updatePageCount_none hc, updatePageCount32?, hc]
    cases p.model <;> rfl
  | some c =>
    obtain ⟨m, hmodel, -⟩ := exists_chapter hc
    have hle := h.pages_le hc
    rw [updatePageCount_some hmodel hc] at hfits ⊢
    have hsum : p.total - c.pages + Chapter.pages { c with pageCount := count } < Word32.limit := hfits
    simp only [updatePageCount32?, hmodel, hc]
    rw [Word32.sub?_eq hle, Option.bind_eq_bind, Option.bind_some, Word32.add?_eq hsum]
    rfl

end Paging

inductive PagingOperation where
  | reset (model : Option DocumentModel)
  | chapter (index : Nat)
  | loading (loading : Bool)
  | chapterPage (number count : Nat)
  | pageCount (count : Nat)
  | pageNumber (page : Nat)

namespace PagingOperation

def run (p : Paging) : PagingOperation → Option DocumentEvent × Paging
  | .reset model => (none, p.reset model)
  | .chapter index => (none, p.setChapterIndex index)
  | .loading b => (none, p.setLoading b)
  | .chapterPage number count => p.setChapterPage number count
  | .pageCount count => p.updatePageCount count
  | .pageNumber page => p.updatePageNumber page

def run32? (p : Paging) : PagingOperation → Option (Option DocumentEvent × Paging)
  | .reset model => (p.reset32? model).map (none, ·)
  | .pageCount count => p.updatePageCount32? count
  | .pageNumber page => p.updatePageNumber32? page
  | op => some (op.run p)

variable {p : Paging}

theorem run_counted (h : p.Counted) (op : PagingOperation) : (op.run p).2.Counted := by
  cases op with
  | reset model => exact rfl
  | chapter | loading => exact h
  | chapterPage number count =>
    rw [run, Paging.setChapterPage]
    split <;> exact h
  | pageCount count => exact h.updatePageCount count
  | pageNumber page =>
    obtain ⟨hmodel, htotal⟩ := p.updatePageNumber_keeps page
    rw [Paging.Counted, run, hmodel, htotal]
    exact h

theorem run32?_eq {op : PagingOperation} (h : p.Counted) (hfits : (op.run p).2.Fits) :
    op.run32? p = some (op.run p) := by
  have hcounted := op.run_counted h
  cases op with
  | reset model =>
    have hreset : p.reset32? model = some (p.reset model) := Paging.reset32?_eq hfits.1
    rw [run32?, hreset]
    rfl
  | pageCount count =>
    apply Paging.updatePageCount32?_eq h
    have htotal := hfits.1
    rw [← hcounted] at htotal
    exact htotal
  | pageNumber page => exact Paging.updatePageNumber32?_eq hfits.2
  | chapter | loading | chapterPage => rfl

end PagingOperation

namespace Paging

def after (ops : List PagingOperation) : Paging :=
  ops.foldl (fun p op => (op.run p).2) initial

theorem after_snoc (ops : List PagingOperation) (op : PagingOperation) :
    after (ops ++ [op]) = (op.run (after ops)).2 :=
  List.foldl_append

theorem after_counted (ops : List PagingOperation) : (after ops).Counted := by
  rw [← List.reverse_reverse ops]
  induction ops.reverse with
  | nil => exact rfl
  | cons op past ih =>
    rw [List.reverse_cons, after_snoc]
    exact op.run_counted ih

/-- After any operations the total is the sum over the chapters of the model, and 32 bits are enough for it. -/
theorem total_never_drifts (ops : List PagingOperation)
    (hfits : ∀ past, past <+: ops → (after past).Fits) :
    let p := after ops
    p.total = p.model.elim 0 (fun m => (m.chapters.map fun c => max c.pageCount 1).sum) ∧
    (∀ c, p.chapter? = some c → max c.pageCount 1 ≤ p.total) ∧
    (∀ count, (∀ m, p.model = some m → m.chapters.length ≤ p.chapterIndex) →
      p.updatePageCount count = (none, p)) ∧
    (∀ count, let q := (p.updatePageCount count).2
      (p.updatePageCount count).1 =
        if q.total ≠ p.total ∧ p.loading = false then some (.pageCount q.total) else none) ∧
    (∀ page, (p.updatePageNumber page).2.model = p.model ∧
      (p.updatePageNumber page).2.total = p.total) ∧
    ∀ past op, past ++ [op] <+: ops → op.run32? (after past) = some (op.run (after past)) := by
  intro p
  have hcounted : p.Counted := after_counted ops
  refine ⟨?_, fun c hc => hcounted.pages_le hc,
    fun count houtside => updatePageCount_none (chapter?_outside houtside) count, ?_,
    p.updatePageNumber_keeps, ?_⟩
  · rw [hcounted]
    cases p.model with
    | none => rfl
    | some m => exact DocumentModel.pagesOf_eq_sum m.chapters
  · intro count
    cases hc : p.chapter? with
    | none =>
      rw [updatePageCount_none hc]
      exact (if_neg fun h => h.1 rfl).symm
    | some c =>
      obtain ⟨m, hmodel, -⟩ := exists_chapter hc
      rw [updatePageCount_some hmodel hc]
      simp only [Bool.not_eq_true']
  · intro past op hpast
    have hnext := hfits _ hpast
    rw [after_snoc] at hnext
    exact PagingOperation.run32?_eq (after_counted past) hnext

theorem total_never_drifts_letters :
    let letter : Nat → Chapter := fun pageCount => ⟨"letters", "letter", "pt_PT", false, none, pageCount⟩
    let ops : List PagingOperation :=
      [.reset (some ⟨[letter 3, letter 2], none⟩), .pageCount 0, .chapter 2]
    (∀ past, past <+: ops → (after past).Fits) ∧
      (after ops).total = 3 ∧ (after ops).updatePageCount 7 = (none, after ops) ∧
      PagingOperation.run32? (after [.reset (some ⟨[letter 3, letter 2], none⟩)]) (.pageCount 0) =
        some (some (.pageCount 3), after (ops.take 2)) := by
  intro letter ops
  have hfits : ∀ past, past <+: ops → (after past).Fits := by
    intro past hpast
    have hlength := hpast.length_le
    rw [List.prefix_iff_eq_take.1 hpast]
    generalize past.length = n at hlength
    obtain _ | _ | _ | _ | n := n
    case succ.succ.succ.succ => exact absurd hlength (by simp [ops])
    all_goals exact ⟨by decide, by decide⟩
  obtain ⟨htotal, -, houtside, -, -, hsteps⟩ := total_never_drifts ops hfits
  refine ⟨hfits, htotal, houtside 7 ?_, hsteps [.reset _] (.pageCount 0) ⟨[.chapter 2], rfl⟩⟩
  intro m hm
  obtain rfl := Option.some.inj hm
  exact Nat.le_refl 2

end Paging

end BandCanvas
