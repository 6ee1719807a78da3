namespace BandCanvas

variable {α : Type} {p : α → Bool} {as bs : List α}

/-- The place where the elements with `p` end, looked for among the `size` elements from `base` on. -/
def partitionFrom (p : α → Bool) (as : List α) (base size : Nat) : Nat :=
  if size = 0 then base
  else
    let half := size / 2
    if as[base + half]?.any p then partitionFrom p as (base + half + 1) (size - half - 1)
    else partitionFrom p as base half
termination_by size

def partitionPoint (p : α → Bool) (as : List α) : Nat :=
  partitionFrom p as 0 as.length

theorem partitionFrom_append (has : ∀ a ∈ as, p a) (hbs : ∀ b ∈ bs, p b = false) {base size : Nat}
    (hbase : base ≤ as.length) (hend : as.length ≤ base + size)
    (hsize : base + size ≤ as.length + bs.length) :
    partitionFrom p (as ++ bs) base size = as.length := by
  induction size using Nat.strongRecOn generalizing base with
  | ind size ih =>
    rw [partitionFrom]
    split
    next => omega
    next =>
      by_cases hhalf : base + size / 2 < as.length
      · have hget : (as ++ bs)[base + size / 2]? = some as[base + size / 2] := by
          rw [List.getElem?_append_left hhalf, List.getElem?_eq_getElem hhalf]
        have hp : p as[base + size / 2] = true := has _ (List.getElem_mem hhalf)
        simp only [hget, Option.any_some, hp, if_true]
        exact ih _ (by omega) (by omega) (by omega) (by omega)
      · have hlt : base + size / 2 - as.length < bs.length := by omega
        have hget : (as ++ bs)[base + size / 2]? = some bs[base + size / 2 - as.length] := by
          rw [List.getElem?_append_right (Nat.le_of_not_lt hhalf), List.getElem?_eq_getElem hlt]
        have hp : p bs[base + size / 2 - as.length] = false := hbs _ (List.getElem_mem hlt)
        simp only [hget, Option.any_some, hp, Bool.false_eq_true, if_false]
        exact ih _ (by omega) hbase (by omega) (by omega)

theorem partitionPoint_append (has : ∀ a ∈ as, p a) (hbs : ∀ b ∈ bs, p b = false) :
    partitionPoint p (as ++ bs) = as.length := by
  rw [partitionPoint, List.length_append]
  exact partitionFrom_append has hbs (Nat.zero_le _) (by omega) (by omega)

theorem exists_partition (h : as.Pairwise fun a b => p b → p a) :
    ∃ pre post, as = pre ++ post ∧ (∀ a ∈ pre, p a) ∧ (∀ a ∈ post, p a = false) ∧
      partitionPoint p as = pre.length := by
  have hsplit : as = as.takeWhile p ++ as.dropWhile p := List.takeWhile_append_dropWhile.symm
  have hpre : ∀ a ∈ as.takeWhile p, p a := List.all_eq_true.1 List.all_takeWhile
  have hpost : ∀ a ∈ as.dropWhile p, p a = false := by
    cases hrest : as.dropWhile p with
    | nil => exact List.forall_mem_nil _
    | cons b post =>
      have hb : p b = false := by
        have hhead := List.head?_dropWhile_not p as
        rw [hrest] at hhead
        simpa using hhead
      rw [hsplit, hrest] at h
      have hafter := (List.pairwise_cons.1 (List.pairwise_append.1 h).2.1).1
      intro a ha
      rcases List.mem_cons.1 ha with rfl | ha
      · exact hb
      · exact Bool.eq_false_iff.2 fun hpa => Bool.eq_false_iff.1 hb (hafter a ha hpa)
  refine ⟨_, _, hsplit, hpre, hpost, ?_⟩
  have hpoint := partitionPoint_append hpre hpost
  rwa [← hsplit] at hpoint

theorem partitionFrom_map {β : Type} (p : β → Bool) (f : α → β) (as : List α) (base size : Nat) :
    partitionFrom p (as.map f) base size = partitionFrom (fun a => p (f a)) as base size := by
  induction size using Nat.strongRecOn generalizing base with
  | ind size ih =>
    rw [partitionFrom, partitionFrom]
    split
    · rfl
    next =>
      simp only [List.getElem?_map, Option.any_map]
      rw [ih _ (by omega), ih _ (by omega)]

theorem partitionPoint_map {β : Type} (p : β → Bool) (f : α → β) (as : List α) :
    partitionPoint p (as.map f) = partitionPoint (fun a => p (f a)) as := by
  rw [partitionPoint, partitionFrom_map, List.length_map, partitionPoint]

end BandCanvas
