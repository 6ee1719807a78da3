import BandCanvas.Proofs.Document.Arming
import Mathlib.Data.List.Chain

namespace BandCanvas

namespace DocumentOperation

def answer (d : Document) : DocumentOperation → List Bool
  | .tick now ls => [(d.tick now ls).1]
  | _ => []

def isTick : DocumentOperation → Bool
  | .tick .. => true
  | _ => false

def time? : DocumentOperation → Option Nat
  | .tick now _ | .fontsLoaded now => some now
  | _ => none

variable {d : Document} {op : DocumentOperation} {now : Nat}

theorem time?_of_arming (h : op.arming d = some now) : op.time? = some now := by
  cases op with
  | tick now' ls =>
    rw [arming] at h
    split at h
    · exact h
    · cases h
  | fontsLoaded now' => exact h
  | _ => cases h

theorem armed_of_arming (h : op.arming d = some now) : op.armed d = d.timer.arm now := by
  rw [armed, h, Option.elim_some]

theorem armed_of_none (h : op.arming d = none) : op.armed d = d.timer := by
  rw [armed, h, Option.elim_none]

theorem armed_delay (op : DocumentOperation) (d : Document) : (op.armed d).delay = d.timer.delay := by
  rw [armed]
  cases op.arming d <;> rfl

theorem answer_of_not_tick (h : op.isTick = false) : op.answer d = [] := by
  cases op with
  | tick => cases h
  | _ => rfl

theorem armed_isArmed_le (op : DocumentOperation) (d : Document) :
    (op.armed d).isArmed.toNat ≤ (op.arming d).toList.length + d.timer.isArmed.toNat := by
  cases harming : op.arming d with
  | none => simp [armed_of_none harming]
  | some now =>
    rw [armed_of_arming harming, RedrawTimer.arm_isArmed]
    exact Nat.le_add_right 1 _

end DocumentOperation

namespace Document

section Histories

variable (host : WidgetHost) (d : Document) (ops : List DocumentOperation)

def marks : List TimerMark :=
  d.noted host (fun d op => op.marks host d) ops

def armings : List Nat :=
  d.noted host (fun d op => (op.arming d).toList) ops

def answers : List Bool :=
  d.noted host (fun d op => op.answer d) ops

end Histories

variable (host : WidgetHost) {d : Document} {op : DocumentOperation} {ops : List DocumentOperation}

theorem answers_append (d : Document) (ops more : List DocumentOperation) :
    d.answers host (ops ++ more) = d.answers host ops ++ (d.run host ops).document.answers host more :=
  noted_append host _ d ops more

/-- A repaint by a tick uses up an arming. -/
theorem operation_answer_le (op : DocumentOperation) (d : Document) :
    (op.answer d).count true + (op.run host d).document.timer.isArmed.toNat ≤
      (op.arming d).toList.length + d.timer.isArmed.toNat := by
  apply Nat.le_trans _ (op.armed_isArmed_le d)
  rw [operation_timer]
  cases hop : op.isTick with
  | true =>
    cases op with
    | tick now ls =>
      rw [DocumentOperation.answer, DocumentOperation.clears, tick_fst]
      cases hdue : ((DocumentOperation.tick now ls).armed d).isDue now with
      | true =>
        have harmed := RedrawTimer.isArmed_of_isDue hdue
        have hcancelled := ((DocumentOperation.tick now ls).armed d).cancel_isArmed
        simp [harmed, hcancelled]
      | false => simp
    | _ => cases hop
  | false =>
    rw [DocumentOperation.answer_of_not_tick hop]
    have hcancelled := (op.armed d).cancel_isArmed
    cases op.clears host d <;> simp [hcancelled]

theorem answers_count_le (ops : List DocumentOperation) (d : Document) :
    (d.answers host ops).count true + (d.run host ops).document.timer.isArmed.toNat ≤
      (d.armings host ops).length + d.timer.isArmed.toNat := by
  induction ops generalizing d with
  | nil => simp [answers, armings, noted, run, quiet]
  | cons op ops ih =>
    have hfirst := operation_answer_le host op d
    have hrest := ih (op.run host d).document
    simp only [answers, armings, noted, List.count_append, List.length_append, run_cons] at hrest ⊢
    omega

variable {host}

theorem answers_eq_zero (hrests : d.timer.isArmed = false) (hcalm : d.armings host ops = []) :
    (d.answers host ops).count true = 0 := by
  have hle := answers_count_le host ops d
  rw [hrests, hcalm] at hle
  exact Nat.le_zero.1 (Nat.le_trans (Nat.le_add_right _ _) hle)

/-- Nothing but ticks repaints, and there is no reset. -/
def OnlyTicks (host : WidgetHost) (d : Document) (ops : List DocumentOperation) : Prop :=
  ∀ before op after, ops = before ++ op :: after → op.isTick = false →
    op.clears host (d.run host before).document = false

namespace OnlyTicks

variable {more : List DocumentOperation}

theorem head (h : OnlyTicks host d (op :: ops)) : op.isTick = false → op.clears host d = false :=
  h [] op ops rfl

theorem right (h : OnlyTicks host d (ops ++ more)) : OnlyTicks host (d.run host ops).document more := by
  intro before op after hsplit
  have hall := h (ops ++ before) op after (by rw [hsplit, List.append_assoc])
  rw [run_append] at hall
  exact hall

theorem left (h : OnlyTicks host d (ops ++ more)) : OnlyTicks host d ops := by
  intro before op after hsplit
  exact h before op (after ++ more) (by rw [hsplit, List.append_assoc, List.cons_append])

theorem tail (h : OnlyTicks host d (op :: ops)) : OnlyTicks host (op.run host d).document ops := by
  have hsplit : OnlyTicks host d ([op] ++ ops) := h
  exact hsplit.right

end OnlyTicks

/-- An operation that is no tick at the end of the delay only arms the timer, and repaints nothing. -/
theorem operation_of_not_due (hticks : op.isTick = false → op.clears host d = false)
    (hdue : ∀ now ls, op = .tick now ls → (op.armed d).isDue now = false) :
    (op.answer d).count true = 0 ∧ (op.run host d).document.timer = op.armed d := by
  rw [operation_timer]
  cases hop : op.isTick with
  | true =>
    cases op with
    | tick now ls =>
      rw [DocumentOperation.answer, DocumentOperation.clears, tick_fst, hdue now ls rfl]
      exact ⟨rfl, rfl⟩
    | _ => cases hop
  | false =>
    rw [DocumentOperation.answer_of_not_tick hop, hticks hop]
    exact ⟨rfl, rfl⟩

/-- Where nothing arms the timer any more, an operation repaints at the deadline, or leaves that to what
comes after it. -/
theorem answers_cons_eq_one {deadline : Nat} (hdeadline : (op.armed d).deadline = some deadline)
    (hcalm : (op.run host d).document.armings host ops = []) (hticks : OnlyTicks host d (op :: ops))
    (hlater : (∀ now ls, op = .tick now ls → ¬ deadline ≤ now) →
      (op.run host d).document.timer.deadline = some deadline →
      ((op.run host d).document.answers host ops).count true = 1) :
    (d.answers host (op :: ops)).count true = 1 := by
  have hdue_iff : ∀ now, (op.armed d).isDue now = true ↔ deadline ≤ now := by
    intro now
    rw [RedrawTimer.isDue_iff, hdeadline]
    simp
  show (op.answer d ++ (op.run host d).document.answers host ops).count true = 1
  rw [List.count_append]
  by_cases hfires : ∃ now ls, op = .tick now ls ∧ deadline ≤ now
  · obtain ⟨now, ls, rfl, hnow⟩ := hfires
    have hdue := (hdue_iff now).2 hnow
    have hover : ((DocumentOperation.tick now ls).run host d).document.timer.isArmed = false := by
      rw [operation_timer, DocumentOperation.clears, tick_fst, hdue]
      rfl
    rw [answers_eq_zero hover hcalm, DocumentOperation.answer, tick_fst, hdue]
    rfl
  · have hearly : ∀ now ls, op = .tick now ls → ¬ deadline ≤ now :=
      fun now ls hop hnow => hfires ⟨now, ls, hop, hnow⟩
    obtain ⟨hanswer, htimer⟩ := operation_of_not_due hticks.head fun now ls hop =>
      Bool.eq_false_iff.2 fun hdue => hearly now ls hop ((hdue_iff now).1 hdue)
    rw [hanswer, hlater hearly (by rw [htimer, hdeadline])]

/-- Once the timer is armed, a tick at its deadline repaints, and none after it. -/
theorem answers_eq_one {deadline : Nat} (hdeadline : d.timer.deadline = some deadline)
    (hcalm : d.armings host ops = []) (hticks : OnlyTicks host d ops)
    (hlooked : ∃ now ls, .tick now ls ∈ ops ∧ deadline ≤ now) :
    (d.answers host ops).count true = 1 := by
  induction ops generalizing d with
  | nil =>
    obtain ⟨now, ls, hmem, -⟩ := hlooked
    cases hmem
  | cons op ops ih =>
    obtain ⟨hfirst, hrest⟩ := List.append_eq_nil_iff.1 hcalm
    have harmed : op.armed d = d.timer :=
      DocumentOperation.armed_of_none (Option.toList_eq_nil_iff.1 hfirst)
    apply answers_cons_eq_one (by rw [harmed, hdeadline]) hrest hticks
    intro hearly hstill
    obtain ⟨now, ls, hmem, hnow⟩ := hlooked
    have hlater : .tick now ls ∈ ops := by
      rcases List.mem_cons.1 hmem with hop | hmem
      · exact absurd hnow (hearly now ls hop.symm)
      · exact hmem
    exact ih hstill hrest hticks.tail ⟨now, ls, hlater, hnow⟩

theorem mem_times_of_mem_armings {u : Nat} (h : u ∈ d.armings host ops) :
    u ∈ ops.filterMap DocumentOperation.time? := by
  induction ops generalizing d with
  | nil => cases h
  | cons op ops ih =>
    rcases List.mem_append.1 h with hfirst | hrest
    · have harming : op.arming d = some u := Option.mem_toList.1 hfirst
      exact List.mem_filterMap.2
        ⟨op, List.mem_cons_self, DocumentOperation.time?_of_arming harming⟩
    · obtain ⟨op', hmem, htime⟩ := List.mem_filterMap.1 (ih hrest)
      exact List.mem_filterMap.2 ⟨op', List.mem_cons_of_mem op hmem, htime⟩

theorem lt_of_close {delay now latest t : Nat} {us : List Nat}
    (hclose : (latest :: (us ++ [t])).IsChain fun s u => u < s + delay)
    (hbefore : ∀ u ∈ us ++ [t], now ≤ u) : now < latest + delay := by
  cases us with
  | nil => exact Nat.lt_of_le_of_lt (hbefore t List.mem_cons_self) (List.isChain_cons_cons.1 hclose).1
  | cons u us =>
    exact Nat.lt_of_le_of_lt (hbefore u List.mem_cons_self) (List.isChain_cons_cons.1 hclose).1

theorem not_isDue_of_close {timer : RedrawTimer} {delay now t : Nat} {latest : Option Nat} {us : List Nat}
    (hdeadline : timer.deadline = latest.map (· + delay))
    (hclose : (latest.toList ++ (us ++ [t])).IsChain fun s u => u < s + delay)
    (hbefore : ∀ u ∈ us ++ [t], now ≤ u) : timer.isDue now = false := by
  apply Bool.eq_false_iff.2
  intro hdue
  obtain ⟨deadline, hsome, hnow⟩ := RedrawTimer.isDue_iff.1 hdue
  rw [hdeadline] at hsome
  obtain ⟨before, rfl, rfl⟩ := Option.map_eq_some_iff.1 hsome
  exact absurd hnow (Nat.not_le_of_gt (lt_of_close hclose hbefore))

/-- Before the last of the loads that come close together, no tick repaints. -/
theorem answers_early_eq_zero (latest : Option Nat) {t : Nat}
    (hdeadline : d.timer.deadline = latest.map (· + d.timer.delay)) (hticks : OnlyTicks host d ops)
    (hclose : (latest.toList ++ (d.armings host ops ++ [t])).IsChain fun s u => u < s + d.timer.delay)
    (hforward : (latest.toList ++ (ops.filterMap DocumentOperation.time? ++ [t])).Pairwise (· ≤ ·)) :
    (d.answers host ops).count true = 0 := by
  induction ops generalizing d latest with
  | nil => rfl
  | cons op ops ih =>
    have harmings : d.armings host (op :: ops) =
        (op.arming d).toList ++ (op.run host d).document.armings host ops := rfl
    have htimes : (op :: ops).filterMap DocumentOperation.time? =
        op.time?.toList ++ ops.filterMap DocumentOperation.time? := by
      rw [List.filterMap_cons]
      cases op.time? <;> rfl
    rw [harmings, List.append_assoc] at hclose
    rw [htimes, List.append_assoc] at hforward
    -- an arming by this operation takes the place of the latest one
    have hclose' : (((op.arming d).or latest).toList ++
        ((op.run host d).document.armings host ops ++ [t])).IsChain fun s u => u < s + d.timer.delay := by
      cases harming : op.arming d with
      | none =>
        rw [harming] at hclose
        exact hclose
      | some now =>
        rw [harming] at hclose
        exact hclose.right_of_append
    have hforward' : (((op.arming d).or latest).toList ++
        (ops.filterMap DocumentOperation.time? ++ [t])).Pairwise (· ≤ ·) := by
      cases harming : op.arming d with
      | none =>
        have hfewer := List.sublist_append_right op.time?.toList
          (ops.filterMap DocumentOperation.time? ++ [t])
        exact hforward.sublist (hfewer.append_left latest.toList)
      | some now =>
        rw [DocumentOperation.time?_of_arming harming] at hforward
        exact (List.pairwise_append.1 hforward).2.1
    have harmed : (op.armed d).deadline = ((op.arming d).or latest).map (· + d.timer.delay) := by
      cases harming : op.arming d with
      | none => rw [DocumentOperation.armed_of_none harming]; exact hdeadline
      | some now => rw [DocumentOperation.armed_of_arming harming]; rfl
    have hdue : ∀ now ls, op = .tick now ls → (op.armed d).isDue now = false := by
      rintro now ls rfl
      -- the next arming is no earlier than this tick
      have hnext : ∀ u ∈ ops.filterMap DocumentOperation.time? ++ [t], now ≤ u :=
        (List.pairwise_cons.1 (List.pairwise_append.1 hforward).2.1).1
      apply not_isDue_of_close harmed hclose'
      intro u hu
      apply hnext
      rcases List.mem_append.1 hu with hu | hu
      · exact List.mem_append_left _ (mem_times_of_mem_armings hu)
      · exact List.mem_append_right _ hu
    obtain ⟨hanswer, htimer⟩ := operation_of_not_due hticks.head hdue
    have hdelay : (op.run host d).document.timer.delay = d.timer.delay := by
      rw [htimer, DocumentOperation.armed_delay]
    have hrest := ih ((op.arming d).or latest) (by rw [hdelay, htimer, harmed]) hticks.tail
      (by rw [hdelay]; exact hclose') hforward'
    show (op.answer d ++ (op.run host d).document.answers host ops).count true = 0
    rw [List.count_append, hanswer, hrest]

theorem run_delay (ops : List DocumentOperation) (d : Document) :
    (d.run host ops).document.timer.delay = d.timer.delay := by
  rw [run_timer, RedrawTimer.foldl_take]
  cases (d.noted host (fun d op => op.marks host d) ops).getLast? with
  | none => rfl
  | some m => cases m <;> rfl

/-- Arrivals that come closer together than the delay: the operation `last` is the last that arms the timer, at
the time `t`. -/
structure Burst (host : WidgetHost) (d : Document) (early : List DocumentOperation)
    (last : DocumentOperation) (later : List DocumentOperation) (t : Nat) : Prop where
  rests : d.timer.isArmed = false
  arms : last.arming (d.run host early).document = some t
  close : (d.armings host early ++ [t]).IsChain fun s u => u < s + d.timer.delay
  forward : (early.filterMap DocumentOperation.time? ++ [t]).Pairwise (· ≤ ·)
  calm : (d.run host (early ++ [last])).document.armings host later = []
  ticks : OnlyTicks host d (early ++ last :: later)
  looked : ∃ now ls, .tick now ls ∈ later ∧ t + d.timer.delay ≤ now

theorem Burst.answers_eq_one {early later : List DocumentOperation} {last : DocumentOperation} {t : Nat}
    (h : Burst host d early last later t) :
    (d.answers host (early ++ last :: later)).count true = 1 := by
  have hquiet : (d.answers host early).count true = 0 := by
    apply answers_early_eq_zero none _ h.ticks.left h.close h.forward
    exact RedrawTimer.isArmed_eq_false_iff.1 h.rests
  have hdeadline : (last.armed (d.run host early).document).deadline = some (t + d.timer.delay) := by
    rw [DocumentOperation.armed_of_arming h.arms, ← run_delay early d]
    rfl
  have hlater : (last.run host (d.run host early).document).document =
      (d.run host (early ++ [last])).document := by
    rw [run_append, Outcome.andThen, run_singleton]
  have hone : ((d.run host early).document.answers host (last :: later)).count true = 1 := by
    apply answers_cons_eq_one hdeadline (by rw [hlater]; exact h.calm) h.ticks.right
    intro hearly hstill
    exact Document.answers_eq_one hstill (by rw [hlater]; exact h.calm) h.ticks.right.tail h.looked
  rw [answers_append, List.count_append, hquiet, hone]

/-- No load brings a picture: it failed, is empty, is not waited for, or is not the first for its path. -/
def Useless (ls : List ImageLoad) (c : ImageCache) : Prop :=
  ∀ before l after, ls = before ++ l :: after →
    l.picture = none ∨ (∃ b, l.picture = some b ∧ b.isEmpty = true) ∨ c.get? l.path ≠ some .pending ∨
      ∃ l' ∈ before, l'.path = l.path

theorem arming_of_useless {ls : List ImageLoad} (h : Useless ls d.images) (now : Nat) :
    (DocumentOperation.tick now ls).arming d = none := by
  have hnone : ¬ arrives ls d.images = true := by
    rw [arrives_iff_first]
    rintro ⟨path, l, b, hpending, hfirst, hready⟩
    obtain ⟨hpath, before, after, hsplit, hbefore⟩ := List.find?_eq_some_iff_append.1 hfirst
    obtain rfl : l.path = path := by simpa using hpath
    rcases h before l after hsplit with hfailed | ⟨b', hpicture, hempty⟩ | hunwanted | ⟨l', hl', hsame⟩
    · rw [hfailed] at hready
      cases hready
    · rw [hpicture, ImageEntry.ofLoad, hempty] at hready
      cases hready
    · exact hunwanted hpending
    · simpa [hsame] using hbefore l' hl'
  rw [DocumentOperation.arming, if_neg hnone]

theorem armings_of_useless (hfonts : ∀ now, .fontsLoaded now ∉ ops)
    (huseless : ∀ before now ls after, ops = before ++ .tick now ls :: after →
      Useless ls (d.run host before).document.images) :
    d.armings host ops = [] := by
  induction ops generalizing d with
  | nil => rfl
  | cons op ops ih =>
    have hnone : op.arming d = none := by
      cases op with
      | tick now ls => exact arming_of_useless (huseless [] now ls ops rfl) now
      | fontsLoaded now => exact absurd List.mem_cons_self (hfonts now)
      | _ => rfl
    have hrest := ih (d := (op.run host d).document)
      (fun now hmem => hfonts now (List.mem_cons_of_mem op hmem))
      (fun before now ls after hsplit => huseless (op :: before) now ls after (by rw [hsplit]; rfl))
    show (op.arming d).toList ++ (op.run host d).document.armings host ops = []
    rw [hnone, hrest]
    rfl

/-- A tick repaints exactly when the delay of the latest arming is over. Sums of time and delay are taken to be
representable. -/
theorem redraws_coalesce (host : WidgetHost) (options : DocumentOptions) (past : List DocumentOperation) :
    let new := (create options).document
    let d := (new.run host past).document
    (∀ now ls,
      let arming := (DocumentOperation.tick now ls).arming d
      (arming = some now ↔ ∃ path b, d.images.get? path = some .pending ∧
        (completeLoads ls d.images).2.get? path = some (.ready b)) ∧
      ((d.tick now ls).1 = true ↔ ∃ latest,
        TimerMark.latestArming (new.marks host past ++ arming.toList.map .armed) = some latest ∧
          latest + options.redrawDelay ≤ now) ∧
      (d.tick now ls).2.effects =
        if (d.tick now ls).1 then { d with images := (completeLoads ls d.images).2 }.repaint.effects
        else []) ∧
    (new.answers host past).count true ≤ (new.armings host past).length ∧
    (∀ early last later t, Burst host d early last later t →
      (d.answers host (early ++ last :: later)).count true = 1) ∧
    (∀ now ls, Useless ls d.images →
      (DocumentOperation.tick now ls).arming d = none ∧ (d.tick now ls).1 = (d.tick now []).1) ∧
    ∀ ops, d.timer.isArmed = false → (∀ now, .fontsLoaded now ∉ ops) →
      (∀ before now ls after, ops = before ++ .tick now ls :: after →
        Useless ls (d.run host before).document.images) →
      (d.answers host ops).count true = 0 := by
  intro new d
  refine ⟨fun now ls => ⟨?_, ?_, ?_⟩, ?_, fun early last later t h => h.answers_eq_one, ?_, ?_⟩
  · rw [← arrives_iff, DocumentOperation.arming]
    split <;> simp_all
  · have htimer : (DocumentOperation.tick now ls).armed d = (new.marks host past ++
        (((DocumentOperation.tick now ls).arming d).toList.map TimerMark.armed)).foldl RedrawTimer.take
          new.timer := by
      rw [List.foldl_append, marks, ← run_timer, foldl_armed]
    rw [tick_fst, htimer]
    exact RedrawTimer.isDue_foldl_take rfl _
  · rw [tick_eq]
    simp only
    split <;> rfl
  · exact Nat.le_trans (Nat.le_add_right _ _) (answers_count_le host past new)
  · intro now ls huseless
    have harming := arming_of_useless huseless now
    refine ⟨harming, ?_⟩
    have hnothing : (DocumentOperation.tick now []).arming d = none :=
      arming_of_useless (fun before l after hsplit => by simp at hsplit) now
    rw [tick_fst, tick_fst, DocumentOperation.armed_of_none harming,
      DocumentOperation.armed_of_none hnothing]
  · intro ops hrests hfonts huseless
    exact answers_eq_zero hrests (armings_of_useless hfonts huseless)

theorem burst_logo (host : WidgetHost) :
    Burst host { (create DocumentOptions.standard).document with images := ⟨[("logo.png", .pending)]⟩ }
      [.tick 0 [⟨"logo.png", some (Bitmap.blank 1 1)⟩], .tick 50 []] (.fontsLoaded 100)
      [.tick 350 [], .tick 400 []] 100 where
  rests := rfl
  arms := rfl
  close := by
    have harmings : armings host
        { (create DocumentOptions.standard).document with images := ⟨[("logo.png", .pending)]⟩ }
        [.tick 0 [⟨"logo.png", some (Bitmap.blank 1 1)⟩], .tick 50 []] = [0] := rfl
    rw [harmings]
    decide
  forward := by decide
  calm := rfl
  ticks := by
    intro before op after hsplit hop
    have hmem : op ∈ before ++ op :: after := List.mem_append_right _ List.mem_cons_self
    rw [← hsplit] at hmem
    simp only [List.cons_append, List.nil_append, List.mem_cons, List.not_mem_nil, or_false] at hmem
    rcases hmem with rfl | rfl | rfl | rfl | rfl
    · cases hop
    · cases hop
    · rfl
    · cases hop
    · cases hop
  looked := ⟨400, [], by simp, by decide⟩

theorem redraws_coalesce_logo :
    let host : WidgetHost := ⟨fun _ => none, fun _ _ => .ok (), fun _ box => box⟩
    let d := ((create DocumentOptions.standard).document.run host [.paint logo.source]).document
    (d.answers host [.tick 0 [⟨"logo.png", some (Bitmap.blank 1 1)⟩], .tick 50 [], .fontsLoaded 100,
      .tick 350 [], .tick 400 []]).count true = 1 ∧
    (d.tick 10 [⟨"logo.png", none⟩]).1 = (d.tick 10 []).1 := by
  intro host d
  have hd : d = { (create DocumentOptions.standard).document with
      images := ⟨[("logo.png", .pending)]⟩ } := by
    show ((create DocumentOptions.standard).document.run host [.paint logo.source]).document = _
    rw [run_singleton, DocumentOperation.run, paint_logo host rfl]
  obtain ⟨-, -, hburst, huseless, -⟩ :=
    redraws_coalesce host DocumentOptions.standard [.paint logo.source]
  have hlogo : Burst host d _ _ _ 100 := hd ▸ burst_logo host
  have hfailed : Useless [⟨"logo.png", none⟩] d.images := by
    intro before l after hsplit
    have hmem : l ∈ before ++ l :: after := List.mem_append_right _ List.mem_cons_self
    rw [← hsplit] at hmem
    obtain rfl := List.mem_singleton.1 hmem
    exact .inl rfl
  exact ⟨hburst _ _ _ _ hlogo, (huseless 10 _ hfailed).2⟩

end Document

end BandCanvas
