import Mathlib.Data.List.Nodup
import Mathlib.Data.List.Pairwise
import BandCanvas.Document.Operation
import BandCanvas.Proofs.Document.Frame

namespace BandCanvas

namespace Step

def band? (source : String) : Step → Option Band
  | (.ok (.band h), c) => some (h.band source c.offset)
  | _ => none

def defined (source : String) (xs : List Step) : List Band :=
  xs.filterMap (band? source)

def store (source : String) (s : BandStore) : Step → BandStore
  | (.ok k, c) => Document.bandsAfter source c.offset s k
  | (.error _, _) => s

/-- The bands that are stored after steps of a stream. -/
def stored (source : String) (xs : List Step) (s : BandStore) : BandStore :=
  xs.foldl (store source) s

variable {source : String} {x : Step} {xs : List Step} {s : BandStore} {a b : Band}

theorem band?_of_not_band (h : finds Command.isBand x = false) : band? source x = none := by
  obtain ⟨r, c⟩ := x
  cases r with
  | error e => rfl
  | ok k => cases k <;> first | rfl | cases h

theorem band?_of_not_delimiter (h : finds Command.endsReplay x = false) : band? source x = none := by
  obtain ⟨r, c⟩ := x
  cases r with
  | error e => rfl
  | ok k => cases k <;> first | rfl | cases h

theorem band?_of_endsPass (h : finds Command.endsPass x = true) : band? source x = none := by
  obtain ⟨r, c⟩ := x
  cases r with
  | error e => rfl
  | ok k => cases k <;> first | rfl | cases h

theorem delimiter_cases (h : finds Command.endsReplay x = true) :
    finds Command.isReset x = true ∨ finds Command.endsPass x = true ∨
      ∃ header c, x = (.ok (.band header), c) := by
  obtain ⟨r, c⟩ := x
  cases r with
  | error e => cases h
  | ok k =>
    cases k with
    | reset hard => exact .inl rfl
    | band header => exact .inr (.inr ⟨header, c, rfl⟩)
    | update => exact .inr (.inl rfl)
    | editor e =>
      cases e with
      | prepare box => exact .inr (.inl rfl)
      | _ => cases h
    | _ => cases h

theorem defined_of_no_band (h : ∀ x ∈ xs, finds Command.isBand x = false) : defined source xs = [] :=
  List.filterMap_eq_nil_iff.2 fun x hx => band?_of_not_band (h x hx)

theorem mem_store_of_defined (h : band? source x = some b) : b ∈ (store source s x).bands := by
  unfold band? at h
  split at h
  · cases h
    exact BandStore.mem_upsert_self _ _
  · cases h

theorem mem_store_of_mem (hx : finds Command.isReset x = false) (hb : b ∈ s.bands)
    (hne : ∀ a ∈ band? source x, b.id ≠ a.id) : b ∈ (store source s x).bands := by
  obtain ⟨r, c⟩ := x
  cases r with
  | error e => exact hb
  | ok k =>
    cases k with
    | reset hard => cases hx
    | band h => exact BandStore.mem_upsert_of_ne hb (hne _ rfl)
    | _ => exact hb

theorem mem_or_defined_of_mem_store (h : b ∈ (store source s x).bands) :
    b ∈ s.bands ∨ band? source x = some b := by
  obtain ⟨r, c⟩ := x
  cases r with
  | error e => exact .inl h
  | ok k =>
    cases k with
    | reset hard => cases h
    | band header =>
      rcases BandStore.mem_upsert h with rfl | h
      · exact .inr rfl
      · exact .inl h
    | _ => exact .inl h

theorem mem_or_defined_of_mem_stored (h : b ∈ (stored source xs s).bands) :
    b ∈ s.bands ∨ b ∈ defined source xs := by
  induction xs generalizing s with
  | nil => exact .inl h
  | cons x xs ih =>
    rcases ih h with h | h
    · rcases mem_or_defined_of_mem_store h with h | h
      · exact .inl h
      · exact .inr (List.mem_filterMap.2 ⟨x, List.mem_cons_self, h⟩)
    · obtain ⟨y, hy, hby⟩ := List.mem_filterMap.1 h
      exact .inr (List.mem_filterMap.2 ⟨y, List.mem_cons_of_mem x hy, hby⟩)

theorem mem_stored_of_mem (hxs : ∀ x ∈ xs, finds Command.isReset x = false) (hb : b ∈ s.bands)
    (hne : ∀ a ∈ defined source xs, b.id ≠ a.id) : b ∈ (stored source xs s).bands := by
  induction xs generalizing s with
  | nil => exact hb
  | cons x xs ih =>
    have hstep : b ∈ (store source s x).bands := by
      refine mem_store_of_mem (hxs x List.mem_cons_self) hb fun a ha => hne a ?_
      exact List.mem_filterMap.2 ⟨x, List.mem_cons_self, ha⟩
    refine ih (fun y hy => hxs y (List.mem_cons_of_mem x hy)) hstep fun a ha => hne a ?_
    obtain ⟨y, hy, hay⟩ := List.mem_filterMap.1 ha
    exact List.mem_filterMap.2 ⟨y, List.mem_cons_of_mem x hy, hay⟩

/-- Bands with different identifiers do not displace each other. -/
theorem mem_stored_of_defined (hxs : ∀ x ∈ xs, finds Command.isReset x = false)
    (hids : (defined source xs).Pairwise (·.id ≠ ·.id)) (hb : b ∈ defined source xs) :
    b ∈ (stored source xs s).bands := by
  induction xs generalizing s with
  | nil => cases hb
  | cons x xs ih =>
    have hrest : ∀ y ∈ xs, finds Command.isReset y = false := fun y hy =>
      hxs y (List.mem_cons_of_mem x hy)
    cases hx : band? source x with
    | none =>
      have hdef : defined source (x :: xs) = defined source xs := List.filterMap_cons_none hx
      rw [hdef] at hids hb
      exact ih hrest hids hb
    | some a =>
      have hdef : defined source (x :: xs) = a :: defined source xs := List.filterMap_cons_some hx
      rw [hdef] at hids hb
      obtain ⟨hne, hids⟩ := List.pairwise_cons.1 hids
      rcases List.mem_cons.1 hb with rfl | hb
      · show b ∈ (stored source xs (store source s x)).bands
        exact mem_stored_of_mem hrest (mem_store_of_defined hx) hne
      · exact ih hrest hids hb

end Step

namespace Document

variable (host : WidgetHost) (source : String)

theorem runSteps_bands (xs : List Step) (p : LivePass) (d : Document) :
    (runSteps host source (Step.through Command.endsPass xs) p d).1.document.bands =
      Step.stored source (Step.through Command.endsPass xs) d.bands := by
  induction xs generalizing p d with
  | nil => rfl
  | cons x xs ih =>
    obtain ⟨r, c⟩ := x
    cases r with
    | error e => exact ih p d
    | ok k =>
      have hpage := (perform_page host source c.offset p d k).1
      rcases perform_cases host source c.offset p d k with ⟨hk, o, ho⟩ | ⟨hk, o, p', ho⟩
      · rw [ho] at hpage
        rw [Step.through_stop hk, runSteps_stop ho]
        exact hpage
      · rw [ho] at hpage
        rw [Step.through_go hk, runSteps_go ho, ih, hpage]
        rfl

theorem live_bands (f : Fragment) (d : Document) :
    (d.live host f).document.bands = Step.stored f.source f.decoded d.bands := by
  rw [live_eq_runSteps]
  exact runSteps_bands host f.source f.cursor.steps LivePass.initial d

end Document

namespace Fragment

variable {f : Fragment} {pre xs : List Step}

/-- Behind the first band of a pass come the steps that the replays of its bands run. -/
theorem filter_eq_replayed (h : f.decoded = pre ++ xs)
    (hxs : ∀ x ∈ xs, Step.finds Command.isReset x = false) :
    xs.filter (fun x => !Step.finds Command.endsReplay x) =
      Step.before Command.endsReplay xs ++
        (Step.defined f.source xs).flatMap fun b => b.fragment.replayed := by
  induction xs generalizing pre with
  | nil => rfl
  | cons x xs ih =>
    have hnext : f.decoded = (pre ++ [x]) ++ xs := by rw [h, List.append_assoc]; rfl
    have htail := ih hnext fun y hy => hxs y (List.mem_cons_of_mem x hy)
    cases hx : Step.finds Command.endsReplay x with
    | false =>
      have hband : Step.band? f.source x = none := Step.band?_of_not_delimiter hx
      have hdef : Step.defined f.source (x :: xs) = Step.defined f.source xs :=
        List.filterMap_cons_none hband
      have hbefore : Step.before Command.endsReplay (x :: xs) =
          x :: Step.before Command.endsReplay xs := by simp [Step.before, hx]
      rw [List.filter_cons_of_pos (by rw [hx]; rfl), htail, hdef, hbefore]
      rfl
    | true =>
      have hbefore : Step.before Command.endsReplay (x :: xs) = [] := by simp [Step.before, hx]
      rw [List.filter_cons_of_neg (by rw [hx]; decide), htail, hbefore, List.nil_append]
      rcases Step.delimiter_cases hx with hreset | hends | ⟨header, c, rfl⟩
      · rw [hxs x List.mem_cons_self] at hreset
        cases hreset
      · have hnil := Step.through_last h hends
        subst hnil
        have hdef : Step.defined f.source [x] = [] :=
          List.filterMap_cons_none (Step.band?_of_endsPass hends)
        rw [hdef]
        rfl
      · have hreplayed : (header.band f.source c.offset).fragment.replayed =
            Step.before Command.endsReplay xs := replayed_after h rfl
        have hdef : Step.defined f.source ((.ok (.band header), c) :: xs) =
            header.band f.source c.offset :: Step.defined f.source xs := rfl
        rw [hdef, List.flatMap_cons, hreplayed]

theorem decoded_nodup (f : Fragment) : f.decoded.Nodup :=
  f.cursor.steps_nodup.1.sublist (Step.through_prefix _ _).sublist

end Fragment

namespace Document

/-- Repainting a band runs the steps that the live pass decoded behind its definition, up to the next delimiter.
-/
theorem replay_runs_decoded (host : WidgetHost) (d : Document) (f : Fragment) :
    (d.live host f =
      (Outcome.mk d (Effect.calls PaintState.initial.styleCalls)).andThen fun d =>
        (runSteps host f.source f.decoded LivePass.initial d).1) ∧
    (∀ (ratio : Float) (g : Fragment) (images : ImageCache),
      g.replay ratio images =
        let (images, effects) := Paint.runSteps ratio g.replayed PaintState.initial images
        (images, Effect.calls PaintState.initial.styleCalls ++ effects)) ∧
    (∀ (pre post : List Step) (h : BandHeader) (c : Cursor) (b : Band),
      f.decoded = pre ++ (.ok (.band h), c) :: post → b ∈ (d.live host f).document.bands.bands →
      b = h.band f.source c.offset →
      b.fragment.replayed = Step.before Command.endsReplay post) ∧
    (∀ b ∈ (d.live host f).document.bands.bands,
      b ∈ d.bands.bands ∨ b ∈ Step.defined f.source f.decoded) ∧
    ∀ (pre post : List Step) (h : BandHeader) (c : Cursor),
      f.decoded = pre ++ (.ok (.band h), c) :: post →
      (∀ x ∈ pre, Step.finds Command.isBand x = false) →
      (∀ x ∈ post, Step.finds Command.isReset x = false) →
      (Step.defined f.source f.decoded).Pairwise (·.id ≠ ·.id) →
      (∀ b ∈ Step.defined f.source f.decoded, b ∈ (d.live host f).document.bands.bands) ∧
      (post.filter (fun x => !Step.finds Command.endsReplay x) =
        (Step.defined f.source f.decoded).flatMap fun b => b.fragment.replayed) ∧
      ∀ x ∈ post, Step.finds Command.endsReplay x = false →
        ∃! b, b ∈ (d.live host f).document.bands.bands ∧ b ∈ Step.defined f.source f.decoded ∧
          x ∈ b.fragment.replayed := by
  refine ⟨live_eq_runSteps host f d, Fragment.replay_eq_runSteps, ?_, ?_, ?_⟩
  · rintro pre post h c b hdecoded - rfl
    exact Fragment.replayed_after hdecoded rfl
  · intro b hb
    rw [live_bands] at hb
    exact Step.mem_or_defined_of_mem_stored hb
  · intro pre post h c hdecoded hpre hpost hids
    have hreset : ∀ x ∈ (.ok (.band h), c) :: post, Step.finds Command.isReset x = false := by
      intro x hx
      rcases List.mem_cons.1 hx with rfl | hx
      · rfl
      · exact hpost x hx
    have hdefined : Step.defined f.source f.decoded =
        Step.defined f.source ((.ok (.band h), c) :: post) := by
      rw [hdecoded, Step.defined, List.filterMap_append]
      show Step.defined f.source pre ++ _ = _
      rw [Step.defined_of_no_band hpre]
      rfl
    have hshared : post.filter (fun x => !Step.finds Command.endsReplay x) =
        (Step.defined f.source f.decoded).flatMap fun b => b.fragment.replayed := by
      rw [hdefined]
      exact Fragment.filter_eq_replayed hdecoded hreset
    have hstored : ∀ b ∈ Step.defined f.source f.decoded,
        b ∈ (d.live host f).document.bands.bands := by
      intro b hb
      rw [hdefined] at hids hb
      rw [live_bands, hdecoded, Step.stored, List.foldl_append]
      exact Step.mem_stored_of_defined hreset hids hb
    refine ⟨hstored, hshared, fun x hx hrun => ?_⟩
    · have hnodup : (post.filter fun x => !Step.finds Command.endsReplay x).Nodup := by
        have hpart : post.Sublist f.decoded := by
          rw [hdecoded]
          exact (List.sublist_cons_self _ post).trans (List.sublist_append_right pre _)
        exact (f.decoded_nodup.sublist hpart).filter _
      have hx' : x ∈ post.filter fun x => !Step.finds Command.endsReplay x :=
        List.mem_filter.2 ⟨hx, by rw [hrun]; rfl⟩
      rw [hshared] at hnodup hx'
      obtain ⟨b, hb, hbx⟩ := List.mem_flatMap.1 hx'
      refine ⟨b, ⟨hstored b hb, hb, hbx⟩, fun b' hb' => ?_⟩
      by_contra hne
      have hsymm : Std.Symm (Function.onFun List.Disjoint fun b : Band => b.fragment.replayed) :=
        ⟨fun _ _ h _ hb ha => h ha hb⟩
      have hdisjoint : (b'.fragment.replayed).Disjoint b.fragment.replayed :=
        (List.nodup_flatMap.1 hnodup).2.forall hb'.2.1 hb hne
      exact hdisjoint hb'.2.2 hbx

def twoBands : Fragment :=
  ⟨"b0,,1,f,1,0,0;w2;b0,,2,f,1,0,1;w3;U", 0⟩

theorem decoded_twoBands :
    twoBands.decoded =
      [(.ok (.band ⟨false, "", 1, false, 1, 0, 0⟩), ⟨14, some ';', "w2;b0,,2,f,1,0,1;w3;U".toList⟩),
        (.ok (.lineWidth 2), ⟨17, some ';', "b0,,2,f,1,0,1;w3;U".toList⟩),
        (.ok (.band ⟨false, "", 2, false, 1, 0, 1⟩), ⟨31, some ';', "w3;U".toList⟩),
        (.ok (.lineWidth 3), ⟨34, some ';', "U".toList⟩),
        (.ok .update, ⟨35, some 'U', []⟩)] :=
  Fragment.decoded_eq
    (.next rfl (.next rfl (.next rfl (.next rfl (.next rfl (.done rfl)))))) rfl

theorem replay_runs_decoded_twoBands :
    (twoBands.decoded.tail.filter fun x => !Step.finds Command.endsReplay x) =
      (Step.defined twoBands.source twoBands.decoded).flatMap fun b => b.fragment.replayed := by
  have hdecoded := decoded_twoBands
  have hrest : twoBands.decoded = [] ++ (.ok (.band ⟨false, "", 1, false, 1, 0, 0⟩),
      ⟨14, some ';', "w2;b0,,2,f,1,0,1;w3;U".toList⟩) :: twoBands.decoded.tail := by
    rw [hdecoded]
    rfl
  refine ((replay_runs_decoded ⟨fun _ => none, fun _ _ => .ok (), fun _ box => box⟩
    (create DocumentOptions.standard).document twoBands).2.2.2.2 _ _ _ _ hrest ?_ ?_ ?_).2.1
  · simp
  · rw [hdecoded]
    simp [Step.finds, Command.isReset]
  · rw [hdecoded]
    decide

end Document

end BandCanvas
