import BandCanvas.Proofs.Band.History
import BandCanvas.Proofs.Document.Frame
import BandCanvas.Proofs.Document.Operation

namespace BandCanvas

namespace BandStore

def upsertAll (bs : List Band) (s : BandStore) : BandStore :=
  bs.foldl (fun s b => s.upsert b) s

variable {a : Band} {bs cs : List Band}

theorem mem_upsertAll_iff (hids : bs.Pairwise (·.id ≠ ·.id)) (s : BandStore) :
    a ∈ (s.upsertAll bs).bands ↔ a ∈ bs ∨ a ∈ s.bands ∧ ∀ b ∈ bs, a.id ≠ b.id := by
  induction bs generalizing s with
  | nil => simp [upsertAll]
  | cons b bs ih =>
    obtain ⟨hb, hbs⟩ := List.pairwise_cons.1 hids
    have hrest : a ∈ (s.upsertAll (b :: bs)).bands ↔
        a ∈ bs ∨ a ∈ (s.upsert b).bands ∧ ∀ c ∈ bs, a.id ≠ c.id := ih hbs (s.upsert b)
    rw [hrest, mem_upsert_iff, List.mem_cons, List.forall_mem_cons]
    constructor
    · rintro (ha | ⟨rfl | ⟨ha, hab⟩, hne⟩)
      · exact .inl (.inr ha)
      · exact .inl (.inl rfl)
      · exact .inr ⟨ha, hab, hne⟩
    · rintro ((rfl | ha) | ⟨ha, hab, hne⟩)
      · exact .inr ⟨.inl rfl, hb⟩
      · exact .inl ha
      · exact .inr ⟨.inr ⟨ha, hab⟩, hne⟩

theorem upsertAll_perm (h : bs.Perm cs) (hids : bs.Pairwise (·.id ≠ ·.id)) (s : BandStore) :
    s.upsertAll bs = s.upsertAll cs := by
  have hids' : cs.Pairwise (·.id ≠ ·.id) := hids.perm h fun hne => hne.symm
  refine ext_mem fun a => ?_
  rw [mem_upsertAll_iff hids, mem_upsertAll_iff hids']
  simp only [h.mem_iff]

end BandStore

def Command.paints : Command → Bool
  | .reset _ | .band _ | .update | .grid .. | .page .. => false
  | .editor (.debugBox _) => true
  | .editor _ => false
  | _ => true

theorem Command.paints_of_ends {k : Command} (h : k.endsReplay = true) : k.paints = false := by
  unfold Command.endsReplay at h
  split at h
  · rfl
  · rfl
  · rfl
  · rfl
  · cases h

namespace Step

/-- No step finds a command that does more than to draw. -/
def AllPaint (xs : List Step) : Prop :=
  ∀ k c, (.ok k, c) ∈ xs → k.paints = true

variable {xs : List Step} {x : Step}

theorem AllPaint.cons (h : AllPaint (x :: xs)) : AllPaint xs :=
  fun k c hk => h k c (List.mem_cons_of_mem x hk)

theorem AllPaint.not_finds (h : AllPaint xs) {p : Command → Bool}
    (hp : ∀ k, p k = true → k.endsReplay = true) (hx : x ∈ xs) : finds p x = false := by
  obtain ⟨r, c⟩ := x
  cases r with
  | error e => rfl
  | ok k =>
    cases hk : p k with
    | false => exact hk
    | true =>
      have hpaints := h k c hx
      rw [Command.paints_of_ends (hp k hk)] at hpaints
      cases hpaints

theorem AllPaint.before (h : AllPaint xs) : before Command.endsReplay xs = xs := by
  induction xs with
  | nil => rfl
  | cons x xs ih =>
    have hx := h.not_finds (fun _ hk => hk) List.mem_cons_self
    rw [Step.before, List.takeWhile_cons_of_pos (by rw [hx]; rfl)]
    exact congrArg (x :: ·) (ih h.cons)

theorem through_of_not_finds {p : Command → Bool} (h : ∀ x ∈ xs, finds p x = false) :
    through p xs = xs := by
  induction xs with
  | nil => rfl
  | cons x xs ih =>
    obtain ⟨hx, hxs⟩ := List.forall_mem_cons.1 h
    rw [through, hx, if_neg Bool.false_ne_true, ih hxs]

end Step

/-- A message that defines a band, and does nothing else but to draw. -/
structure BandMessage where
  text : String
  lead : List Step
  header : BandHeader
  start : Cursor
  body : List Step
  stream : ∃ stream, text.toList = 'D' :: ':' :: stream
  steps : (Fragment.cursor ⟨text, 2⟩).steps = lead ++ (.ok (.band header), start) :: body
  leads : Step.AllPaint lead
  draws : Step.AllPaint body

namespace BandMessage

def band (m : BandMessage) : Band :=
  m.header.band m.text m.start.offset

theorem decoded (m : BandMessage) :
    Fragment.decoded ⟨m.text, 2⟩ = m.lead ++ (.ok (.band m.header), m.start) :: m.body := by
  rw [Fragment.decoded, m.steps]
  apply Step.through_of_not_finds
  intro x hx
  rcases List.mem_append.1 hx with hx | hx
  · exact m.leads.not_finds (fun _ => Command.endsReplay_of_endsPass) hx
  · rcases List.mem_cons.1 hx with rfl | hx
    · rfl
    · exact m.draws.not_finds (fun _ => Command.endsReplay_of_endsPass) hx

/-- The band replays all that follows its header. -/
theorem replayed_band (m : BandMessage) : m.band.fragment.replayed = m.body := by
  have hafter := Fragment.replayed_after m.decoded rfl
  rw [m.draws.before] at hafter
  exact hafter

def single (text : String) (header : BandHeader) (start : Cursor) (k : Command) (last : Cursor)
    (hstream : ∃ stream, text.toList = 'D' :: ':' :: stream)
    (hband : (Fragment.cursor ⟨text, 2⟩).step = some (.ok (.band header), start))
    (hk : start.step = some (.ok k, last)) (hlast : last.step = none) (hpaints : k.paints = true) :
    BandMessage where
  text := text
  lead := []
  header := header
  start := start
  body := [(.ok k, last)]
  stream := hstream
  steps := by
    rw [Cursor.steps_of_some hband, Cursor.steps_of_some hk, Cursor.steps_of_none hlast]
    rfl
  leads := by
    intro k c hk
    cases hk
  draws := by
    intro k c hk
    cases List.mem_singleton.1 hk
    exact hpaints

end BandMessage

namespace Document

variable {host : WidgetHost}

theorem perform_paints {k : Command} (hk : k.paints = true) (source : String) (position : Nat)
    (p : LivePass) (d : Document) :
    ∃ images effects p',
      d.perform host source position p k = (⟨{ d with images }, effects⟩, some p') := by
  cases k with
  | reset | band | update | grid | page => cases hk
  | editor e =>
    cases e with
    | debugBox r => exact ⟨_, _, _, rfl⟩
    | _ => cases hk
  | _ => exact ⟨_, _, _, rfl⟩

theorem runSteps_paints {xs : List Step} (hxs : Step.AllPaint xs) (source : String) (p : LivePass)
    (d : Document) :
    ∃ images effects p', runSteps host source xs p d = (⟨{ d with images }, effects⟩, some p') := by
  induction xs generalizing p d with
  | nil => exact ⟨d.images, [], p, rfl⟩
  | cons x xs ih =>
    obtain ⟨r, c⟩ := x
    cases r with
    | error e => exact ih hxs.cons p d
    | ok k =>
      have hk := hxs k c List.mem_cons_self
      obtain ⟨images, effects, p', hdraw⟩ := perform_paints hk source c.offset p d
      obtain ⟨images', effects', p'', hrest⟩ := ih hxs.cons p' { d with images }
      rw [runSteps_go hdraw, hrest]
      exact ⟨images', effects ++ effects', p'', rfl⟩

/-- All that a message of one band changes is that the band is stored, and that pictures are waited for. -/
theorem handleMessage_bandMessage (host : WidgetHost) (m : BandMessage) (d : Document) :
    ∃ images,
      (d.handleMessage host m.text).document = { d with bands := d.bands.upsert m.band, images } := by
  obtain ⟨stream, htext⟩ := m.stream
  obtain ⟨images, effects, p, hlead⟩ := runSteps_paints m.leads m.text LivePass.initial d
  have hband : Document.perform host m.text m.start.offset p { d with images } (.band m.header) =
      (defineBand m.text m.start.offset m.header { d with images },
        some { p with painting := m.header.paint }) :=
    rfl
  obtain ⟨images', effects', p', hbody⟩ := runSteps_paints m.draws m.text
    { p with painting := m.header.paint } { d with bands := d.bands.upsert m.band, images }
  refine ⟨images', ?_⟩
  rw [handleMessage_stream htext, live_eq_runSteps, m.decoded]
  show (runSteps host m.text _ LivePass.initial d).1.document = _
  rw [runSteps_append, hlead]
  dsimp only
  rw [runSteps_go hband]
  exact congrArg (fun r => r.1.document) hbody

end Document

namespace DocumentOperation

/-- What may happen between messages. -/
def waits : DocumentOperation → Bool
  | .repaint | .tick .. | .fontsLoaded _ | .pointer _ => true
  | _ => false

end DocumentOperation

namespace Document

/-- The same document with the bands of a store, but for pictures, timer and menu. -/
def Holds (d : Document) (s : BandStore) (d' : Document) : Prop :=
  ∃ images timer menuBand, d' = { d with bands := s, images, timer, menuBand }

theorem waits_holds (host : WidgetHost) {op : DocumentOperation} (hop : op.waits = true) (d : Document) :
    d.Holds d.bands (op.run host d).document := by
  cases op with
  | repaint => exact ⟨_, _, d.menuBand, rfl⟩
  | tick now loads =>
    obtain ⟨timer, -, htick | htick⟩ := tick_cases now loads d
    · rw [DocumentOperation.run, htick]
      exact ⟨_, _, d.menuBand, rfl⟩
    · rw [DocumentOperation.run, htick]
      exact ⟨_, timer, d.menuBand, rfl⟩
  | fontsLoaded now => exact ⟨d.images, _, d.menuBand, rfl⟩
  | pointer y =>
    obtain ⟨menuBand, hmoved⟩ := pointerMoved_document y d
    exact ⟨d.images, d.timer, menuBand, hmoved⟩
  | message | paint | zoom | page | editable | background | viewport | paging | reset => cases hop

end Document

/-- Messages are delivered in their order, with waiting between them. -/
inductive Delivers : List BandMessage → List DocumentOperation → Prop
  | done : Delivers [] []
  | message (m : BandMessage) {ms : List BandMessage} {ops : List DocumentOperation} (h : Delivers ms ops) :
    Delivers (m :: ms) (.message m.text :: ops)
  | wait {op : DocumentOperation} (hop : op.waits = true) {ms : List BandMessage} {ops : List DocumentOperation}
    (h : Delivers ms ops) : Delivers ms (op :: ops)

namespace Document

variable {ms ms' : List BandMessage} {ops ops' : List DocumentOperation}

theorem run_delivers (host : WidgetHost) (h : Delivers ms ops) (d : Document) :
    d.Holds (d.bands.upsertAll (ms.map BandMessage.band)) (d.run host ops).document := by
  induction h generalizing d with
  | done => exact ⟨d.images, d.timer, d.menuBand, rfl⟩
  | message m h ih =>
    obtain ⟨images, hm⟩ := handleMessage_bandMessage host m d
    obtain ⟨images', timer, menuBand, hrest⟩ := ih (d.handleMessage host m.text).document
    refine ⟨images', timer, menuBand, ?_⟩
    rw [run_cons]
    dsimp only [DocumentOperation.run]
    rw [hrest, hm]
    rfl
  | wait hop h ih =>
    obtain ⟨images, timer, menuBand, hop⟩ := waits_holds host hop d
    rw [run_cons, hop]
    exact ih _

/-- The calls of a repaint: those that clear the page, and then those of each fragment, whatever
else has been painted. -/
theorem repaint_made (d : Document) :
    Effect.made d.repaint.effects =
      .save :: d.clearPage ++ (d.fragments.flatMap fun f => Effect.made (f.replay d.ratio d.images).2) ++
        [.restore] := by
  show Effect.made (_ ++ _ ++ Effect.calls [.restore]) = _
  rw [Effect.made_append, Effect.made_append, Effect.made_calls, Effect.made_calls, Fragment.replayAll_made]

/-- Pictures that are not ready leave no trace in the calls. -/
theorem Holds.repaint_made_eq {d e e' : Document} {s : BandStore} (h : d.Holds s e) (h' : d.Holds s e')
    (hready : ∀ path, e'.images.ready? path = e.images.ready? path) :
    Effect.made e'.repaint.effects = Effect.made e.repaint.effects := by
  obtain ⟨images, timer, menuBand, rfl⟩ := h
  obtain ⟨images', timer', menuBand', rfl⟩ := h'
  have hmade := fun f : Fragment => (f.replay_draws d.ratio).made images images' hready
  have hreplays := congrArg (List.flatMap · (s.bands.map Band.fragment ++ d.pending.toList)) (funext hmade)
  rw [repaint_made, repaint_made]
  exact congrArg (fun calls => _ ++ calls ++ [.restore]) hreplays

/-- Bands are painted in the order of their identifiers, in whatever order their messages are delivered. -/
theorem repaint_delivery_order (host : WidgetHost) (d : Document) (h : Delivers ms ops)
    (h' : Delivers ms' ops') (hperm : ms.Perm ms') (hids : ms.Pairwise (·.header.id ≠ ·.header.id)) :
    let e := (d.run host ops).document
    let e' := (d.run host ops').document
    e'.bands = e.bands ∧
      e.bands.bands.Pairwise (·.id < ·.id) ∧
      (∀ b, b ∈ e.bands.bands ↔
        b ∈ ms.map BandMessage.band ∨ b ∈ d.bands.bands ∧ ∀ m ∈ ms, b.id ≠ m.header.id) ∧
      (∀ m ∈ ms, m.band.fragment.replayed = m.body) ∧
      (Effect.made e.repaint.effects =
        .save :: e.clearPage ++
          ((e.bands.bands.flatMap fun b => Effect.made (b.fragment.replay e.ratio e.images).2) ++
            e.pending.toList.flatMap fun f => Effect.made (f.replay e.ratio e.images).2) ++ [.restore]) ∧
      ((∀ path, e'.images.ready? path = e.images.ready? path) →
        Effect.made e'.repaint.effects = Effect.made e.repaint.effects) := by
  intro e e'
  have hbands : (ms.map BandMessage.band).Pairwise (·.id ≠ ·.id) := List.pairwise_map.2 hids
  have hsame : d.bands.upsertAll (ms'.map BandMessage.band) = d.bands.upsertAll (ms.map BandMessage.band) :=
    (BandStore.upsertAll_perm (hperm.map _) hbands d.bands).symm
  have hholds : d.Holds (d.bands.upsertAll (ms.map BandMessage.band)) e := run_delivers host h d
  have hholds' : d.Holds (d.bands.upsertAll (ms.map BandMessage.band)) e' := hsame ▸ run_delivers host h' d
  have hstore : e.bands = d.bands.upsertAll (ms.map BandMessage.band) := by
    obtain ⟨images, timer, menuBand, he⟩ := hholds
    rw [he]
  have hstore' : e'.bands = d.bands.upsertAll (ms.map BandMessage.band) := by
    obtain ⟨images, timer, menuBand, he⟩ := hholds'
    rw [he]
  refine ⟨hstore'.trans hstore.symm, e.bands.sorted, fun b => ?_, fun m _ => m.replayed_band, ?_,
    hholds.repaint_made_eq hholds'⟩
  · rw [hstore, BandStore.mem_upsertAll_iff hbands, List.forall_mem_map]
    rfl
  · rw [repaint_made, fragments, List.flatMap_append, List.flatMap_map]

def wide : BandMessage :=
  .single "D:B0,,2,f,1,0,0;w2;" ⟨true, "", 2, false, 1, 0, 0⟩ ⟨16, some ';', "w2;".toList⟩ (.lineWidth 2)
    ⟨19, some ';', []⟩ ⟨_, rfl⟩ rfl rfl rfl rfl

def wider : BandMessage :=
  .single "D:b0,,1,f,1,0,1;w3;" ⟨false, "", 1, false, 1, 0, 1⟩ ⟨16, some ';', "w3;".toList⟩ (.lineWidth 3)
    ⟨19, some ';', []⟩ ⟨_, rfl⟩ rfl rfl rfl rfl

theorem repaint_delivery_order_swapped :
    let host : WidgetHost := ⟨fun _ => none, fun _ _ => .ok (), fun _ box => box⟩
    let d := (create DocumentOptions.standard).document
    let e := (d.run host [.message wide.text, .fontsLoaded 0, .message wider.text]).document
    let e' := (d.run host [.message wider.text, .message wide.text]).document
    e'.bands = e.bands ∧ e.bands.bands = [wider.band, wide.band] ∧
      Effect.made e'.repaint.effects = Effect.made e.repaint.effects := by
  intro host d e e'
  have h : Delivers [wide, wider] [.message wide.text, .fontsLoaded 0, .message wider.text] :=
    .message wide (.wait rfl (.message wider .done))
  have h' : Delivers [wider, wide] [.message wider.text, .message wide.text] :=
    .message wider (.message wide .done)
  have hids : [wide, wider].Pairwise (·.header.id ≠ ·.header.id) := by
    simp [wide, wider, BandMessage.single]
  have himages : ∀ m ∈ [wide, wider], ∀ d : Document,
      (d.handleMessage host m.text).document.images = d.images := by
    intro m hm d
    obtain ⟨stream, htext⟩ := m.stream
    rw [handleMessage_stream htext, live_eq_runSteps, m.decoded]
    rcases List.mem_cons.1 hm with rfl | hm
    · rfl
    · cases List.mem_singleton.1 hm
      rfl
  have hwide := himages wide List.mem_cons_self
  have hwider := himages wider (List.mem_cons_of_mem _ List.mem_cons_self)
  obtain ⟨hsame, -, -, -, -, hmade⟩ := repaint_delivery_order host d h h' (.swap _ _ []) hids
  refine ⟨hsame, ?_, hmade fun path => ?_⟩
  · obtain ⟨images, timer, menuBand, he⟩ := run_delivers host h d
    have hbands : e.bands.bands = ((BandStore.empty.upsert wide.band).upsert wider.band).bands :=
      congrArg (fun e => e.bands.bands) he
    rw [hbands, BandStore.upsert_bands, BandStore.upsert_bands]
    rfl
  · have hswapped : e'.images = d.images := (hwide _).trans (hwider d)
    have hstraight : e.images = d.images := (hwider _).trans (hwide d)
    rw [hswapped, hstraight]

end Document

end BandCanvas
