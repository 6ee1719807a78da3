import BandCanvas.Proofs.Document.PageSize
import BandCanvas.Proofs.Number.Order
import BandCanvas.Proofs.Session.Naming

namespace BandCanvas

namespace Document

theorem setZoom_changed {zoom scale : Float} {d : Document} :
    (d.setZoom zoom).1 = some scale ↔
      (d.setZoom zoom).2.document.scale.toCanvas = scale ∧ scale.isFinite = true ∧
        (scale == d.scale.toCanvas) = false := by
  have hchanged : (d.setZoom zoom).1 =
      if (d.scale.withZoom zoom).toCanvas.isFinite && (d.scale.withZoom zoom).toCanvas != d.scale.toCanvas
      then some (d.scale.withZoom zoom).toCanvas else none := rfl
  have hscale : (d.setZoom zoom).2.document.scale = d.scale.withZoom zoom := rfl
  rw [hchanged, hscale, Option.ite_none_right_eq_some, Bool.and_eq_true, bne, Bool.not_eq_true']
  constructor
  · rintro ⟨⟨hfinite, hother⟩, heq⟩
    obtain rfl := Option.some.inj heq
    exact ⟨rfl, hfinite, hother⟩
  · rintro ⟨rfl, hfinite, hother⟩
    exact ⟨⟨hfinite, hother⟩, rfl⟩

end Document

namespace Happening

def tells? : Happening → Option (String × Float)
  | .said (.ask r) => r.scale?
  | _ => none

def scaleFor? (id : String) (x : Happening) : Option Float :=
  x.tells?.bind fun told => if told.1 = id then some told.2 else none

/-- The scale that the server was told last for a document. -/
def toldScale? (id : String) (h : List Happening) : Option Float :=
  (h.filterMap (scaleFor? id)).getLast?

def sinceTold (p : Happening → Bool) (h : List Happening) : Bool :=
  (h.reverse.takeWhile fun x => x.tells?.isNone).any p

/-- Whether a change of the zoom is dropped while it waits. -/
def dropsZoom : Happening → Bool
  | .left (.setZoom _) => true
  | _ => false

def resizes : Happening → Bool
  | .document o => o.resizes
  | _ => false

/-- Each scale set is finite, and not the one told last, unless a change of the zoom was dropped since. -/
def ScalesChange (h : List Happening) : Prop :=
  ∀ before id scale after, h = before ++ .said (.ask (.setScale id scale)) :: after →
    scale.isFinite = true ∧
      (sinceTold dropsZoom before = false → (toldScale? id before).any (· == scale) = false)

def Untold (h : List Happening) : Prop :=
  ∀ x ∈ h, x.tells? = none

variable {h more : List Happening} {x : Happening} {p : Happening → Bool} {id : String} {scale : Float}
  {r : SessionRequest}

theorem toldScale?_append (hmore : Untold more) : toldScale? id (h ++ more) = toldScale? id h := by
  have hnone : more.filterMap (scaleFor? id) = [] := by
    apply List.filterMap_eq_nil_iff.2
    intro x hx
    rw [scaleFor?, hmore x hx, Option.bind_none]
  rw [toldScale?, List.filterMap_append, hnone, List.append_nil, toldScale?]

theorem toldScale?_snoc (hx : x.tells? = none) : toldScale? id (h ++ [x]) = toldScale? id h :=
  toldScale?_append (List.forall_mem_singleton.2 hx)

theorem sinceTold_append (hmore : Untold more) : sinceTold p (h ++ more) = (more.any p || sinceTold p h) := by
  have hquiet : ∀ x ∈ more.reverse, x.tells?.isNone = true := by
    intro x hx
    rw [hmore x (List.mem_reverse.1 hx)]
    rfl
  rw [sinceTold, List.reverse_append, List.takeWhile_append_of_pos hquiet, List.any_append, List.any_reverse,
    sinceTold]

theorem sinceTold_snoc (hx : x.tells? = none) : sinceTold p (h ++ [x]) = (p x || sinceTold p h) := by
  rw [sinceTold_append (List.forall_mem_singleton.2 hx), List.any_cons, List.any_nil, Bool.or_false]

theorem sinceTold_eq_false (hh : ∀ x ∈ h, p x = false) : sinceTold p h = false := by
  apply List.any_eq_false.2
  intro x hx
  have hmem := List.mem_reverse.1 ((List.takeWhile_sublist _).subset hx)
  rw [hh x hmem]
  exact Bool.false_ne_true

theorem scalesChange_nil : ScalesChange [] := by
  intro before id scale after heq
  cases (List.append_eq_nil_iff.1 heq.symm).2

theorem ScalesChange.snoc (hh : ScalesChange h)
    (hx : ∀ id scale, x = .said (.ask (.setScale id scale)) →
      scale.isFinite = true ∧
        (sinceTold dropsZoom h = false → (toldScale? id h).any (· == scale) = false)) :
    ScalesChange (h ++ [x]) := by
  have hplaces := forall_place_snoc
    (P := fun h y => ∀ id scale, y = .said (.ask (.setScale id scale)) → scale.isFinite = true ∧
      (sinceTold dropsZoom h = false → (toldScale? id h).any (· == scale) = false))
    (fun before y after heq id scale hy => hh before id scale after (hy ▸ heq)) hx
  intro before id scale after heq
  exact hplaces before _ after heq id scale rfl

theorem ScalesChange.next (hh : ScalesChange h) (hx : x.tells? = none) : ScalesChange (h ++ [x]) := by
  apply hh.snoc
  rintro id scale rfl
  cases hx

theorem ScalesChange.append (hh : ScalesChange h) (hmore : Untold more) : ScalesChange (h ++ more) := by
  induction more generalizing h with
  | nil =>
    rw [List.append_nil]
    exact hh
  | cons x more ih =>
    obtain ⟨hx, hmore⟩ := List.forall_mem_cons.1 hmore
    rw [List.append_cons]
    exact ih (hh.next hx) hmore

theorem tells?_of_asks (hx : x.asks = false) : x.tells? = none := by
  cases x with
  | said e =>
    cases e with
    | ask r => cases hx
    | _ => rfl
  | _ => rfl

theorem untold_said {said : List SessionEffect} (hout : said.filter SessionEffect.isOut = []) :
    Untold (said.map .said) :=
  fun x hx => tells?_of_asks (asks_of_filter_isOut hout x hx)

theorem not_any_said (said : List SessionEffect) (hp : ∀ e, p (.said e) = false) :
    (said.map Happening.said).any p = false := by
  rw [List.any_map]
  exact List.any_eq_false.2 fun e _ => ne_true_of_eq_false (hp e)

def asked (h : List Happening) (said : List SessionEffect) (r : SessionRequest) : List Happening :=
  h ++ said.map .said ++ [Happening.said (.ask r)]

theorem asked_eq (h : List Happening) (said : List SessionEffect) (r : SessionRequest) :
    h ++ (said ++ [SessionEffect.ask r]).map .said = asked h said r := by
  rw [List.map_append, ← List.append_assoc]
  rfl

section Asked

variable (h) (said : List SessionEffect)

theorem toldScale?_asked (hr : r.scale? = some (id, scale)) : toldScale? id (asked h said r) = some scale := by
  have hlast : scaleFor? id (.said (.ask r)) = some scale := by
    rw [scaleFor?, tells?, hr, Option.bind_some, if_pos rfl]
  rw [asked, toldScale?, List.filterMap_append, List.filterMap_cons_some hlast]
  exact List.getLast?_concat

theorem sinceTold_asked (hr : r.scale? = some (id, scale)) : sinceTold p (asked h said r) = false := by
  rw [asked, sinceTold, List.reverse_concat, List.takeWhile_cons, tells?, hr]
  rfl

variable {h said}

theorem ScalesChange.asked (hh : ScalesChange h) (hsaid : Untold (said.map .said))
    (hr : ∀ id scale, r ≠ .setScale id scale) : ScalesChange (asked h said r) := by
  apply (hh.append hsaid).snoc
  intro id scale heq
  injection heq with heq
  injection heq with heq
  exact absurd heq (hr id scale)

theorem ScalesChange.asked_aside (hh : ScalesChange h) (hsaid : Untold (said.map .said))
    (hr : r.scale? = none) : ScalesChange (Happening.asked h said r) :=
  (hh.append hsaid).next hr

end Asked

theorem untold_nil : Untold (([] : List SessionEffect).map .said) :=
  List.forall_mem_nil _

theorem dropsZoom_left {op : SessionOperation} (hop : ∀ zoom, op ≠ .setZoom zoom) :
    (Happening.left op).dropsZoom = false := by
  cases op with
  | setZoom zoom => exact absurd rfl (hop zoom)
  | _ => rfl

end Happening

open Happening

namespace Session

/-- The scale of the canvas is the one that the session remembers, if the canvas has one. -/
def OnScale (s : Session) : Prop :=
  s.document.scale.toCanvas.isFinite = true → s.documentScale.any (· == s.document.scale.toCanvas) = true

/-- The scale of the canvas is the one that the session remembers, and the one that the server was told last
for the document. -/
def Agrees (h : List Happening) (s : Session) : Prop :=
  ∃ id scale told, s.documentId = some id ∧ s.documentScale = some scale ∧ toldScale? id h = some told ∧
    (s.document.scale.toCanvas == scale) = true ∧ (s.document.scale.toCanvas == told) = true

/-- The canvas is on the scale of the server, unless a zoom was dropped or the host has sized the document
itself. -/
inductive Scaled (h : List Happening) (s : Session) : Prop
  | together {id : String} {scale : Float} (hid : s.documentId = some id)
    (hscale : s.documentScale = some scale) (htold : toldScale? id h = some scale)
    (hkept : sinceTold dropsZoom h = false) (hcanvas : sinceTold resizes h = false → s.OnScale)
  | parted {id : String} {scale told : Float} (hid : s.documentId = some id)
    (hscale : s.documentScale = some scale) (htold : toldScale? id h = some told)
    (hdropped : sinceTold dropsZoom h = true) (hother : (scale == told) = false)

variable {h more : List Happening} {s s' : Session}

theorem Scaled.extend (hs : s.Scaled h) (hmore : Untold more) (hkept : more.any dropsZoom = false)
    (hid : s'.documentId = s.documentId) (hscale : s'.documentScale = s.documentScale)
    (hcanvas : more.any resizes = false → s.OnScale → s'.OnScale) : s'.Scaled (h ++ more) := by
  have hdropped : sinceTold dropsZoom (h ++ more) = sinceTold dropsZoom h := by
    rw [sinceTold_append hmore, hkept, Bool.false_or]
  cases hs with
  | together hid' hscale' htold hkept' hcanvas' =>
    refine .together (hid.trans hid') (hscale.trans hscale') ((toldScale?_append hmore).trans htold)
      (hdropped.trans hkept') fun hsized => ?_
    rw [sinceTold_append hmore] at hsized
    obtain ⟨hnow, hbefore⟩ := Bool.or_eq_false_iff.1 hsized
    exact hcanvas hnow (hcanvas' hbefore)
  | parted hid' hscale' htold hdropped' hother =>
    exact .parted (hid.trans hid') (hscale.trans hscale') ((toldScale?_append hmore).trans htold)
      (hdropped.trans hdropped') hother

theorem Scaled.still (hs : s.Scaled h) (hmore : Untold more) (hkept : more.any dropsZoom = false)
    (hid : s'.documentId = s.documentId) (hremembered : s'.documentScale = s.documentScale)
    (hscale : more.any resizes = false → s'.document.scale = s.document.scale) : s'.Scaled (h ++ more) := by
  apply hs.extend hmore hkept hid hremembered
  intro hsized hcanvas hfinite
  rw [hscale hsized] at hfinite ⊢
  rw [hremembered]
  exact hcanvas hfinite

theorem Scaled.said {said : List SessionEffect} (hs : s.Scaled h) (hsaid : Untold (said.map .said))
    (hid : s'.documentId = s.documentId) (hremembered : s'.documentScale = s.documentScale)
    (hscale : s'.document.scale = s.document.scale) : s'.Scaled (h ++ said.map .said) :=
  hs.still hsaid (not_any_said said fun _ => rfl) hid hremembered fun _ => hscale

theorem Scaled.snoc {x : Happening} (hs : s.Scaled h) (hx : x.tells? = none) (hkept : x.dropsZoom = false)
    (hid : s'.documentId = s.documentId) (hremembered : s'.documentScale = s.documentScale)
    (hscale : s'.document.scale = s.document.scale) : s'.Scaled (h ++ [x]) := by
  apply hs.still (List.forall_mem_singleton.2 hx) _ hid hremembered fun _ => hscale
  rw [List.any_cons, hkept]
  rfl

theorem Scaled.asked {said : List SessionEffect} {r : SessionRequest} (hs : s.Scaled h)
    (hsaid : Untold (said.map .said)) (hr : r.scale? = none) (hid : s'.documentId = s.documentId)
    (hremembered : s'.documentScale = s.documentScale) (hscale : s'.document.scale = s.document.scale) :
    s'.Scaled (asked h said r) :=
  (hs.said hsaid rfl rfl rfl).snoc hr rfl hid hremembered hscale

theorem Scaled.agrees_iff (hs : s.Scaled h) (hsized : sinceTold resizes h = false)
    (hfinite : s.document.scale.toCanvas.isFinite = true) :
    s.Agrees h ↔ sinceTold dropsZoom h = false := by
  cases hs with
  | @together id scale hid hscale htold hkept hcanvas =>
    refine iff_of_true ⟨id, scale, scale, hid, hscale, htold, ?_⟩ hkept
    have hsame := hcanvas hsized hfinite
    rw [hscale, Option.any_some] at hsame
    exact ⟨Binary64.beq_symm hsame, Binary64.beq_symm hsame⟩
  | @parted id scale told hid hscale htold hdropped hother =>
    apply iff_of_false
    · rintro ⟨id', scale', told', hid', hscale', htold', hremembered, hlast⟩
      obtain rfl := Option.some.inj (hid.symm.trans hid')
      obtain rfl := Option.some.inj (hscale.symm.trans hscale')
      obtain rfl := Option.some.inj (htold.symm.trans htold')
      rw [Binary64.beq_trans (Binary64.beq_symm hremembered) hlast] at hother
      cases hother
    · rw [hdropped]
      exact Bool.noConfusion

theorem Scaled.told_eq {id : String} (hs : s.Scaled h) (hid : s.documentId = some id)
    (hkept : sinceTold dropsZoom h = false) : toldScale? id h = s.documentScale := by
  cases hs with
  | together hid' hscale htold _ _ =>
    obtain rfl := Option.some.inj (hid.symm.trans hid')
    exact htold.trans hscale.symm
  | parted _ _ _ hdropped _ => cases hkept.symm.trans hdropped

theorem Scaled.remembers (hs : s.Scaled h) : ∃ scale, s.documentScale = some scale := by
  cases hs with
  | together _ hscale _ _ _ => exact ⟨_, hscale⟩
  | parted _ hscale _ _ _ => exact ⟨_, hscale⟩

theorem Scaled.names (hs : s.Scaled h) : s.documentId ≠ none := by
  intro hnone
  cases hs with
  | together hid _ _ _ _ => cases hnone.symm.trans hid
  | parted hid _ _ _ _ => cases hnone.symm.trans hid

/-- A zoom whose scale is the remembered one, or is none, or is the present one, leaves the canvas at the
remembered scale. -/
theorem OnScale.setZoom {zoom : Float} (hs : s.OnScale)
    (hknown : ∀ scale, (s.document.setZoom zoom).1 = some scale →
      s.documentScale.any (· == scale) = true) :
    { s with document := (s.document.setZoom zoom).2.document }.OnScale := by
  intro hfinite
  cases hsame : (s.document.setZoom zoom).2.document.scale.toCanvas == s.document.scale.toCanvas with
  | false => exact hknown _ (Document.setZoom_changed.2 ⟨rfl, hfinite, hsame⟩)
  | true =>
    have hback := Binary64.beq_symm hsame
    have hremembered := hs (Binary64.isFinite_of_beq hback hfinite)
    obtain ⟨scale, hscale, heq⟩ := (Option.any_eq_true _ _).1 hremembered
    exact (Option.any_eq_true _ _).2 ⟨scale, hscale, Binary64.beq_trans heq hback⟩

end Session

namespace Chain

open Session

variable {op : SessionOperation} {h : List Happening} {s : Session} {said : List SessionEffect}

/-- Scales have changed up to where an operation is, and an open session stands with its server. -/
def Scaled (op : SessionOperation) (h : List Happening) (c : Chain Unit) : Prop :=
  ScalesChange (h ++ c.said) ∧
    (c.session.lifecycle = .opened → c.session.Scaled (h ++ c.said ++ [c.conclusion op]))

theorem scaled_done (hchange : ScalesChange h) (hout : said.filter SessionEffect.isOut = [])
    {r : Except SessionError Unit} (hs : s.lifecycle = .opened → s.Scaled (h ++ said.map .said)) :
    (Chain.done s said r).Throughout (Scaled op) h := by
  apply throughout_done
  exact ⟨hchange.append (untold_said hout), fun hstage => (hs hstage).snoc rfl rfl rfl rfl rfl⟩

theorem scaled_ended (hchange : ScalesChange h) {r : Except SessionError Unit}
    (hs : s.lifecycle = .opened → s.Scaled h) : (Chain.done s [] r).Throughout (Scaled op) h := by
  apply scaled_done hchange rfl
  rw [List.map_nil, List.append_nil]
  exact hs

theorem scaled_failed (e : SessionError) (hchange : ScalesChange h) : Scaled op h (failed s [] e) := by
  have hclosed : (s.fail e).1.lifecycle = .closed := (fail_failed e s).1.lifecycle
  refine ⟨hchange.append (untold_said (filter_isOut_fail e s)), fun hopened => ?_⟩
  cases hclosed.symm.trans hopened

theorem scaled_attempt {request : SessionRequest} {β : Type}
    {verdict : Session → Answer Json → Except SessionError β} {next : Session → Chain Unit}
    (hchange : ScalesChange (asked h said request))
    (hwaits : s.lifecycle = .opened → s.Scaled (asked h said request ++ [Happening.left op]))
    (hnext : ∀ a : Answer Json, ScalesChange (asked h said request ++ [Happening.answered a]) →
      (next (s.answered a)).Throughout (Scaled op) (asked h said request ++ [Happening.answered a])) :
    (attempt s said request verdict next).Throughout (Scaled op) h := by
  have hasked := asked_eq h said request
  apply throughout_attempt (P := Scaled op)
  · rw [Scaled, said_attempt, hasked]
    exact ⟨hchange, hwaits⟩
  · intro a e _
    rw [asking, ← List.append_assoc, hasked]
    exact scaled_failed e (hchange.next rfl)
  · intro a value _
    rw [asking, ← List.append_assoc, hasked]
    exact hnext a (hchange.next rfl)

end Chain

namespace Session

open Chain SessionOperation

variable {op : SessionOperation} {h : List Happening} {s : Session} {said : List SessionEffect} {id : String}

theorem showChapter_scale (chapter : Chapter) (scale : Float) (s : Session) :
    (s.showChapter chapter scale).1.document.scale = s.document.scale :=
  (Document.setEditable_sameSize chapter.editable s.document).scale

theorem arrive_scaled (chapter : Chapter) (postLoad : Option String) (hchange : ScalesChange h)
    (hid : s.documentId = some id) (htold : toldScale? id h = some s.document.scale.toCanvas)
    (hkept : sinceTold dropsZoom h = false) (hstage : s.lifecycle ≠ .opened) :
    (arrive chapter s.document.scale.toCanvas postLoad id s).Throughout (Chain.Scaled op) h := by
  have hshown : (s.showChapter chapter s.document.scale.toCanvas).1.Scaled h := by
    refine .together hid rfl htold hkept fun _ hfinite => ?_
    rw [showChapter_scale] at hfinite ⊢
    exact Binary64.beq_self hfinite
  have hout := filter_isOut_showChapter chapter s.document.scale.toCanvas s
  cases postLoad with
  | none =>
    rw [arrive_none]
    exact scaled_done hchange hout fun _ => hshown.said (untold_said hout) rfl rfl rfl
  | some text =>
    have hsaid := untold_said hout
    rw [arrive_some]
    apply scaled_attempt (hchange.asked_aside hsaid rfl)
    · exact fun hopened => absurd hopened hstage
    · intro a hchange
      apply scaled_ended hchange
      intro _
      exact (hshown.asked hsaid rfl rfl rfl rfl).snoc rfl rfl rfl rfl rfl

theorem load_scaled (chapter : Chapter) (page : Int) (postLoad : Option String) (hchange : ScalesChange h)
    (hsaid : Untold (said.map .said)) (hid : s.documentId = some id) (hstage : s.lifecycle ≠ .opened) :
    (load chapter page postLoad id s said).Throughout (Chain.Scaled op) h := by
  have htells : (SessionRequest.load (s.loadRequest chapter page id)).scale? =
      some (id, s.document.scale.toCanvas) := rfl
  apply scaled_attempt
  · exact hchange.asked hsaid fun _ _ heq => nomatch heq
  · exact fun hopened => absurd hopened hstage
  · intro a hchange
    have htold := (toldScale?_snoc (x := .answered a) rfl).trans (toldScale?_asked h said htells)
    have hkept := (sinceTold_snoc (p := dropsZoom) (x := .answered a) rfl).trans
      (sinceTold_asked h said htells)
    exact arrive_scaled chapter postLoad hchange hid htold hkept hstage

theorem openChain_scaled (page : Int) (postLoad : Option String) (hchange : ScalesChange h)
    (hstage : s.lifecycle ≠ .opened) : (openChain page postLoad s).Throughout (Chain.Scaled op) h := by
  have hblank : Untold (s.blank.2.map .said) := untold_said (filter_isOut_blank s)
  have hway := openChain_way page postLoad s
  generalize openChain page postLoad s = c at hway ⊢
  cases hway with
  | nowhere hchapter => exact throughout_done (scaled_failed _ hchange)
  | stays hchapter hopened hid => exact load_scaled _ _ _ hchange hblank hid hstage
  | @opens chapter hchapter hother =>
    have hasked : ScalesChange (h ++ (s.blank.2 ++ [SessionEffect.openDocument chapter]).map .said) := by
      rw [List.map_append]
      exact hchange.append (List.forall_mem_append.2 ⟨hblank, List.forall_mem_singleton.2 rfl⟩)
    have hanswered : ∀ a, ScalesChange (h ++ asking s.blank.2 (.openDocument chapter) (.opened a)) := by
      intro a
      rw [asking, ← List.append_assoc]
      exact hasked.next rfl
    apply throughout_attemptOpen (Q := Chain.Scaled op)
    · exact ⟨hasked, fun hopened => absurd hopened hstage⟩
    · intro a e _
      exact scaled_failed e (hanswered a)
    · intro a o _
      refine load_scaled chapter _ postLoad (hanswered a) ?_ rfl hstage
      obtain ⟨configured, hsaid, hidle⟩ := takeOpened_said chapter.source o (s.blank.1.answered a)
      rw [hsaid]
      exact List.forall_mem_cons.2 ⟨rfl, fun x hx => tells?_of_asks (hidle x hx).2.2⟩

theorem finishClose_scaled (result : Except SessionError Unit) (s : Session) (hchange : ScalesChange h) :
    (finishClose result s).Throughout (Chain.Scaled op) h :=
  scaled_done hchange (SessionEffect.filter_isOut_document _) fun hopened => nomatch hopened

/-- A change of the zoom tells the server the new scale. The session remembers it when that was answered. -/
theorem zooms_scaled {zoom scale : Float} (hchange : ScalesChange h) (hs : s.Scaled h)
    (hid : s.documentId = some id) (hchanged : (s.document.setZoom zoom).1 = some scale)
    (hother : s.documentScale.any (· == scale) = false) :
    (settle { s with document := (s.document.setZoom zoom).2.document }
      ((s.document.setZoom zoom).2.effects.map .document) (.setScale id scale)
      fun s => .done { s with documentScale := some scale } [] (.ok ())).Throughout
        (Chain.Scaled (.setZoom zoom)) h := by
  obtain ⟨hscale, hfinite, -⟩ := Document.setZoom_changed.1 hchanged
  let said : List SessionEffect := (s.document.setZoom zoom).2.effects.map .document
  have hquiet : Untold (said.map .said) := untold_said (SessionEffect.filter_isOut_document _)
  have htells : (SessionRequest.setScale id scale).scale? = some (id, scale) := rfl
  rw [settle_eq_attempt]
  apply scaled_attempt
  · apply (hchange.append hquiet).snoc
    intro id' scale' heq
    obtain ⟨rfl, rfl⟩ : id = id' ∧ scale = scale' := by
      injection heq with heq
      injection heq with heq
      injection heq with hid hscale
      exact ⟨hid, hscale⟩
    refine ⟨hfinite, fun hkept => ?_⟩
    rw [sinceTold_append hquiet, not_any_said said fun _ => rfl, Bool.false_or] at hkept
    rw [toldScale?_append hquiet, hs.told_eq hid hkept]
    exact hother
  · -- left here, the session remembers the old scale, and the server has the new one
    intro _
    obtain ⟨old, hold⟩ := hs.remembers
    rw [hold, Option.any_some] at hother
    have htold := (toldScale?_snoc (x := .left (.setZoom zoom)) rfl).trans (toldScale?_asked h said htells)
    exact .parted hid hold htold (sinceTold_snoc rfl) hother
  · intro a hchange
    apply scaled_ended hchange
    intro _
    have htold := (toldScale?_snoc (x := .answered a) rfl).trans (toldScale?_asked h said htells)
    have hkept := (sinceTold_snoc (p := dropsZoom) (x := .answered a) rfl).trans
      (sinceTold_asked h said htells)
    refine .together hid rfl htold hkept fun _ _ => ?_
    show (scale == (s.document.setZoom zoom).2.document.scale.toCanvas) = true
    rw [hscale]
    exact Binary64.beq_self hfinite

theorem chain_scaled (op : SessionOperation) (hchange : ScalesChange h)
    (hs : s.lifecycle = .opened → s.Scaled h) : (op.chain s).Throughout (Chain.Scaled op) h := by
  have hcourse := chain_course s op
  generalize op.enters s = stage at hcourse
  generalize op.chain s = c at hcourse ⊢
  cases hcourse with
  | @opens t ht hready => exact openChain_scaled _ _ hchange fun hopened => nomatch hopened
  | @turns id page hturns hid =>
    have hstage : s.lifecycle = .opened := opened_of_turns hturns
    rw [settle_eq_attempt]
    apply scaled_attempt (hchange.asked_aside untold_nil rfl)
    · exact fun hopened => nomatch hopened
    · intro a hchange
      apply scaled_ended hchange
      intro _
      exact ((hs hstage).asked untold_nil rfl rfl rfl rfl).snoc rfl rfl rfl rfl rfl
  | strays hturns hid => exact scaled_ended hchange fun hopened => nomatch hopened
  | @closes id hcloses hid =>
    have hasked : ScalesChange (asked h [] (.close id)) := hchange.asked_aside untold_nil rfl
    rw [← asked_eq] at hasked
    apply throughout_ask (P := Chain.Scaled op)
    · exact ⟨hasked, fun hopened => nomatch hopened⟩
    · intro a
      rw [← List.append_assoc]
      exact finishClose_scaled _ _ (hasked.next rfl)
  | forgets hcloses hid => exact finishClose_scaled _ _ hchange
  | zooms zoom scale hstage hid hop hchanged hother =>
    subst hop
    exact zooms_scaled hchange (hs hstage) hid hchanged hother
  | resizes zoom hknown =>
    have hout := SessionEffect.filter_isOut_document (s.document.setZoom zoom).2.effects
    apply scaled_done hchange hout
    intro hstage
    have hscaled := hs hstage
    refine hscaled.extend (untold_said hout) (not_any_said _ fun _ => rfl) rfl rfl fun _ hcanvas => ?_
    apply hcanvas.setZoom
    intro scale hchanged
    rcases hknown scale hchanged with hnone | hremembered | hclosed
    · exact absurd hnone hscaled.names
    · exact hremembered
    · exact absurd hstage hclosed
  | asks haside hid hscale hop =>
    rw [settle_eq_attempt]
    apply scaled_attempt (hchange.asked_aside untold_nil hscale)
    · intro hopened
      have hasked := (hs hopened).asked untold_nil hscale rfl rfl rfl
      exact hasked.snoc rfl (dropsZoom_left hop) rfl rfl rfl
    · intro a hchange
      apply scaled_ended hchange
      intro hopened
      exact ((hs hopened).asked untold_nil hscale rfl rfl rfl).snoc rfl rfl rfl rfl rfl
  | stops r => exact scaled_ended hchange hs

variable {host : WidgetHost}

theorem Run.scaled (hrun : Run host h s) : ScalesChange h ∧ (s.lifecycle = .opened → s.Scaled h) := by
  induction hrun with
  | create o => exact ⟨scalesChange_nil, fun hopened => nomatch hopened⟩
  | @operate h hs s c op hrun hgoes ih =>
    obtain ⟨hchange, hscaled⟩ := ih
    have hbegan : ScalesChange (h ++ [Happening.began op (op.opens s)]) := hchange.next rfl
    have hstands : s.lifecycle = .opened → s.Scaled (h ++ [Happening.began op (op.opens s)]) :=
      fun hopened => (hscaled hopened).snoc rfl rfl rfl rfl rfl
    obtain ⟨hgone, hends⟩ : Chain.Scaled op (h ++ [Happening.began op (op.opens s)] ++ hs) c :=
      chain_scaled op hbegan hstands hs c hgoes
    have hlast : (c.conclusion op).tells? = none := by
      cases c <;> rfl
    have heq : h ++ .began op (op.opens s) :: (hs ++ c.said ++ [c.conclusion op]) =
        h ++ [Happening.began op (op.opens s)] ++ hs ++ c.said ++ [c.conclusion op] := by
      simp only [List.append_assoc, List.cons_append, List.nil_append]
    rw [heq]
    exact ⟨hgone.next hlast, hends⟩
  | @use h s op hrun ih =>
    obtain ⟨hchange, hscaled⟩ := ih
    refine ⟨hchange.next rfl, fun hopened => ?_⟩
    refine (hscaled hopened).still (List.forall_mem_singleton.2 rfl) rfl rfl rfl fun hsized => ?_
    exact (Document.operation_sameSize (Bool.or_eq_false_iff.1 hsized).1 s.document).scale
  | cancel hrun ih =>
    obtain ⟨hchange, hscaled⟩ := ih
    refine ⟨hchange.next rfl, fun hopened => ?_⟩
    exact (hscaled hopened).snoc rfl rfl rfl rfl rfl
  | abort hrun ih =>
    obtain ⟨hchange, -⟩ := ih
    exact ⟨hchange.next rfl, fun hopened => nomatch hopened⟩

/-- An open session agrees with its server on the scale exactly if no change of the zoom was dropped since it
was told. -/
theorem scales_agree_iff (hrun : Run host h s) :
    ScalesChange h ∧
      (s.lifecycle = .opened → s.document.scale.toCanvas.isFinite = true → sinceTold resizes h = false →
        (s.Agrees h ↔ sinceTold dropsZoom h = false)) := by
  obtain ⟨hchange, hscaled⟩ := hrun.scaled
  exact ⟨hchange, fun hopened hfinite hsized => (hscaled hopened).agrees_iff hsized hfinite⟩

theorem scales_agree_iff_letter : ∃ h, Run widgetless h letterSession ∧ letterSession.Agrees h := by
  obtain ⟨h, hrun, hnone, hleft⟩ := run_letterSession widgetless
  have hsized : sinceTold resizes h = false := by
    apply sinceTold_eq_false
    intro x hx
    cases x with
    | document o => exact absurd hx (hnone o)
    | _ => rfl
  have hkept : sinceTold dropsZoom h = false := by
    apply sinceTold_eq_false
    intro x hx
    cases x with
    | left op => exact absurd hx (hleft op)
    | _ => rfl
  have hfinite : letterSession.document.scale.toCanvas.isFinite = true := by decide +kernel
  obtain ⟨-, hagrees⟩ := scales_agree_iff hrun
  exact ⟨h, hrun, (hagrees rfl hfinite hsized).2 hkept⟩

theorem Run.zoom_dropped {zoom scale : Float} (hrun : Run host h s) (hstage : s.lifecycle = .opened)
    (hid : s.documentId = some id) (hchanged : (s.document.setZoom zoom).1 = some scale)
    (hother : s.documentScale.any (· == scale) = false) :
    ∃ h', Run host h' { s with document := (s.document.setZoom zoom).2.document } ∧
      toldScale? id h' = some scale ∧ ∀ o, .document o ∈ h' → .document o ∈ h := by
  have hchain : (SessionOperation.setZoom zoom).chain s = _ := setZoom_asks hstage hid hchanged hother
  have hdropped := hrun.operate (.setZoom zoom) (.refl _)
  rw [hchain] at hdropped
  refine ⟨_, hdropped, ?_, fun o ho => document_mem_of_operation (.refl _) ho⟩
  have htells : (SessionRequest.setScale id scale).scale? = some (id, scale) := rfl
  let said : List SessionEffect := (s.document.setZoom zoom).2.effects.map .document
  let began := h ++ [Happening.began (.setZoom zoom) false]
  have hwaits : h ++ .began (.setZoom zoom) false ::
      ((said ++ [SessionEffect.ask (.setScale id scale)]).map .said ++ [Happening.left (.setZoom zoom)]) =
      asked began said (.setScale id scale) ++ [Happening.left (.setZoom zoom)] := by
    rw [← asked_eq, List.append_assoc, List.append_assoc]
    rfl
  have htold := toldScale?_asked began said htells
  exact (congrArg (toldScale? id) hwaits).trans ((toldScale?_snoc rfl).trans htold)

theorem Run.zoom_back {zoom : Float} (hrun : Run host h s)
    (hknown : ∀ scale, (s.document.setZoom zoom).1 = some scale →
      s.documentScale.any (· == scale) = true) :
    ∃ h', Run host h' { s with document := (s.document.setZoom zoom).2.document } ∧
      toldScale? id h' = toldScale? id h ∧ ∀ o, .document o ∈ h' → .document o ∈ h := by
  have hchain : (SessionOperation.setZoom zoom).chain s = _ :=
    setZoom_known fun scale hchanged => .inr (.inl (hknown scale hchanged))
  have hback := hrun.operate (.setZoom zoom) (.refl _)
  rw [hchain] at hback
  refine ⟨_, hback, toldScale?_append ?_, fun o ho => document_mem_of_operation (.refl _) ho⟩
  have hsaid := untold_said (SessionEffect.filter_isOut_document (s.document.setZoom zoom).2.effects)
  exact List.forall_mem_cons.2 ⟨rfl, List.forall_mem_append.2 ⟨hsaid, List.forall_mem_singleton.2 rfl⟩⟩

/-- The letter is shown at its first scale again, and the server was told another one. -/
theorem not_agrees_dropped :
    ¬∀ (host : WidgetHost) (h : List Happening) (s : Session), Run host h s → (∀ o, .document o ∉ h) →
      s.lifecycle = .opened → s.document.scale.toCanvas.isFinite = true → s.Agrees h := by
  intro hall
  obtain ⟨h, hrun, hnone, -⟩ := run_letterSession widgetless
  let d := letterSession.document
  let doubled := (d.setZoom 2).2.document
  have hchanged : (d.setZoom 2).1 = some doubled.scale.toCanvas :=
    Document.setZoom_changed.2 ⟨rfl, by decide +kernel, by decide +kernel⟩
  obtain ⟨h', hdropped, htold, hkept⟩ := hrun.zoom_dropped rfl rfl hchanged (by decide +kernel)
  have hback : ∀ scale, (doubled.setZoom 1).1 = some scale →
      letterSession.documentScale.any (· == scale) = true := by
    intro scale hscale
    obtain ⟨rfl, -⟩ := Document.setZoom_changed.1 hscale
    decide +kernel
  obtain ⟨h'', hlast, htold', hkept'⟩ := hdropped.zoom_back hback
  obtain ⟨id, scale, told, hid, -, htold'', -, heq⟩ :=
    hall widgetless h'' _ hlast (fun o ho => hnone o (hkept o (hkept' o ho))) rfl (by decide +kernel)
  obtain rfl : "7" = id := Option.some.inj hid
  obtain rfl := Option.some.inj ((htold'.trans htold).symm.trans htold'')
  revert heq
  decide +kernel

end Session

end BandCanvas
