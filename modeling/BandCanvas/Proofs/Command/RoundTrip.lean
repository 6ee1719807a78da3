import BandCanvas.Proofs.Command.Reading

namespace BandCanvas

namespace Reader

theorem Reads.bandHeader (paint : Bool) (kind : CountedText) (id : NumberText) (editable : Bool)
    (height x y : NumberText) :
    Reads (bandHeader paint)
      (kind.text ++ ',' :: id.text ++ (if editable then 't' else 'f') :: ',' :: height.text ++ x.text ++
        y.text)
      ⟨paint, kind.content, Binary64.toInt64 id.value, editable, height.value, x.value, y.value⟩ := by
  refine .of_eq ((Reads.string kind ',').bind <| (Reads.number id).bind <|
    (Reads.next (if editable then 't' else 'f')).bind <| (Reads.skip_one ',').bind <|
      (Reads.number height).bind <| (Reads.number x).bind <| (Reads.number y).map _) ?_ ?_
  · simp
  · cases editable <;> rfl

theorem Reads.image (id : NumberText) (path : CountedText) (top left bottom right : NumberText)
    (fit horizontal vertical : CountedText) :
    Reads image
      (id.text ++ path.text ++ ',' :: top.text ++ left.text ++ bottom.text ++ right.text ++ fit.text ++
        ',' :: horizontal.text ++ ',' :: vertical.text ++ [';'])
      ⟨Binary64.toInt64 id.value, path.content,
        ⟨⟨top.value, left.value, bottom.value, right.value⟩, FitMode.ofCode fit.content,
          HorizontalAnchor.ofCode horizontal.content, VerticalAnchor.ofCode vertical.content⟩⟩ := by
  refine .of_eq ((Reads.number id).bind <| (Reads.string path ',').bind <| (Reads.number top).bind <|
    (Reads.number left).bind <| (Reads.number bottom).bind <| (Reads.number right).bind <|
      (Reads.string fit ',').bind <| (Reads.string horizontal ',').bind <|
        (Reads.string vertical ';').map _) ?_ rfl
  simp

theorem Reads.paintMode {β : Type} {d : PaintMode} {g : PaintMode → Reader β} {b : β} {s : List Char}
    (mode : Option PaintMode) (n : NumberText) (h : Reads (g (mode.getD d)) (n.text ++ s) b) :
    Reads (paintMode d >>= g) (letters mode ++ (n.text ++ s)) b := by
  rw [paintMode_eq]
  cases mode with
  | some m =>
    have hm : PaintMode.ofLetter? m.letter = some m := by cases m <;> rfl
    exact .optional_present hm h
  | none =>
    obtain ⟨c, u, hu, hc⟩ := n.opening_text
    have hletter : PaintMode.ofLetter? c = none := by
      unfold PaintMode.ofLetter?
      split
      · exact absurd hc (by decide)
      · exact absurd hc (by decide)
      · exact absurd hc (by decide)
      · rfl
    rw [hu] at h ⊢
    exact .optional_absent hletter h

theorem Reads.text (mode : Option PaintMode) (x y : NumberText) (content : CountedText)
    (maxWidth : Option NumberText) :
    Reads text (letters mode ++ x.text ++ y.text ++ content.text ++ textEnding maxWidth)
      (.text (mode.getD .fill) x.value y.value content.content (maxWidth.map NumberText.value)) := by
  refine .of_eq (.paintMode mode x <| (Reads.number x).bind <| (Reads.number y).bind <|
    (Reads.payload content).bind (?_ : Reads _ (textEnding maxWidth) _)) (by simp) rfl
  cases maxWidth with
  | none => exact .eat_other (by decide) ((Reads.skip_one ';').map fun _ => _)
  | some width => exact .eat ((Reads.number width).map _)

theorem Reads.fontMetrics (flags top ascent descent bottom leading averageWidth maximumWidth
    underlineThickness underlinePosition : NumberText) :
    Reads fontMetrics
      (flags.text ++ top.text ++ ascent.text ++ descent.text ++ bottom.text ++ leading.text ++
        averageWidth.text ++ maximumWidth.text ++ underlineThickness.text ++ underlinePosition.text)
      ⟨flags.value, top.value, ascent.value, descent.value, bottom.value, leading.value,
        averageWidth.value, maximumWidth.value, underlineThickness.value, underlinePosition.value⟩ := by
  refine .of_eq ((Reads.number flags).bind <| (Reads.number top).bind <| (Reads.number ascent).bind <|
    (Reads.number descent).bind <| (Reads.number bottom).bind <| (Reads.number leading).bind <|
      (Reads.number averageWidth).bind <| (Reads.number maximumWidth).bind <|
        (Reads.number underlineThickness).bind <| (Reads.number underlinePosition).map _) ?_ rfl
  simp

theorem Reads.font (style size : NumberText) :
    Reads font (style.text ++ size.text)
      (.font style.value.toUInt8 (Binary64.round size.value)) := by
  have h : Reads (Reader.number >>= fun style => Reader.number >>= fun size =>
      Pure.pure (Command.font style.toUInt8 (Binary64.round size))) (style.text ++ size.text) _ :=
    (Reads.number style).bind ((Reads.number size).map _)
  obtain ⟨c, u, hu, hc⟩ := style.opening_text
  rw [hu] at h ⊢
  exact .eat_other (hc.ne (by decide)) h

theorem Reads.optionalText (p : Option CountedText) :
    Reads optionalText (ending (p.map CountedText.text)) (p.map CountedText.content) := by
  cases p with
  | none => exact .eat_other (by decide) ((Reads.skip_one ';').map fun _ => none)
  | some p =>
    exact .eat ((Reads.payload p).bind ((Reads.skip_one ';').map fun _ => some p.content))

theorem subDocument_eq (d : SubDocumentText) :
    subDocument d.uri.content d.report.content = d.value := by
  simp [subDocument, SubDocumentText.value]

theorem Reads.optionalSubDocument (d : Option SubDocumentText) :
    Reads optionalSubDocument (ending (d.map SubDocumentText.text))
      (d.map SubDocumentText.value) := by
  cases d with
  | none => exact .eat_other (by decide) ((Reads.skip_one ';').map fun _ => none)
  | some d =>
    refine .of_eq (.eat <| (Reads.string d.uri ',').bind <| (Reads.payload d.report).bind <|
      (Reads.skip_one ';').map fun _ => _) ?_ ?_
    · simp [ending, SubDocumentText.text]
    · exact congrArg some (subDocument_eq d)

theorem filter_hasName (d : SubDocumentText) :
    (some (subDocument d.uri.content d.report.content)).filter hasName =
      if d.value = ⟨none, none⟩ then none else some d.value := by
  rw [subDocument_eq]
  obtain ⟨uri, report⟩ := d.value
  cases uri <;> cases report <;> rfl

theorem Reads.combo_binding (version : NumberText) (second : (version.value == 2) = true)
    (json : CountedText) :
    Reads combo (version.text ++ json.text ++ [';']) (.binding json.content) := by
  refine .of_eq ((Reads.number version).bind (?_ : Reads _ (json.text ++ [';']) _)) (by simp) rfl
  rw [if_pos second]
  exact (Reads.string json ';').map _

theorem Reads.combo_inline (version : NumberText) (other : (version.value == 2) = false)
    (nullable : NumberText) (fields : FieldsText) (listId : CountedText) (d : SubDocumentText)
    (list : Option CountedText) :
    Reads combo
      (version.text ++ nullable.text ++ fields.list.text ++ ',' :: listId.text ++ ',' :: d.text ++
        ending (list.map CountedText.text))
      (.inline (nullable.value != 0) fields.value listId.content
        (if d.value = ⟨none, none⟩ then none else some d.value) (list.map CountedText.content)) := by
  refine .of_eq ((Reads.number version).bind (?_ : Reads _ (nullable.text ++ fields.list.text ++
    ',' :: listId.text ++ ',' :: d.text ++ ending (list.map CountedText.text)) _)) (by simp) rfl
  rw [if_neg (by simp [other])]
  refine .of_eq ((Reads.number nullable).bind <| (Reads.string fields.list ',').bind <|
    (Reads.string listId ',').bind <| (Reads.string d.uri ',').bind <|
      (Reads.payload d.report).bind <| (Reads.optionalText list).map _) ?_ ?_
  · simp [SubDocumentText.text]
  · rw [fields.fieldList_content, filter_hasName]

theorem Reads.tag {β : Type} {f : Option Char → Reader β} {r : Reader β} {s : List Char} {b : β}
    (x : Char) (h : Reads r s b) (hf : f (some x) = r) : Reads (Reader.next >>= f) (x :: s) b :=
  (Reads.next x).bind (hf ▸ h)

theorem Reads.editMode (m : EditModeText) : Reads editMode m.chars m.meaning := by
  cases m with
  | text => exact .tag 't' ((Reads.skip_one ';').map fun _ => EditMode.text) rfl
  | readOnly d => exact .tag 'r' ((Reads.optionalSubDocument d).map EditMode.readOnly) rfl
  | date p => exact .tag 'd' ((Reads.optionalText p).map EditMode.date) rfl
  | number p => exact .tag 'n' ((Reads.optionalText p).map EditMode.number) rfl
  | comboBinding version second json =>
    exact .tag 'c' ((Reads.combo_binding version second json).map EditMode.combo) rfl
  | comboInline version other nullable fields listId d list =>
    exact .tag 'c'
      ((Reads.combo_inline version other nullable fields listId d list).map EditMode.combo) rfl
  | serverCombo d => exact .tag 'C' ((Reads.optionalSubDocument d).map EditMode.serverCombo) rfl
  | ledgerCombo fields =>
    have h := (Reads.string fields.list ';').map fun s => EditMode.ledgerCombo (fieldList s)
    rw [fields.fieldList_content] at h
    exact .tag 'l' h rfl
  | fieldArray row name values =>
    refine .of_eq (.tag 'R' (.bind (Reads.number row) <| .bind (Reads.string name ',') <|
      (Reads.string values ';').map _) rfl) ?_ rfl
    simp [EditModeText.chars]

theorem Reads.fieldValue (v : FieldValueText) : Reads fieldValue v.text v.value := by
  cases v with
  | plain v =>
    obtain ⟨c, u, hu, hc⟩ := v.count.opening_text
    have h := (Reads.payload v).map FieldValue.plain
    simp only [FieldValueText.text, CountedText.text, hu] at h ⊢
    exact .eat_other (hc.ne (by decide)) h
  | keyed id v =>
    refine .of_eq (.eat <| (Reads.string id ',').bind <| (Reads.string v '}').map _) ?_ rfl
    simp [FieldValueText.text]

theorem Reads.editorStart (x baseline height band : NumberText) (v : FieldValueText) :
    Reads editorStart
      (x.text ++ baseline.text ++ height.text ++ band.text ++ v.text ++ [';'])
      ⟨x.value, baseline.value, height.value, Binary64.toInt64 band.value, v.value⟩ := by
  refine .of_eq ((Reads.number x).bind <| (Reads.number baseline).bind <| (Reads.number height).bind <|
    (Reads.number band).bind <| (Reads.fieldValue v).bind <| (Reads.skip_one ';').map fun _ => _) ?_ rfl
  simp

theorem Reads.moreTexts_none : Reads moreTexts [';'] ("", "") :=
  .peek ((Reads.skip_one ';').map fun _ => _)

theorem Reads.moreTexts_one (b : CountedText) :
    Reads moreTexts (',' :: b.text ++ [';']) (b.content, "") :=
  .peek <| (Reads.skip_one ',').bind <| (Reads.payload b).bind <|
    .peek ((Reads.skip_one ';').map fun _ => _)

theorem Reads.moreTexts_two (b c : CountedText) (x : Char) :
    Reads moreTexts (',' :: b.text ++ ',' :: c.text ++ [x]) (b.content, c.content) := by
  refine .of_eq (.peek <| (Reads.skip_one ',').bind <| (Reads.payload b).bind <|
    .peek <| (Reads.skip_one ',').bind <| (Reads.string c x).map _) ?_ rfl
  simp

theorem Reads.editorUpdate (u : UpdateText) : Reads editorUpdate u.text u.value := by
  cases u with
  | one a =>
    refine .of_eq ((Reads.payload a).bind <| .previous (s := []) Reads.moreTexts_none rfl (.pure _)) ?_ rfl
    simp [UpdateText.text]
  | two a b =>
    refine .of_eq ((Reads.payload a).bind <| .previous (Reads.moreTexts_one b) rfl (.pure _)) ?_ rfl
    simp [UpdateText.text]
  | three a b c =>
    refine .of_eq ((Reads.payload a).bind <| .previous (Reads.moreTexts_two b c ';') rfl (.pure _)) ?_ rfl
    simp [UpdateText.text]
  | four a b c json =>
    refine .of_eq ((Reads.payload a).bind <| .previous (Reads.moreTexts_two b c ',') rfl
      ((Reads.string json ';').map _)) ?_ rfl
    simp [UpdateText.text]

/-- A text that starts with the letter of a command and goes on with its operands. -/
def ReadsCommand (s : List Char) (k : Command) : Prop :=
  ∃ code operands, s = code :: operands ∧ Reads (command code) operands k

variable {s s' : List Char} {k : Command}

theorem ReadsCommand.intro {r : Reader Command} (code : Char) (h : Reads r s k)
    (hr : command code = r) (hs : s' = code :: s) : ReadsCommand s' k :=
  ⟨code, s, hs, hr ▸ h⟩

theorem ReadsCommand.editor {k : EditorCommand} (h : Reads editor s k) (hs : s' = 'e' :: s) :
    ReadsCommand s' (.editor k) :=
  .intro 'e' (h.map Command.editor) rfl hs

theorem ReadsCommand.rect (mode : Option PaintMode) (box : BoxText) :
    ReadsCommand ('R' :: letters mode ++ box.text) (.rect (.paint (mode.getD .stroke)) box.value) := by
  have h : Reads (Reader.paintMode .stroke >>= fun m => Reader.rect >>= fun b =>
      Pure.pure (Command.rect (.paint m) b)) (letters mode ++ box.text)
      (.rect (.paint (mode.getD .stroke)) box.value) := by
    have hrect := (Reads.rect box).map (Command.rect (.paint (mode.getD .stroke)))
    simp only [BoxText.text, List.append_assoc] at hrect ⊢
    exact .paintMode mode box.x hrect
  have hfirst : ∃ c u, letters mode ++ box.text = c :: u ∧ c ≠ 'C' := by
    cases mode with
    | some m => exact ⟨_, _, rfl, by cases m <;> decide⟩
    | none =>
      obtain ⟨c, u, hu, hc⟩ := box.x.opening_text
      exact ⟨c, u ++ (box.y.text ++ (box.width.text ++ box.height.text)),
        by simp [letters, BoxText.text, hu], hc.ne (by decide)⟩
  obtain ⟨c, u, hu, hc⟩ := hfirst
  rw [hu] at h
  exact .intro 'R' (.eat_other hc h) rfl (congrArg ('R' :: ·) hu)

theorem Reads.reserved {body : List Char} (x : Char) (h : x ∉ body) :
    Reads (skipPast x) (body ++ [x]) () := by
  intro c t hs
  have hrest : c.rest = body ++ x :: t := by simpa using hs
  exact run_skipPast_cons h hrest

end Reader

open Reader

theorem Phrase.readsCommand (p : Phrase) : ReadsCommand p.chars p.meaning := by
  cases p with
  | reset hard =>
    cases hard with
    | true =>
      exact .intro 'Z' (.eat_other (by decide) ((Reads.skip_one ';').map fun _ => Command.reset true))
        rfl rfl
    | false => exact .intro 'Z' (.eat ((Reads.skip_one ';').map fun _ => Command.reset false)) rfl rfl
  | band paint kind id editable height x y =>
    have h := (Reads.bandHeader paint kind id editable height x y).map Command.band
    cases paint with
    | true => exact .intro 'B' h rfl (by simp [chars])
    | false => exact .intro 'b' h rfl (by simp [chars])
  | update => exact .intro 'U' (.pure Command.update) rfl rfl
  | line x1 y1 x2 y2 =>
    refine .intro 'L' (.bind (Reads.number x1) <| .bind (Reads.number y1) <| .bind (Reads.number x2) <|
      (Reads.number y2).map (Command.line x1.value y1.value x2.value)) rfl ?_
    simp [chars]
  | clearRect box => exact .intro 'R' (.eat ((Reads.rect box).map (Command.rect .clear))) rfl rfl
  | rect mode box => exact .rect mode box
  | roundRect mode radius box =>
    refine .intro 'r' (.paintMode mode radius <| .bind (Reads.number radius) <|
      (Reads.rect box).map (Command.roundRect (mode.getD .stroke) radius.value)) rfl ?_
    simp [chars]
  | text mode x y content maxWidth =>
    refine .intro 'T' (Reads.text mode x y content maxWidth) rfl ?_
    simp [chars]
  | fillColor color => exact .intro 'C' ((Reads.color color).map Command.fillColor) rfl rfl
  | textColor color => exact .intro 'c' ((Reads.color color).map Command.textColor) rfl rfl
  | strokeColor color => exact .intro 's' ((Reads.color color).map Command.strokeColor) rfl rfl
  | lineWidth width => exact .intro 'w' ((Reads.number width).map Command.lineWidth) rfl rfl
  | ellipse mode box =>
    have hrect := (Reads.rect box).map (Command.ellipse (mode.getD .fill))
    simp only [BoxText.text, List.append_assoc] at hrect
    refine .intro 'E' (.paintMode mode box.x hrect) rfl ?_
    simp [chars, BoxText.text]
  | image id path top left bottom right fit horizontal vertical =>
    refine .intro 'I' ((Reads.image id path top left bottom right fit horizontal vertical).map
      Command.image) rfl ?_
    simp [chars]
  | fontFamily family => exact .intro 'F' ((Reads.string family ';').map Command.fontFamily) rfl rfl
  | font style size => exact .intro 'f' (Reads.font style size) rfl rfl
  | fontMetrics flags top ascent descent bottom leading averageWidth maximumWidth underlineThickness
      underlinePosition =>
    refine .intro 'f' (.eat ((Reads.fontMetrics flags top ascent descent bottom leading averageWidth
      maximumWidth underlineThickness underlinePosition).map Command.fontMetrics)) rfl ?_
    simp [chars]
  | legacyOrigin x y =>
    exact .intro 'X' (.bind (Reads.number x) ((Reads.number y).map (Command.legacyOrigin x.value)))
      rfl rfl
  | transform dx dy angle =>
    refine .intro 't' (.tag 'r' (.bind (Reads.number dx) <| .bind (Reads.number dy) <|
      (Reads.number angle).map (Command.transform dx.value dy.value)) rfl) rfl ?_
    simp [chars]
  | resetTransform =>
    exact .intro 't' (.tag 'c' ((Reads.skip_one ';').map fun _ => Command.resetTransform) rfl) rfl rfl
  | grid major minor =>
    exact .intro 'k' (.tag 'g' (.bind (Reads.number major) <|
      (Reads.number minor).map (Command.grid major.value)) rfl) rfl rfl
  | page number count =>
    exact .intro 'k' (.tag 'p' (.bind (Reads.number number) <| (Reads.number count).map fun n =>
      Command.page (Binary64.toNat32 number.value) (Binary64.toNat32 n)) rfl) rfl rfl
  | path body unbroken =>
    exact .intro 'P' ((Reads.reserved ';' unbroken).map fun _ => Command.reserved 'P') rfl rfl
  | linePattern body unbroken =>
    exact .intro 'p' ((Reads.reserved ';' unbroken).map fun _ => Command.reserved 'p') rfl rfl
  | separator => exact .intro ';' (.pure Command.separator) rfl rfl
  | configure mode =>
    exact .editor (.tag 'c' ((Reads.editMode mode).map EditorCommand.configure) rfl) rfl
  | prepare box => exact .editor (.tag 'p' ((Reads.rect box).map EditorCommand.prepare) rfl) rfl
  | start x baseline height band value =>
    refine .editor (.tag 's' ((Reads.editorStart x baseline height band value).map
      EditorCommand.start) rfl) ?_
    simp [chars]
  | updateEditor content =>
    exact .editor (.tag 'u' ((Reads.editorUpdate content).map EditorCommand.update) rfl) rfl
  | finish => exact .editor (.tag 'f' ((Reads.skip_one ';').map fun _ => EditorCommand.finish) rfl) rfl
  | debugBox box =>
    exact .editor (.tag 'b' (.bind (Reads.skip_one ',') ((Reads.rect box).map EditorCommand.debugBox))
      rfl) rfl
  | hint box content =>
    refine .editor (.tag 'h' (.bind (Reads.rect box) <|
      (Reads.string content ';').map (EditorCommand.hint box.value)) rfl) ?_
    simp [chars]

namespace Reader

theorem run_binding {c : Cursor} {s : List Char} (hs : c.rest = s ++ [';']) :
    binding.run c = (.ok (String.ofList s), c.past c.rest []) := by
  have hlast : c.rest.getLast? = some ';' := by rw [hs, List.getLast?_concat]
  have hbody : c.rest.dropLast = s := by rw [hs, List.dropLast_concat]
  show (Except.ok (String.ofList (if c.rest.getLast? = some ';' then c.rest.dropLast else c.rest)),
    c.past c.rest []) = _
  rw [if_pos hlast, hbody]

/-- A binding takes all that is left, so it is no phrase like the others. -/
theorem run_editor_binding {c : Cursor} {s : List Char} (hs : c.rest = 'a' :: (s ++ [';'])) :
    editor.run c = (.ok (.attach (String.ofList s)), c.past c.rest []) := by
  have hnext : next.run c = (.ok (some 'a'), c.past ['a'] (s ++ [';'])) := Reads.next 'a' hs
  rw [editor, run_bind, hnext]
  show (binding >>= fun json => pure (EditorCommand.attach json)).run _ = _
  rw [run_bind, run_binding rfl]
  simp only [run_pure, Cursor.past_rest, Cursor.past_past, hs]
  rfl

end Reader

namespace Cursor

theorem step_of_readsCommand {c : Cursor} {s t : List Char} {k : Command} (h : ReadsCommand s k)
    (hs : c.rest = s ++ t) : c.step = some (.ok k, c.past s t) := by
  obtain ⟨code, operands, rfl, hr⟩ := h
  have hrest : c.rest = code :: (operands ++ t) := hs
  have hrun : (command code).run (c.past [code] (operands ++ t)) =
      (.ok k, (c.past [code] (operands ++ t)).past operands t) := hr rfl
  rw [step, hrest]
  simp only [hrun, past_past]
  rfl

theorem step_binding {c : Cursor} {s : List Char} (hs : c.rest = 'e' :: 'a' :: (s ++ [';'])) :
    c.step = some (.ok (.editor (.attach (String.ofList s))), c.past c.rest []) := by
  have hrun : (command 'e').run (c.past ['e'] ('a' :: (s ++ [';']))) =
      (.ok (.editor (.attach (String.ofList s))), c.past c.rest []) := by
    show (editor >>= fun k => pure (Command.editor k)).run _ = _
    rw [run_bind, run_editor_binding rfl]
    simp only [run_pure, past_rest, past_past, hs]
    rfl
  rw [step, hs]
  simp only [hrun, hs]

end Cursor

namespace Script

/-- What decoding has to find: the commands, each with the offset where its text ends. -/
def placed (offset : Nat) : List (List Char × Command) → List (Except DecodeError Command × Nat)
  | [] => []
  | (s, k) :: rest => (.ok k, offset + byteLength s) :: placed (offset + byteLength s) rest

theorem placed_append (offset : Nat) (l l' : List (List Char × Command)) :
    placed offset (l ++ l') =
      placed offset l ++ placed (offset + byteLength (l.flatMap Prod.fst)) l' := by
  induction l generalizing offset with
  | nil => rfl
  | cons x l ih =>
    rw [List.cons_append, placed, ih, List.flatMap_cons, byteLength_append, Nat.add_assoc]
    rfl

theorem steps_phrases (ps : List Phrase) {c : Cursor} {t : List Char}
    (hs : c.rest = ps.flatMap Phrase.chars ++ t) :
    c.steps.map (fun x => (x.1, x.2.offset)) =
      placed c.offset (ps.map fun p => (p.chars, p.meaning)) ++
        (c.past (ps.flatMap Phrase.chars) t).steps.map fun x => (x.1, x.2.offset) := by
  induction ps generalizing c with
  | nil =>
    have ht : c.rest = t := hs
    rw [← ht]
    rfl
  | cons p ps ih =>
    rw [List.flatMap_cons, List.append_assoc] at hs
    have hstep := Cursor.step_of_readsCommand p.readsCommand hs
    rw [Cursor.steps_of_some hstep, List.map_cons, ih rfl, Cursor.past_past]
    rfl

/-- A stream written by the grammar is decoded to the commands that were written, each up to the end of its
text. -/
theorem steps_text (s : Script) :
    (Cursor.start s.text).steps.map (fun x => (x.1, x.2.offset)) = placed 0 s.commands := by
  obtain ⟨ps, binding⟩ := s
  cases binding with
  | none =>
    have hs : (Cursor.start (text ⟨ps, none⟩)).rest = ps.flatMap Phrase.chars ++ [] := by
      simp [text, commands, Cursor.start, List.flatMap_map]
    rw [steps_phrases ps hs, Cursor.steps_of_none rfl]
    simp [commands, Cursor.start]
  | some json =>
    have hs : (Cursor.start (text ⟨ps, some json⟩)).rest =
        ps.flatMap Phrase.chars ++ 'e' :: 'a' :: (json.toList ++ [';']) := by
      simp [text, commands, Cursor.start, List.flatMap_map]
    rw [steps_phrases ps hs, Cursor.steps_of_some (Cursor.step_binding rfl),
      Cursor.steps_of_none rfl, String.ofList_toList, commands, placed_append, List.flatMap_map]
    rfl

example :
    String.ofList (text ⟨[.separator, .text none (.ofNat 1) (.ofNat 2) ⟨.ofNat 2, "U;", by decide +kernel, by decide⟩ none],
      none⟩) = ";T1,2,2,U;;" := by
  decide

end Script

end BandCanvas
