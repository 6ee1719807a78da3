import BandCanvas.Session.Basic

namespace BandCanvas.Session

def continuousHeight : Float := 4000

def noDocument : SessionError :=
  .protocol ["no document is open"]

/-- The server's command that highlights a field of a row, or a parameter. -/
def highlightCommand (field : String) (row : Option Nat) : String :=
  match row.filter (0 < ·) with
  | some row => s!"document highlight field \"{field}\",{row};"
  | none => s!"document highlight parameter \"{field}\";"

def prepare (model : DocumentModel) (s : Session) : Session :=
  let background := (model.backgroundColor.bind Color.ofHex?).getD Color.white
  { s with document := { s.document with background, paging := s.document.paging.reset (some model) } }

/-- The session after a chapter has been loaded, which is shown and can now be edited. -/
def showChapter (chapter : Chapter) (scale : Float) (s : Session) : Session × List SessionEffect :=
  let (s, shown) := s.onDocument fun d => (d.setEditable chapter.editable).andThen Document.repaint
  let s := { s with documentScale := some scale }.mapPaging (Paging.setLoading false)
  let width := s.document.scale.pageWidth
  let height := s.document.scale.pageHeight
  (s, shown ++ [.document (.event (.loaded width height (height < width)))])

def sendCommand (id text : String) (s : Session) (said : List SessionEffect) : Chain Unit :=
  Chain.ask s said (.command id text) fun s a =>
    if s.cancelled then Chain.failed s [] .cancelled
    else
      match a.reply with
      | .error cause => Chain.failed s [] (.transport cause)
      | .ok (.errors messages) => Chain.failed s [] (.protocol messages)
      | .ok (.ack _) => .done { s with lifecycle := .opened } [] (.ok ())

def loadChapter (chapter : Chapter) (page : Int) (postLoad : Option String) (s : Session)
    (said : List SessionEffect) : Chain Unit :=
  match s.documentId with
  | none => Chain.failed s said noDocument
  | some id =>
    let scale := s.document.scale.toCanvas
    let focus : Focus :=
      if !chapter.editable then .nowhere else if 0 < page then .first else .last
    let request : LoadRequest := ⟨id, chapter.editable, chapter.path, scale, focus, page⟩
    Chain.ask s said (.load request) fun s a =>
      match a.reply with
      | .error cause => Chain.failed s [] (.transport cause)
      | .ok reply =>
        if s.cancelled then Chain.failed s [] .cancelled
        else
          match reply with
          | .errors messages => Chain.failed s [] (.protocol messages)
          | .ack _ =>
            let (s, said) := s.showChapter chapter scale
            match postLoad with
            | none => .done { s with lifecycle := .opened } said (.ok ())
            | some text => sendCommand id text s said

def takeOpened (report : OpenedReport) (o : OpenedDocument) (s : Session) :
    Session × List SessionEffect :=
  let height := (o.height.filter fun h => h.isFinite && h ≥ 0).getD continuousHeight
  let (s, configured) := s.onDocument fun d => d.configurePage o.width height o.margins.right
  ({ s with documentId := some o.id, opened := some report }, .register o.id :: configured)

/-- Opens the present chapter at a page; it is only loaded where its report is open already. -/
def openChain (page : Int) (postLoad : Option String) (s : Session) : Chain Unit :=
  match s.document.paging.chapter? with
  | none => Chain.failed s [] (.protocol ["document has no chapters"])
  | some chapter =>
    let page := if page = 0 then 1 else page
    let report : OpenedReport := ⟨chapter.report, chapter.locale⟩
    let (s, said) := (s.mapPaging (Paging.setLoading true)).onDocument fun d =>
      (d.setEditable false).update fun d => { d with viewport := none }
    if s.opened = some report ∧ s.documentId.isSome then loadChapter chapter page postLoad s said
    else
      .awaitOpen s (said ++ [.openDocument chapter]) fun a =>
        let s := s.answered a
        match a.reply with
        | .error cause => Chain.failed s [] (.transport cause)
        | .ok reply =>
          if s.cancelled then Chain.failed s [] .cancelled
          else
            match reply with
            | .errors messages => Chain.failed s [] (.protocol messages)
            | .ack o =>
              let (s, said) := s.takeOpened report o
              loadChapter chapter page postLoad s said

def openChapter (page : Int) (postLoad : Option String) (s : Session) : Chain Unit :=
  if s.lifecycle.canBecome .opening then
    openChain page postLoad { s with lifecycle := .opening, cancelled := false }
  else Chain.stop s (.error .busy)

def openAt (chapter : Nat) (page : Int) (postLoad : Option String) (s : Session) : Chain Unit :=
  openChapter page postLoad (s.mapPaging (Paging.setChapterIndex chapter))

def openModel (model : DocumentModel) (s : Session) : Chain Unit :=
  if s.lifecycle.canBecome .opening then openChapter 1 none (s.prepare model)
  else Chain.stop s (.error .busy)

/-- Opens the chapter made by a report, and highlights a parameter, or a field of a row. -/
def openAndHighlight (model : DocumentModel) (report field : String) (row : Option Nat)
    (s : Session) : Chain Unit :=
  if s.lifecycle.canBecome .opening then
    match model.chapterOfReport? report with
    | none => Chain.stop s (.error (.protocol [s!"no chapter uses report {report}"]))
    | some chapter => openAt chapter 1 (some (highlightCommand field row)) (s.prepare model)
  else Chain.stop s (.error .busy)

def turnPage (chapterPage : Nat) (s : Session) : Chain Unit :=
  if s.lifecycle.canBecome .navigating then
    let s := { s with lifecycle := .navigating }
    match s.documentId with
    | none => Chain.stop s (.error noDocument)
    | some id =>
      let s := { s with document := { s.document with viewport := none } }
      Chain.settle s [] (.gotoPage id chapterPage) fun s =>
        .done { s with lifecycle := .opened } [] (.ok ())
  else Chain.stop s (.error .busy)

/-- Shows a page of the document. There is nothing to do for one that is shown, or does not exist. -/
def gotoPage (page : Nat) (s : Session) : Chain Unit :=
  match s.document.paging.model.bind fun m => m.locatePage page with
  | none => Chain.stop s (.ok ())
  | some (chapter, chapterPage) =>
    if chapter ≠ s.document.paging.chapterIndex then
      if s.lifecycle.canBecome .opening then openAt chapter chapterPage none s
      else Chain.stop s (.error .busy)
    else if s.document.paging.chapterPage.1 = chapterPage then Chain.stop s (.ok ())
    else turnPage chapterPage s

end Session

namespace Chain

variable {α β : Type}

def map (f : α → β) : Chain α → Chain β
  | .done s said result => .done s said (result.map f)
  | .awaitOpen s said resume => .awaitOpen s said fun a => (resume a).map f
  | .await s said resume => .await s said fun a => (resume a).map f

end Chain

namespace Session

def moveTo (chapter : Nat) (page : Int) (s : Session) : Chain Bool :=
  if s.lifecycle.canBecome .opening then (openAt chapter page none s).map fun _ => true
  else Chain.stop s (.error .busy)

def nextChapter (s : Session) : Chain Bool :=
  let next := s.document.paging.chapterIndex + 1
  if s.document.paging.model.elim 0 (fun m => m.chapters.length) ≤ next then Chain.stop s (.ok false)
  else moveTo next 1 s

def previousChapter (s : Session) : Chain Bool :=
  match s.document.paging.chapterIndex, s.document.paging.model with
  | chapter + 1, some _ => moveTo chapter (-1) s
  | _, _ => Chain.stop s (.ok false)

def setZoom (zoom : Float) (s : Session) : Chain Unit :=
  let (changed, o) := s.document.setZoom zoom
  let said := o.effects.map SessionEffect.document
  let s := { s with document := o.document }
  match changed, s.documentId with
  | some scale, some id =>
    if s.documentScale.any (· == scale) || s.lifecycle ≠ .opened then .done s said (.ok ())
    else
      Chain.settle s said (.setScale id scale) fun s =>
        .done { s with documentScale := some scale } [] (.ok ())
  | _, _ => .done s said (.ok ())

def click (x y : Float) (value : Option String) (s : Session) : Chain Unit :=
  match s.document.scale.pointerToServer? x y with
  | none => Chain.stop s (.ok ())
  | some (x, y) =>
    match s.documentId with
    | none => Chain.stop s (.error noDocument)
    | some id => Chain.settle s [] (.click id x y value) fun s => Chain.stop s (.ok ())

/-- Sends a request about the band of the context menu. The answer tells whether there is one. -/
def onMenuBand (request : String → Band → SessionRequest) (s : Session) : Chain Bool :=
  match s.menuBand? with
  | none => Chain.stop s (.ok false)
  | some band =>
    match s.documentId with
    | none => Chain.stop s (.error noDocument)
    | some id => Chain.settle s [] (request id band) fun s => Chain.stop s (.ok true)

def addLine : Session → Chain Bool :=
  onMenuBand fun id band => .addBand id band.kind band.id

def removeLine : Session → Chain Bool :=
  onMenuBand fun id band => .deleteBand id band.kind band.id

def commitValue (text : String) (direction : Direction) (s : Session) : Chain Unit :=
  match s.documentId with
  | none => Chain.stop s (.error noDocument)
  | some id => Chain.settle s [] (.setText id text direction) fun s => Chain.stop s (.ok ())

def finishClose (result : Except SessionError Unit) (s : Session) : Chain Unit :=
  let (s, said) := s.clear
  .done (s.mapPaging (Paging.reset none)) said result

/-- Closes the document. The session is closed even if the server does not agree. -/
def close (s : Session) : Chain Unit :=
  if s.lifecycle.canBecome .closing then
    let s := { s with lifecycle := .closing }
    match s.documentId with
    | none => finishClose (.ok ()) s
    | some id =>
      Chain.ask s [] (.close id) fun s a =>
        match a.reply with
        | .error cause => finishClose (.error (.transport cause)) s
        | .ok (.errors messages) => finishClose (.error (.protocol messages)) s
        | .ok (.ack _) => finishClose (.ok ()) s
  else Chain.stop s (.error .busy)

end BandCanvas.Session
