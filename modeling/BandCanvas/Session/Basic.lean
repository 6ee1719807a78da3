import BandCanvas.Document.Operation
import BandCanvas.Session.Lifecycle
import BandCanvas.Session.Reply

namespace BandCanvas

inductive SessionError where
  | protocol (messages : List String)
  | cancelled
  | busy
  | transport (cause : String)
  deriving DecidableEq, Repr

namespace SessionError

def message : SessionError → String
  | protocol messages => "server error: " ++ "; ".intercalate messages
  | cancelled => "operation cancelled"
  | busy => "another document operation is in progress"
  | transport cause => s!"transport failure: {cause}"

end SessionError

inductive Focus where
  | first | last | nowhere
  deriving DecidableEq, Repr

inductive Direction where
  | left | right
  deriving DecidableEq, Repr

/-- A request to show a page of a chapter; negative pages are counted from the end. -/
structure LoadRequest where
  id : String
  editable : Bool
  path : String
  scale : Float
  focus : Focus
  page : Int
  deriving DecidableEq

/-- A request that is answered with any value. -/
inductive SessionRequest where
  | load (request : LoadRequest)
  | setScale (id : String) (scale : Float)
  | gotoPage (id : String) (page : Nat)
  | click (id : String) (x y : Float) (value : Option String)
  | close (id : String)
  | command (id text : String)
  | addBand (id kind : String) (band : Int)
  | deleteBand (id kind : String) (band : Int)
  | setText (id text : String) (direction : Direction)
  deriving DecidableEq

/-- What a session says: what its document says, and what goes to the server. -/
inductive SessionEffect where
  | document (effect : Effect)
  | openDocument (chapter : Chapter)
  | register (id : String)
  | ask (request : SessionRequest)

structure OpenedReport where
  report : String
  locale : String
  deriving DecidableEq, Repr

structure Session where
  document : Document
  lifecycle : Lifecycle
  cancelled : Bool
  documentId : Option String
  opened : Option OpenedReport
  documentScale : Option Float

/-- What came back for a request, and whether the operation was called off meanwhile. A failure of the
transport is given as a text. -/
structure Answer (α : Type) where
  cancelled : Bool
  reply : Except String (Reply α)

/-- An operation that has a result, or waits. Each stretch ends with the session and what was said. -/
inductive Chain (α : Type) where
  | done (session : Session) (said : List SessionEffect) (result : Except SessionError α)
  | awaitOpen (session : Session) (said : List SessionEffect)
      (resume : Answer OpenedDocument → Chain α)
  | await (session : Session) (said : List SessionEffect) (resume : Answer Json → Chain α)

namespace Session

def create (d : Document) : Session :=
  ⟨d, .closed, false, none, none, none⟩

def onDocument (s : Session) (f : Document → Outcome) : Session × List SessionEffect :=
  let o := f s.document
  ({ s with document := o.document }, o.effects.map .document)

def mapPaging (f : Paging → Paging) (s : Session) : Session :=
  { s with document := { s.document with paging := f s.document.paging } }

def answered {α : Type} (s : Session) (a : Answer α) : Session :=
  { s with cancelled := s.cancelled || a.cancelled }

def clear (s : Session) : Session × List SessionEffect :=
  let (s, said) := s.onDocument fun d => d.reset.andThen (Document.setEditable false)
  ({ s.mapPaging (Paging.setLoading false) with
      documentId := none, opened := none, documentScale := none, lifecycle := .closed }, said)

/-- Gives up: the session is closed, and the host is told why. -/
def fail (e : SessionError) (s : Session) : Session × List SessionEffect :=
  let (s, said) := s.clear
  (s, said ++ [.document (.event (.loadError e.message))])

/-- Calls off whatever is under way, and drops the document. -/
def abort (s : Session) : Session × List SessionEffect :=
  { s with cancelled := true }.clear

def menuBand? (s : Session) : Option Band :=
  s.document.menuBand.bind s.document.bands.find?

end Session

namespace Chain

variable {α : Type}

/-- An operation that ends at once and changes nothing. -/
def stop (s : Session) (result : Except SessionError α) : Chain α :=
  .done s [] result

/-- An operation that fails after it has said something, and closes the session. -/
def failed (s : Session) (said : List SessionEffect) (e : SessionError) : Chain α :=
  let (s, more) := s.fail e
  .done s (said ++ more) (.error e)

def ask (s : Session) (said : List SessionEffect) (request : SessionRequest)
    (resume : Session → Answer Json → Chain α) : Chain α :=
  .await s (said ++ [.ask request]) fun a => resume (s.answered a) a

/-- Sends a request whose failure closes the session. -/
def settle (s : Session) (said : List SessionEffect) (request : SessionRequest)
    (next : Session → Chain α) : Chain α :=
  ask s said request fun s a =>
    match a.reply with
    | .error cause => failed s [] (.transport cause)
    | .ok (.errors messages) => failed s [] (.protocol messages)
    | .ok (.ack _) => next s

end Chain

end BandCanvas
