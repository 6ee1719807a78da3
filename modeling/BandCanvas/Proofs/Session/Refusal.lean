import BandCanvas.Proofs.Document.PageNumbers
import BandCanvas.Proofs.Session.Opening

namespace BandCanvas

namespace Answer

variable {α : Type} {s : Session}

end Answer

namespace Chain

variable {α β : Type} {s s' : Session} {said : List SessionEffect}

theorem Ends.map {c : Chain α} {r : Except SessionError α} (h : c.Ends s' said r) (f : α → β) :
    (c.map f).Ends s' said (r.map f) := by
  induction h with
  | done s said r => exact .done s said _
  | opened a _ ih => exact .opened a ih
  | answered a _ ih => exact .answered a ih

end Chain

namespace Session

open Chain

variable {s s' : Session} {said : List SessionEffect}

end Session

namespace SessionOperation

open Chain Session

variable {s s' : Session} {said : List SessionEffect}

variable {r : Except SessionError Bool}

end SessionOperation

namespace Session

open Chain SessionOperation

end Session

end BandCanvas
