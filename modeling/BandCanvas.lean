import BandCanvas.Main
import BandCanvas.Proofs.Band.Lookup
import BandCanvas.Proofs.Canvas.Blending
import BandCanvas.Proofs.Canvas.Disc
import BandCanvas.Proofs.Canvas.Opaque
import BandCanvas.Proofs.Canvas.StrokeWidth
import BandCanvas.Proofs.Command.Numeral
import BandCanvas.Proofs.Command.Progress
import BandCanvas.Proofs.Command.RoundTrip
import BandCanvas.Proofs.Command.SelfDelimiting
import BandCanvas.Proofs.Document.BandStyle
import BandCanvas.Proofs.Document.Coalescing
import BandCanvas.Proofs.Document.Deferral
import BandCanvas.Proofs.Document.DeliveryOrder
import BandCanvas.Proofs.Document.Forgetting
import BandCanvas.Proofs.Document.Framing
import BandCanvas.Proofs.Document.Loading
import BandCanvas.Proofs.Document.MenuAnchor
import BandCanvas.Proofs.Document.ModelText
import BandCanvas.Proofs.Document.OneWidget
import BandCanvas.Proofs.Document.PageTotal
import BandCanvas.Proofs.Document.Repaint
import BandCanvas.Proofs.Document.ReplayExtent
import BandCanvas.Proofs.Document.Shown
import BandCanvas.Proofs.Geometry.ToldScale
import BandCanvas.Proofs.Picture.Proportion
import BandCanvas.Proofs.Session.Cancellation
import BandCanvas.Proofs.Session.LineRequests
import BandCanvas.Proofs.Session.Refusal
import BandCanvas.Proofs.Session.ScaleAgreement
import BandCanvas.Proofs.Session.Stages
import BandCanvas.Proofs.Session.Turning
import BandCanvas.Proofs.Settings.Stability
import BandCanvas.Recording.Run
import BandCanvas.Session.Operation
