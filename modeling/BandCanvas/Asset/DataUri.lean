import BandCanvas.Picture.Png
import BandCanvas.Text.Base64
import BandCanvas.Text.Blank

namespace BandCanvas

inductive DataUriError where
  | malformed
  | encoding
  | digits
  | picture
  deriving DecidableEq, Repr

namespace DataUriError

def message : DataUriError → String
  | malformed => "malformed data uri"
  | encoding => "only base64 data uris are supported"
  | digits => "invalid base64 in data uri"
  | picture => "decode image"

end DataUriError

namespace DataUri

def scheme : List Char :=
  "data:".toList

def isDataUri (uri : List Char) : Bool :=
  scheme.isPrefixOf uri

def decode (uri : List Char) : Except DataUriError Bitmap :=
  let rest := uri.drop scheme.length
  let header := rest.takeWhile (· != ',')
  match rest.dropWhile (· != ',') with
  | ',' :: payload =>
    if !isDataUri uri then .error .malformed
    else if !";base64".toList.isSuffixOf header then .error .encoding
    else
      match Base64.decode? (Blank.trim payload) with
      | none => .error .digits
      | some bytes => (Png.decode? bytes).elim (.error .picture) .ok
  | _ => .error .malformed

end DataUri

end BandCanvas
