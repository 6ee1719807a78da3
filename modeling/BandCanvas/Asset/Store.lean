import BandCanvas.Asset.Base
import BandCanvas.Asset.DataUri

namespace BandCanvas.AssetBase

def fetch (b : AssetBase) (fileBytes : String → Option (List UInt8)) (path : String) :
    Option Bitmap :=
  if DataUri.isDataUri path.toList then (DataUri.decode path.toList).toOption
  else do
    let url ← (b.resolve path).toOption
    let bytes ← fileBytes (← url.filePath?)
    Png.decode? bytes

end BandCanvas.AssetBase
