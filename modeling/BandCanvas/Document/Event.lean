namespace BandCanvas

inductive DocumentEvent where
  | pageCount (total : Nat)
  | pageNumber (page : Nat)
  | chapterPage (number count : Nat)
  | loaded (width height : Float) (landscape : Bool)
  | loadError (text : String)
  | bindingError (text : String)
  | menuShown (band : Int) (x y : Float)
  | menuHidden
  | scrollBy (dx dy : Float)
  deriving DecidableEq

end BandCanvas
