import CallWire.Text.Ranges

/-!
White space, and texts without it at their ends.
-/

namespace CallWire

def blankRanges : CharRanges :=
  [(0x9, 0xD), (0x20, 0x20), (0x85, 0x85), (0xA0, 0xA0), (0x1680, 0x1680), (0x2000, 0x200A),
    (0x2028, 0x2029), (0x202F, 0x202F), (0x205F, 0x205F), (0x3000, 0x3000)]

def isBlank (c : Char) : Bool := blankRanges.holds c

def trimBlanks (text : List Char) : List Char :=
  ((text.dropWhile isBlank).reverse.dropWhile isBlank).reverse

/-- What follows the first of these beginnings that the text has. -/
def afterAny? (beginnings : List String) (text : List Char) : Option (List Char) :=
  beginnings.findSome? fun beginning => beginning.toList.isPrefixOf? text

end CallWire
