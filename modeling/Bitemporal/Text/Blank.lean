/-
This file says which characters are blank and trims them from texts.
-/
namespace Bitemporal.Blank

/-- The first and the last code point of each run of blank characters. -/
def ranges : List (Nat × Nat) :=
  [(0x09, 0x0D), (0x20, 0x20), (0x85, 0x85), (0xA0, 0xA0), (0x1680, 0x1680), (0x2000, 0x200A),
    (0x2028, 0x2029), (0x202F, 0x202F), (0x205F, 0x205F), (0x3000, 0x3000)]

def isBlank (character : Char) : Bool :=
  ranges.any fun (first, last) => first ≤ character.toNat && character.toNat ≤ last

/-- The text without the blank characters at both ends. -/
def trim (text : String) : String :=
  let front := text.toList.dropWhile isBlank
  String.ofList (front.reverse.dropWhile isBlank).reverse

/-- A text of blank characters alone. -/
def isBlankText (text : String) : Bool := text.toList.all isBlank

end Bitemporal.Blank
