/-!
# Text in bytes

Bytes are text as far as they are ASCII. Their blanks are those of ASCII.
-/
namespace DocumentSearch.Text

def isBlankByte (b : UInt8) : Bool := (9 ≤ b && b ≤ 13) || b = 32

def stripBytes (bytes : List UInt8) : List UInt8 :=
  ((bytes.dropWhile isBlankByte).reverse.dropWhile isBlankByte).reverse

/-- Bytes as text, if all of them are ASCII. -/
def asciiText? (bytes : List UInt8) : Option String :=
  if bytes.all (fun b => b < 128) then
    some (String.ofList (bytes.map (fun b => Char.ofNat b.toNat)))
  else none

end DocumentSearch.Text
