import DocumentSearch.Text.Lowercase

/-!
# Snake case

A capitalised word is set off by an underscore, then every capital after a small letter or a digit,
and the result is lowered. Words are recognised in ASCII.
-/
namespace DocumentSearch.Text

def isSmall (c : Char) : Bool := 'a' ≤ c && c ≤ 'z'

def isCapital (c : Char) : Bool := 'A' ≤ c && c ≤ 'Z'

def isSmallOrDigit (c : Char) : Bool := isSmall c || ('0' ≤ c && c ≤ '9')

/-- Sets off a capital followed by small letters, if a character on the same line comes before it.
The flag says whether the small letters of a word already set off are being read. -/
def separateWords : Bool → List Char → List Char
  | _, [] => []
  | inWord, c :: rest =>
    if inWord && isSmall c then c :: separateWords true rest
    else
      match rest with
      | u :: l :: tail =>
        if c ≠ '\n' && isCapital u && isSmall l then c :: '_' :: u :: l :: separateWords true tail
        else c :: separateWords false (u :: l :: tail)
      | rest => c :: separateWords false rest

/-- Sets off every capital that comes right after a small letter or a digit. -/
def separateCapitals : List Char → List Char
  | c :: u :: rest =>
    if isSmallOrDigit c && isCapital u then c :: '_' :: separateCapitals (u :: rest)
    else c :: separateCapitals (u :: rest)
  | cs => cs

def snakeCase (name : String) : String :=
  lower (String.ofList (separateCapitals (separateWords false name.toList)))

end DocumentSearch.Text
