import DocumentSearch.Text.Printable

/-!
# Quoted text

Text is quoted with single quotes, or with double quotes when it holds a single quote and no double
one. Backslashes, the quote itself and characters that cannot be printed are escaped.
-/
namespace DocumentSearch.Text

def hexDigits (width n : Nat) : List Char :=
  let digits := Nat.toDigits 16 n
  List.replicate (width - digits.length) '0' ++ digits

def quoteFor (cs : List Char) : Char := if cs.contains '\'' && !cs.contains '"' then '"' else '\''

/-- The escapes shared by texts and bytes. -/
def shortEscape? (quote c : Char) : Option (List Char) :=
  if c = quote ∨ c = '\\' then some ['\\', c]
  else if c = '\t' then some ['\\', 't']
  else if c = '\n' then some ['\\', 'n']
  else if c = '\r' then some ['\\', 'r']
  else none

def codeEscape (code : Nat) : List Char :=
  if code < 256 then '\\' :: 'x' :: hexDigits 2 code
  else if code < 65536 then '\\' :: 'u' :: hexDigits 4 code
  else '\\' :: 'U' :: hexDigits 8 code

def escape (quote c : Char) : List Char :=
  match shortEscape? quote c with
  | some escaped => escaped
  | none => if isPrintable c then [c] else codeEscape c.toNat

def quoted (s : String) : String :=
  let quote := quoteFor s.toList
  String.ofList (quote :: s.toList.flatMap (escape quote) ++ [quote])

def escapeByte (quote : Char) (byte : UInt8) : List Char :=
  let c := Char.ofNat byte.toNat
  match shortEscape? quote c with
  | some escaped => escaped
  | none => if 32 ≤ byte ∧ byte < 127 then [c] else codeEscape byte.toNat

/-- Bytes are quoted after the letter `b`; those outside printable ASCII are escaped. -/
def quotedBytes (bytes : List UInt8) : String :=
  let quote := quoteFor (bytes.map (fun b => Char.ofNat b.toNat))
  String.ofList ('b' :: quote :: bytes.flatMap (escapeByte quote) ++ [quote])

end DocumentSearch.Text
