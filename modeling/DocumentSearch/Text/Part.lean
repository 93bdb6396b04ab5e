/-!
# Parts of texts

A text is part of another one if it stands somewhere in it without a gap. The empty text is part of
every text.
-/
namespace DocumentSearch.Text

def hasPart (part : List Char) : List Char → Bool
  | [] => part.isEmpty
  | c :: cs => part.isPrefixOf (c :: cs) || hasPart part cs

theorem hasPart_iff (part cs : List Char) : hasPart part cs = true ↔ part <:+: cs := by
  induction cs with
  | nil => simp [hasPart]
  | cons c cs ih => simp [hasPart, ih, List.infix_cons_iff]

def contains (whole part : String) : Bool := hasPart part.toList whole.toList

end DocumentSearch.Text
