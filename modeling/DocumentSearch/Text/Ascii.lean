/-!
# Letters of ASCII

Only the letters from A to Z are raised and lowered.
-/
namespace DocumentSearch.Text

def asciiLower (c : Char) : Char := if 'A' ≤ c ∧ c ≤ 'Z' then Char.ofNat (c.toNat + 32) else c

def asciiUpper (c : Char) : Char := if 'a' ≤ c ∧ c ≤ 'z' then Char.ofNat (c.toNat - 32) else c

end DocumentSearch.Text
