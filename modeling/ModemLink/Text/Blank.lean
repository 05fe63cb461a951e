/-!
# Blank characters

The characters with the Unicode property `White_Space`.
-/

namespace ModemLink.Text

/-- The ranges of `White_Space`, in ascending order. -/
def blankRanges : List (Nat × Nat) :=
  [(0x09, 0x0D), (0x20, 0x20), (0x85, 0x85), (0xA0, 0xA0), (0x1680, 0x1680), (0x2000, 0x200A),
    (0x2028, 0x2029), (0x202F, 0x202F), (0x205F, 0x205F), (0x3000, 0x3000)]

def isBlank (c : Char) : Bool := blankRanges.any fun (lo, hi) => lo ≤ c.toNat && c.toNat ≤ hi

def trimEnd (drop : Char → Bool) (cs : List Char) : List Char := (cs.reverse.dropWhile drop).reverse

/-- Without the blank characters at either end. -/
def trimBlank (cs : List Char) : List Char := trimEnd isBlank (cs.dropWhile isBlank)

end ModemLink.Text
