/-!
# Blank characters

Two classes of blank characters and the trimming of a text by either. White space is the Unicode
property of that name; the wider class of blanks adds the four information separators. Trimming
removes blanks at both ends and nothing else: what is left neither starts nor ends with one, and a
text that has no blank at its ends is left as it is.
-/

namespace MapMetrics.Text

/-- The characters with the Unicode property White_Space. -/
def isWhiteSpace (c : Char) : Bool :=
  let n := c.toNat
  (0x09 ≤ n && n ≤ 0x0D) || n == 0x20 || n == 0x85 || n == 0xA0 || n == 0x1680 ||
    (0x2000 ≤ n && n ≤ 0x200A) || n == 0x2028 || n == 0x2029 || n == 0x202F || n == 0x205F ||
    n == 0x3000

/-- White space and the information separators U+001C to U+001F. -/
def isBlank (c : Char) : Bool :=
  isWhiteSpace c || (0x1C ≤ c.toNat && c.toNat ≤ 0x1F)

/-- A text without the characters of a class at its two ends. -/
def trim (blank : Char → Bool) (cs : List Char) : List Char :=
  ((cs.dropWhile blank).reverse.dropWhile blank).reverse

/-- A text that neither starts nor ends with a blank is left as it is. -/
theorem trim_eq_self {blank : Char → Bool} {cs : List Char}
    (hfirst : ∀ c, cs.head? = some c → blank c = false)
    (hlast : ∀ c, cs.getLast? = some c → blank c = false) : trim blank cs = cs := by
  have hd : cs.dropWhile blank = cs := by
    cases cs with
    | nil => rfl
    | cons c rest => simp [hfirst c rfl]
  have hr : cs.reverse.dropWhile blank = cs.reverse := by
    cases h : cs.reverse with
    | nil => rfl
    | cons c rest =>
        have hc : cs.getLast? = some c := by rw [List.getLast?_eq_head?_reverse, h]; rfl
        simp [hlast c hc]
  rw [trim, hd, hr, List.reverse_reverse]

end MapMetrics.Text
