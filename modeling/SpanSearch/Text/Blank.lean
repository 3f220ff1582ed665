/-! White space as Unicode lists it, and text without the white space around it. -/

namespace SpanSearch

/-- The characters with the Unicode property `White_Space`. -/
def isBlank (c : Char) : Bool :=
  let n := c.toNat
  (9 ≤ n && n ≤ 13) || n == 0x20 || n == 0x85 || n == 0xA0 || n == 0x1680 ||
    (0x2000 ≤ n && n ≤ 0x200A) || n == 0x2028 || n == 0x2029 || n == 0x202F || n == 0x205F ||
    n == 0x3000

/-- The text from its first character that is not blank. -/
def dropBlanks (text : List Char) : List Char :=
  text.dropWhile isBlank

/-- The text without the blanks at both ends. -/
def trimBlanks (text : List Char) : List Char :=
  (dropBlanks (dropBlanks text).reverse).reverse

@[simp] theorem dropBlanks_dropBlanks (text : List Char) : dropBlanks (dropBlanks text) = dropBlanks text := by
  induction text with
  | nil => rfl
  | cons c rest ih =>
    by_cases hc : isBlank c
    · simpa only [dropBlanks, List.dropWhile_cons_of_pos hc] using ih
    · simp only [dropBlanks, List.dropWhile_cons_of_neg hc]

theorem dropBlanks_eq_self {text : List Char} (h : ∀ c, text.head? = some c → isBlank c = false) :
    dropBlanks text = text := by
  cases text with
  | nil => rfl
  | cons c rest => exact List.dropWhile_cons_of_neg (by simp [h c rfl])

theorem isBlank_of_head?_dropBlanks {text : List Char} {c : Char} (h : (dropBlanks text).head? = some c) :
    isBlank c = false := by
  have stop := List.head?_dropWhile_not isBlank text
  rw [dropBlanks] at h
  rw [h] at stop
  exact stop

theorem trimBlanks_eq_self {text : List Char} (first : ∀ c, text.head? = some c → isBlank c = false)
    (last : ∀ c, text.getLast? = some c → isBlank c = false) : trimBlanks text = text := by
  have reversed : dropBlanks text.reverse = text.reverse :=
    dropBlanks_eq_self fun c head => last c (List.head?_reverse ▸ head)
  rw [trimBlanks, dropBlanks_eq_self first, reversed, List.reverse_reverse]

@[simp] theorem trimBlanks_trimBlanks (text : List Char) : trimBlanks (trimBlanks text) = trimBlanks text := by
  refine trimBlanks_eq_self (fun c head => ?_) (fun c last => ?_)
  · -- The first character is that of the text without the blanks before it, of which it is a part.
    rw [trimBlanks, List.head?_reverse] at head
    obtain ⟨blanks, same⟩ := List.dropWhile_suffix (l := (dropBlanks text).reverse) isBlank
    rw [dropBlanks] at head
    have whole : (dropBlanks text).reverse.getLast? = some c := by rw [← same, List.getLast?_append, head]; rfl
    exact isBlank_of_head?_dropBlanks (List.getLast?_reverse ▸ whole)
  · rw [trimBlanks, List.getLast?_reverse] at last
    exact isBlank_of_head?_dropBlanks last

end SpanSearch
