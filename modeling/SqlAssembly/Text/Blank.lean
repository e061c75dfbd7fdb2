/-!
# Blank characters

One class of blank characters, the property `White_Space` of Unicode, serves the checks for
missing columns and operators as well as the trimming of operators and directions. Zero-width
characters such as U+200B and U+FEFF do not belong to it.
-/

namespace SqlAssembly.Text

/-- The 25 characters of `White_Space`. -/
def isBlankChar (c : Char) : Bool :=
  ('\t' ≤ c && c ≤ '\r') || c = ' ' || c = '\u0085' || c = '\u00a0' || c = '\u1680' ||
    ('\u2000' ≤ c && c ≤ '\u200a') || c = '\u2028' || c = '\u2029' || c = '\u202f' ||
    c = '\u205f' || c = '\u3000'

/-- The text holds nothing but blanks; the empty text is blank. -/
def isBlank (s : String) : Bool := s.toList.all isBlankChar

/-- The characters without the blanks before the first and after the last other character. -/
def trimChars (cs : List Char) : List Char :=
  ((cs.dropWhile isBlankChar).reverse.dropWhile isBlankChar).reverse

def trim (s : String) : String := String.ofList (trimChars s.toList)

@[simp] theorem toList_trim (s : String) : (trim s).toList = trimChars s.toList := by
  simp [trim]

/-- Dropping blanks removes no character that is not blank. -/
theorem mem_dropWhile_blank {cs : List Char} {c : Char} (mem : c ∈ cs)
    (visible : isBlankChar c = false) : c ∈ cs.dropWhile isBlankChar := by
  induction cs with
  | nil => cases mem
  | cons d cs ih =>
      by_cases h : isBlankChar d = true
      · rcases List.mem_cons.mp mem with rfl | mem
        · simp [h] at visible
        · simpa [List.dropWhile_cons, h] using ih mem
      · simpa [List.dropWhile_cons, h] using mem

end SqlAssembly.Text
