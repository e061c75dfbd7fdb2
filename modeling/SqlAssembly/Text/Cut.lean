/-!
# Cutting a text to a number of bytes

A cut counts bytes of UTF-8 and never falls inside a character: it keeps whole characters from
the start for as long as they fit.
-/

namespace SqlAssembly.Text

/-- Whole characters from the start, as long as the next one fits into what is left of the
budget. -/
def cutChars : Nat → List Char → List Char
  | _, [] => []
  | budget, c :: cs =>
      if c.utf8Size ≤ budget then c :: cutChars (budget - c.utf8Size) cs else []

/-- The longest start of the text that takes at most the given number of bytes. -/
def cut (budget : Nat) (s : String) : String := String.ofList (cutChars budget s.toList)

def shorten (limit : Nat) (s : String) : String :=
  if limit < s.utf8ByteSize then cut limit s ++ "..." else s

theorem cutChars_prefix (budget : Nat) (cs : List Char) : cutChars budget cs <+: cs := by
  induction cs generalizing budget with
  | nil => simp [cutChars]
  | cons c cs ih =>
      rw [cutChars]
      split
      · exact (List.cons_prefix_cons).mpr ⟨rfl, ih _⟩
      · exact List.nil_prefix

end SqlAssembly.Text
