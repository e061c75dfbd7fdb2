import SqlAssembly.Text.CaseTable

/-!
# Upper case

The full upper-case mapping of Unicode, without locale: one character may become several (the
sharp s becomes two), and a text never becomes shorter in characters.
-/

namespace SqlAssembly.Text

namespace CaseRun

/-- The run holds every character from the first to the last that is a whole number of strides
away from the first. -/
def Holds (run : CaseRun) (code : Nat) : Prop :=
  run.first ≤ code ∧ code ≤ run.last ∧ (code - run.first) % run.stride = 0

instance (run : CaseRun) (code : Nat) : Decidable (run.Holds code) :=
  inferInstanceAs (Decidable (_ ∧ _ ∧ _))

end CaseRun

/-- Upper case of one character. ASCII letters are answered without a look at the tables. -/
def upperChar (c : Char) : List Char :=
  if c.toNat < 0x80 then [c.toUpper]
  else
    match caseExpansions.find? (·.1 = c.toNat) with
    | some (_, codes) => codes.map Char.ofNat
    | none =>
        match caseRuns.find? (·.Holds c.toNat) with
        | some run => [Char.ofNat (c.toNat + run.distance).toNat]
        | none => [c]

def upperChars (cs : List Char) : List Char := cs.flatMap upperChar

def upper (s : String) : String := String.ofList (upperChars s.toList)

@[simp] theorem toList_upper (s : String) : (upper s).toList = upperChars s.toList := by
  simp [upper]

theorem upperChar_ascii {c : Char} (h : c.toNat < 0x80) : upperChar c = [c.toUpper] := by
  simp [upperChar, h]

end SqlAssembly.Text
