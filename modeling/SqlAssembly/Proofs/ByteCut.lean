import SqlAssembly.Sink

/-!
# Cuts at character boundaries

A cut counts characters from the start. It can also be found in the bytes: go back from the limit
until a place is reached where no character is cut in two, and slice the bytes there. Both give
the longest start of the text that fits (`Text.cut_longest`), and a span sink that shortens a
value keeps this start.
-/

namespace SqlAssembly.Text

/-! ## Characters that fit -/

theorem utf8ByteSize_ofList_cons (c : Char) (cs : List Char) :
    (String.ofList (c :: cs)).utf8ByteSize = c.utf8Size + (String.ofList cs).utf8ByteSize := by
  rw [String.ofList_cons, String.utf8ByteSize_append, String.utf8ByteSize_singleton]

theorem utf8ByteSize_cutChars_le (budget : Nat) (cs : List Char) :
    (String.ofList (cutChars budget cs)).utf8ByteSize ≤ budget := by
  induction cs generalizing budget with
  | nil => exact Nat.zero_le budget
  | cons c cs ih =>
      rw [cutChars]
      split
      · have others := ih (budget - c.utf8Size)
        rw [utf8ByteSize_ofList_cons]
        omega
      · exact Nat.zero_le budget

/-- Characters from the start that fit together are all kept. -/
theorem prefix_cutChars {budget : Nat} {kept cs : List Char} (start : kept <+: cs)
    (fits : (String.ofList kept).utf8ByteSize ≤ budget) : kept <+: cutChars budget cs := by
  induction kept generalizing budget cs with
  | nil => exact List.nil_prefix
  | cons c kept ih =>
      cases cs with
      | nil => exact absurd start (by simp)
      | cons d cs =>
          obtain ⟨rfl, others⟩ := List.cons_prefix_cons.mp start
          rw [utf8ByteSize_ofList_cons] at fits
          have first : c.utf8Size ≤ budget := by omega
          rw [cutChars, if_pos first]
          exact List.cons_prefix_cons.mpr ⟨rfl, ih others (by omega)⟩

/-- The character behind the cut does not fit any more. -/
theorem lt_of_cutChars_append {budget : Nat} {cs : List Char} {next : Char} {rest : List Char}
    (split : cs = cutChars budget cs ++ next :: rest) :
    budget < (String.ofList (cutChars budget cs)).utf8ByteSize + next.utf8Size := by
  rw [← Nat.not_le]
  intro fits
  have longer : cutChars budget cs ++ [next] <+: cutChars budget cs := by
    refine prefix_cutChars ⟨rest, ?_⟩ ?_
    · rw [List.append_assoc]
      exact split.symm
    · rw [String.ofList_append, String.utf8ByteSize_append, utf8ByteSize_ofList_cons]
      exact fits
  have length := longer.length_le
  rw [List.length_append, List.length_singleton] at length
  omega

/-! ## Starts of a text -/

variable (limit : Nat) (s : String)

/-- The cut is a start of the text. -/
theorem exists_eq_cut_append : ∃ rest, s = cut limit s ++ rest := by
  obtain ⟨rest, split⟩ := cutChars_prefix limit s.toList
  refine ⟨String.ofList rest, ?_⟩
  rw [cut, ← String.ofList_append, split, String.ofList_toList]

theorem utf8ByteSize_cut_le : (cut limit s).utf8ByteSize ≤ limit :=
  utf8ByteSize_cutChars_le limit s.toList

variable {limit s}

theorem exists_cut_eq_append {start rest : String} (split : s = start ++ rest)
    (fits : start.utf8ByteSize ≤ limit) : ∃ more, cut limit s = start ++ more := by
  have chars : start.toList <+: cutChars limit s.toList := by
    refine prefix_cutChars ⟨rest.toList, ?_⟩ ?_
    · rw [split, String.toList_append]
    · rwa [String.ofList_toList]
  obtain ⟨more, kept⟩ := chars
  refine ⟨String.ofList more, ?_⟩
  rw [cut, ← kept, String.ofList_append, String.ofList_toList]

theorem cut_of_fits (fits : s.utf8ByteSize ≤ limit) : cut limit s = s := by
  obtain ⟨more, whole⟩ := exists_cut_eq_append String.append_empty.symm fits
  obtain ⟨rest, split⟩ := exists_eq_cut_append limit s
  have size := congrArg String.utf8ByteSize split
  rw [whole, String.utf8ByteSize_append, String.utf8ByteSize_append] at size
  have nothing : more = "" := String.utf8ByteSize_eq_zero_iff.mp (by omega)
  rw [whole, nothing, String.append_empty]

/-- Less than one character is left of the limit. -/
theorem limit_le_of_lt (long : limit < s.utf8ByteSize) :
    limit ≤ (cut limit s).utf8ByteSize + 3 := by
  obtain ⟨rest, split⟩ := cutChars_prefix limit s.toList
  cases rest with
  | nil =>
      -- Nothing is left out only of a text that fits.
      have kept := utf8ByteSize_cut_le limit s
      rw [cut, ← List.append_nil (cutChars limit s.toList), split, String.ofList_toList] at kept
      omega
  | cons next rest =>
      have beyond := lt_of_cutChars_append split.symm
      have width := next.utf8Size_le_four
      rw [cut]
      omega

/-! ## Boundaries -/

theorem isValid_of_eq_append {start rest : String} (split : s = start ++ rest) :
    String.Pos.Raw.IsValid s ⟨start.utf8ByteSize⟩ :=
  String.Pos.Raw.isValid_iff_exists_append.mpr ⟨start, rest, split, rfl⟩

theorem isValid_cut (limit : Nat) (s : String) :
    String.Pos.Raw.IsValid s ⟨(cut limit s).utf8ByteSize⟩ := by
  obtain ⟨rest, split⟩ := exists_eq_cut_append limit s
  exact isValid_of_eq_append split

/-- No boundary up to the limit lies behind the cut. -/
theorem le_utf8ByteSize_cut {place : Nat} (valid : String.Pos.Raw.IsValid s ⟨place⟩)
    (within : place ≤ limit) : place ≤ (cut limit s).utf8ByteSize := by
  obtain ⟨start, rest, split, same⟩ := String.Pos.Raw.isValid_iff_exists_append.mp valid
  have size : place = start.utf8ByteSize := congrArg String.Pos.Raw.byteIdx same
  obtain ⟨more, kept⟩ := exists_cut_eq_append split (size ▸ within)
  rw [kept, String.utf8ByteSize_append, size]
  exact Nat.le_add_right _ _

theorem shorten_eq (limit : Nat) (s : String) :
    shorten limit s = if s.utf8ByteSize ≤ limit then s else cut limit s ++ "..." := by
  rw [shorten]
  split
  · next long => rw [if_neg (Nat.not_le.mpr long)]
  · next fits => rw [if_pos (Nat.not_lt.mp fits)]

/-! ## The search in the bytes -/

/-- The first place that is not inside a character on the way back from the given one. -/
def stepBack (s : String) : Nat → Nat
  | 0 => 0
  | place + 1 => if String.Pos.Raw.isValid s ⟨place + 1⟩ then place + 1 else stepBack s place

/-- Where the bytes of a text are sliced to have at most so many. -/
def slicePlace (s : String) (limit : Nat) : Nat :=
  if s.utf8ByteSize ≤ limit then s.utf8ByteSize else stepBack s limit

theorem isValid_stepBack (s : String) (place : Nat) :
    String.Pos.Raw.IsValid s ⟨stepBack s place⟩ := by
  induction place with
  | zero => exact String.Pos.Raw.isValid_zero
  | succ place ih =>
      rw [stepBack]
      split
      · next valid => exact String.Pos.Raw.isValid_eq_true_iff.mp valid
      · exact ih

theorem stepBack_le (s : String) (place : Nat) : stepBack s place ≤ place := by
  induction place with
  | zero => exact Nat.le_refl 0
  | succ place ih =>
      rw [stepBack]
      split
      · exact Nat.le_refl _
      · exact Nat.le_succ_of_le ih

/-- The way back passes no boundary. -/
theorem le_stepBack {s : String} {boundary place : Nat}
    (valid : String.Pos.Raw.IsValid s ⟨boundary⟩) (before : boundary ≤ place) :
    boundary ≤ stepBack s place := by
  induction place with
  | zero => exact before
  | succ place ih =>
      rw [stepBack]
      split
      · exact before
      · next inside =>
          have other : boundary ≠ place + 1 := by
            rintro rfl
            exact inside (String.Pos.Raw.isValid_eq_true_iff.mpr valid)
          exact ih (by omega)

/-- The search in the bytes ends where the cut ends. -/
theorem slicePlace_eq (s : String) (limit : Nat) :
    slicePlace s limit = (cut limit s).utf8ByteSize := by
  rw [slicePlace]
  split
  · next fits => rw [cut_of_fits fits]
  · -- Both are boundaries up to the limit, and neither passes the other.
    have notBehind := le_utf8ByteSize_cut (isValid_stepBack s limit) (stepBack_le s limit)
    have notBefore := le_stepBack (isValid_cut limit s) (utf8ByteSize_cut_le limit s)
    exact Nat.le_antisymm notBehind notBefore

theorem toByteArray_cut (limit : Nat) (s : String) :
    (cut limit s).toByteArray = s.toByteArray.extract 0 (slicePlace s limit) := by
  obtain ⟨rest, split⟩ := exists_eq_cut_append limit s
  have bytes := congrArg String.toByteArray split
  rw [String.toByteArray_append] at bytes
  rw [bytes, slicePlace_eq, ByteArray.extract_append_eq_left String.size_toByteArray.symm]

/-! ## The law -/

/-- The cut is the longest start of the text that fits into the limit: every start that fits is a
start of it. It is the whole text if that fits, and less than a character is missing from the limit
if not. In the bytes it ends at a boundary between characters, which is the last one up to the
limit; the search for it goes back from the limit and ends there. A span sink without a limit keeps
a value, and one with a limit keeps a value that fits and writes three points behind the cut of a
longer one. -/
theorem cut_longest (limit : Nat) (s : String) :
    ((∃ rest, s = cut limit s ++ rest) ∧ (cut limit s).utf8ByteSize ≤ limit ∧
      ∀ start rest, s = start ++ rest → start.utf8ByteSize ≤ limit →
        ∃ more, cut limit s = start ++ more) ∧
    (s.utf8ByteSize ≤ limit → cut limit s = s) ∧
    (limit < s.utf8ByteSize → limit ≤ (cut limit s).utf8ByteSize + 3) ∧
    ((cut limit s).toByteArray = s.toByteArray.extract 0 (slicePlace s limit) ∧
      slicePlace s limit ≤ limit ∧ String.Pos.Raw.IsValid s ⟨slicePlace s limit⟩ ∧
      ∀ place ≤ limit, String.Pos.Raw.IsValid s ⟨place⟩ → place ≤ slicePlace s limit) ∧
    (∀ span level,
      (SpanSink.mk span level none).shorten s = s ∧
      (SpanSink.mk span level (some limit)).shorten s =
        (if s.utf8ByteSize ≤ limit then s else cut limit s ++ "...") ∧
      ((SpanSink.mk span level (some limit)).shorten s).utf8ByteSize ≤ limit + 3) := by
  have kept := utf8ByteSize_cut_le limit s
  refine ⟨⟨exists_eq_cut_append limit s, kept, fun start rest => exists_cut_eq_append⟩,
    cut_of_fits, limit_le_of_lt, ⟨toByteArray_cut limit s, ?_, ?_, ?_⟩,
    fun span level => ⟨rfl, ?_, ?_⟩⟩
  · rw [slicePlace_eq]
    exact kept
  · rw [slicePlace_eq]
    exact isValid_cut limit s
  · intro place within valid
    rw [slicePlace_eq]
    exact le_utf8ByteSize_cut valid within
  · exact shorten_eq limit s
  · change (shorten limit s).utf8ByteSize ≤ limit + 3
    rw [shorten_eq]
    split
    · next fits => exact Nat.le_add_right_of_le fits
    · rw [String.utf8ByteSize_append]
      exact Nat.add_le_add_right kept 3

/-- A limit inside a character of four bytes, behind one of two: the search goes back three bytes.
With one byte more the whole text fits. -/
theorem cut_longest_midway :
    cut 6 "é😀" = "é😀" ∧ (∃ more, cut 5 "é😀" = "é" ++ more) ∧
      5 ≤ (cut 5 "é😀").utf8ByteSize + 3 ∧ 2 ≤ slicePlace "é😀" 5 ∧ cut 5 "é😀" = "é" ∧
      (SpanSink.mk none .debug (some 5)).shorten "é😀" = "é..." := by
  obtain ⟨⟨_, _, longest⟩, _, missing, ⟨_, _, _, last⟩, _⟩ := cut_longest 5 "é😀"
  obtain ⟨_, whole, _⟩ := cut_longest 6 "é😀"
  refine ⟨whole (by decide), longest "é" "😀" (by decide) (by decide), missing (by decide),
    last 2 (by decide) (by decide), by decide, by decide⟩

end SqlAssembly.Text
