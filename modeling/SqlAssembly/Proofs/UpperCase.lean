import Mathlib.Data.List.Basic
import SqlAssembly.Text.Blank
import SqlAssembly.Text.UpperCase

/-!
# Upper case, blanks and the letters of a list operator

Upper case neither makes nor removes a blank, so trimming may be done before or after it
(`trimChars_upperChars`). The letters of `IN` and `NOT IN` come from their own small and capital
letters, with one exception: the capital I is also the upper case of the dotless i. Apart from it,
a word is written as one of the two if and only if it is one of them up to the case of ASCII
letters (`upperChars_eq_iff`).
-/

namespace SqlAssembly.Text

/-! ## Where upper case comes from -/

theorem upperChar_cases (c : Char) :
    (c.toNat < 0x80 ∧ upperChar c = [c.toUpper]) ∨
      (∃ e ∈ caseExpansions, e.1 = c.toNat ∧ upperChar c = e.2.map Char.ofNat) ∨
      (∃ run ∈ caseRuns, run.Holds c.toNat ∧
        upperChar c = [Char.ofNat (c.toNat + run.distance).toNat]) ∨
      upperChar c = [c] := by
  unfold upperChar
  by_cases ascii : c.toNat < 0x80
  · exact .inl ⟨ascii, if_pos ascii⟩
  · right
    rw [if_neg ascii]
    cases expansion : caseExpansions.find? (·.1 = c.toNat) with
    | some e =>
        have code : e.1 = c.toNat := by simpa using List.find?_some expansion
        exact .inl ⟨e, List.mem_of_find?_eq_some expansion, code, rfl⟩
    | none =>
        right
        cases found : caseRuns.find? (·.Holds c.toNat) with
        | some run =>
            have holds : run.Holds c.toNat := by simpa using List.find?_some found
            exact .inl ⟨run, List.mem_of_find?_eq_some found, holds, rfl⟩
        | none => exact .inr rfl

/-- What holds of all ASCII codes holds of all ASCII characters. -/
theorem ascii_induction {P : Char → Prop} (h : ∀ code < 0x80, P (Char.ofNat code)) {c : Char}
    (ascii : c.toNat < 0x80) : P c := by
  have known := h c.toNat ascii
  rwa [Char.ofNat_toNat] at known

/-! ## Facts of the tables -/

def blankCodes : List Nat :=
  [0x9, 0xa, 0xb, 0xc, 0xd, 0x20, 0x85, 0xa0, 0x1680, 0x2000, 0x2001, 0x2002, 0x2003, 0x2004,
    0x2005, 0x2006, 0x2007, 0x2008, 0x2009, 0x200a, 0x2028, 0x2029, 0x202f, 0x205f, 0x3000]

/-- The characters of `IN` and `NOT IN`. -/
def operatorChars : List Char := ['I', 'N', 'O', 'T', ' ']

theorem toNat_mem_blankCodes {c : Char} (blank : isBlankChar c = true) :
    c.toNat ∈ blankCodes := by
  have bounds (low high : Char) (h : (decide (low ≤ c) && decide (c ≤ high)) = true) :
      low.toNat ≤ c.toNat ∧ c.toNat ≤ high.toNat := by
    simpa [Char.le_def, UInt32.le_iff_toNat_le] using h
  simp only [isBlankChar, Bool.or_eq_true, decide_eq_true_eq] at blank
  simp only [blankCodes, List.mem_cons, List.not_mem_nil, or_false]
  rcases blank with
    (((((((((range | rfl) | rfl) | rfl) | rfl) | range) | rfl) | rfl) | rfl) | rfl) | rfl
  · have := bounds '\t' '\r' range
    simp only [Char.reduceToNat] at this
    omega
  · simp
  · simp
  · simp
  · simp
  · have := bounds '\u2000' '\u200a' range
    simp only [Char.reduceToNat] at this
    omega
  all_goals simp

/-- No expansion is empty, has a blank, or has only characters of list operators. -/
theorem caseExpansions_spec : ∀ e ∈ caseExpansions, e.1 ∉ blankCodes ∧ e.2 ≠ [] ∧
    (∀ code ∈ e.2, isBlankChar (Char.ofNat code) = false) ∧
    ∃ code ∈ e.2, Char.ofNat code ∉ operatorChars := by
  decide +kernel

theorem caseRuns_blank : ∀ run ∈ caseRuns, ∀ code ∈ blankCodes, ¬ run.Holds code := by
  decide +kernel

/-- Only the dotless i is moved to a blank or to a character of a list operator. -/
theorem caseRuns_target : ∀ run ∈ caseRuns, ∀ code ∈ blankCodes ++ operatorChars.map Char.toNat,
    run.Holds ((code : Int) - run.distance).toNat →
      code = 'I'.toNat ∧ ((code : Int) - run.distance).toNat = 'ı'.toNat := by
  decide +kernel

theorem eq_toNat_of_ofNat {n : Nat} {c : Char} (h : Char.ofNat n = c) (positive : c.toNat ≠ 0) :
    n = c.toNat := by
  by_cases valid : n.isValidChar
  · rw [← h, Char.ofNat, dif_pos valid]
    rfl
  · rw [← h, Char.ofNat, dif_neg valid] at positive
    exact absurd rfl positive

theorem eq_dotless_of_run {run : CaseRun} (mem : run ∈ caseRuns) {c d : Char}
    (holds : run.Holds c.toNat) (moved : Char.ofNat (c.toNat + run.distance).toNat = d)
    (target : d.toNat ∈ blankCodes ++ operatorChars.map Char.toNat) : d = 'I' ∧ c = 'ı' := by
  have positive : d.toNat ≠ 0 := by
    intro zero
    rw [zero] at target
    exact absurd target (by decide)
  have code : (c.toNat + run.distance).toNat = d.toNat := eq_toNat_of_ofNat moved positive
  have source : ((d.toNat : Int) - run.distance).toNat = c.toNat := by omega
  obtain ⟨letter, dotless⟩ := caseRuns_target run mem d.toNat target (by rwa [source])
  exact ⟨Char.toNat_inj.mp letter, Char.toNat_inj.mp (by rw [← dotless, source])⟩

/-! ## Blanks -/

theorem upperChar_blank {c : Char} (blank : isBlankChar c = true) : upperChar c = [c] := by
  have code := toNat_mem_blankCodes blank
  rcases upperChar_cases c with ⟨ascii, upper⟩ | ⟨e, mem, same, _⟩ | ⟨run, mem, holds, _⟩ | upper
  · rw [upper]
    have unchanged : isBlankChar c = true → c.toUpper = c :=
      ascii_induction (P := fun c => isBlankChar c = true → c.toUpper = c) (by decide) ascii
    rw [unchanged blank]
  · rw [← same] at code
    exact absurd code (caseExpansions_spec e mem).1
  · exact absurd holds (caseRuns_blank run mem c.toNat code)
  · exact upper

theorem upperChar_visible {c : Char} (visible : isBlankChar c = false) :
    upperChar c ≠ [] ∧ ∀ d ∈ upperChar c, isBlankChar d = false := by
  rcases upperChar_cases c with ⟨ascii, upper⟩ | ⟨e, mem, _, upper⟩ | ⟨run, mem, holds, upper⟩ |
    upper
  · have kept : isBlankChar c.toUpper = isBlankChar c :=
      ascii_induction (P := fun c => isBlankChar c.toUpper = isBlankChar c) (by decide) ascii
    simp [upper, kept, visible]
  · obtain ⟨_, some, blank, _⟩ := caseExpansions_spec e mem
    rw [upper]
    exact ⟨by simpa using some, List.forall_mem_map.mpr blank⟩
  · refine ⟨by simp [upper], fun d hd => ?_⟩
    rw [upper, List.mem_singleton] at hd
    cases blank : isBlankChar d with
    | false => rfl
    | true =>
        have target := List.mem_append_left (operatorChars.map Char.toNat)
          (toNat_mem_blankCodes blank)
        obtain ⟨rfl, _⟩ := eq_dotless_of_run mem holds hd.symm target
        exact absurd blank (by decide)
  · simp [upper, visible]

/-- Dropping what is mapped to itself and keeping what is mapped to kept characters can be done
before the mapping. -/
theorem dropWhile_flatMap {p : Char → Bool} {f : Char → List Char}
    (dropped : ∀ c, p c = true → f c = [c])
    (kept : ∀ c, p c = false → f c ≠ [] ∧ ∀ d ∈ f c, p d = false) (cs : List Char) :
    (cs.flatMap f).dropWhile p = (cs.dropWhile p).flatMap f := by
  induction cs with
  | nil => rfl
  | cons c cs ih =>
      cases hc : p c with
      | true =>
          rw [List.flatMap_cons, dropped c hc, List.singleton_append, List.dropWhile_cons_of_pos hc,
            List.dropWhile_cons_of_pos hc, ih]
      | false =>
          obtain ⟨some, visible⟩ := kept c hc
          obtain ⟨d, ds, image⟩ := List.exists_cons_of_ne_nil some
          have hd : p d = false := visible d (by simp [image])
          rw [List.dropWhile_cons_of_neg (by simp [hc]), List.flatMap_cons, image, List.cons_append,
            List.dropWhile_cons_of_neg (by simp [hd])]

/-- Trimming and upper case may be done in either order. -/
theorem trimChars_upperChars (cs : List Char) :
    trimChars (upperChars cs) = upperChars (trimChars cs) := by
  have forward := dropWhile_flatMap (fun _ => upperChar_blank) (fun _ => upperChar_visible)
  have backward (ds : List Char) := dropWhile_flatMap (f := fun c => (upperChar c).reverse)
    (fun c blank => by rw [upperChar_blank blank, List.reverse_singleton])
    (fun c visible => by simpa using upperChar_visible visible) ds
  simp only [trimChars, upperChars, forward, List.reverse_flatMap, backward, List.reverse_reverse,
    Function.comp_def]

/-- Trimming takes no visible character away. -/
theorem mem_trimChars_iff {cs : List Char} {c : Char} (visible : isBlankChar c = false) :
    c ∈ trimChars cs ↔ c ∈ cs := by
  constructor
  · intro mem
    have front := (List.dropWhile_sublist _).subset (List.mem_reverse.mp mem)
    exact (List.dropWhile_sublist _).subset (List.mem_reverse.mp front)
  · intro mem
    have front := List.mem_reverse.mpr (mem_dropWhile_blank mem visible)
    exact List.mem_reverse.mpr (mem_dropWhile_blank front visible)

/-! ## Letters of list operators -/

theorem toUpper_eq_iff {c d : Char} (ascii : c.toNat < 0x80) (hd : d ∈ operatorChars) :
    c.toUpper = d ↔ c.toLower = d.toLower := by
  have all := ascii_induction
    (P := fun c => (operatorChars.all fun d => c.toUpper = d ↔ c.toLower = d.toLower) = true)
    (by decide +kernel) ascii
  exact of_decide_eq_true (List.all_eq_true.mp all d hd)

/-- A text that has only such characters in upper case has each of them from one character. -/
theorem upperChar_of_subset {c : Char} (letters : ∀ d ∈ upperChar c, d ∈ operatorChars) :
    ∃ d ∈ operatorChars, upperChar c = [d] := by
  rcases upperChar_cases c with ⟨_, upper⟩ | ⟨e, mem, _, upper⟩ | ⟨run, _, _, upper⟩ | upper
  · exact ⟨_, letters _ (by simp [upper]), upper⟩
  · obtain ⟨_, _, _, code, inside, other⟩ := caseExpansions_spec e mem
    exact absurd (letters _ (by simpa [upper] using ⟨code, inside, rfl⟩)) other
  · exact ⟨_, letters _ (by simp [upper]), upper⟩
  · exact ⟨_, letters _ (by simp [upper]), upper⟩

/-- Small letters of ASCII belong to ASCII letters alone. -/
theorem toNat_lt_of_toLower_eq {c d : Char} (hd : d ∈ operatorChars)
    (same : c.toLower = d.toLower) : c.toNat < 0x80 := by
  unfold Char.toLower at same
  split at same
  · rename_i capital
    exact Nat.lt_of_le_of_lt (UInt32.le_iff_toNat_le.mp capital.2) (by decide)
  · have all : (operatorChars.all fun d => d.toLower.toNat < 0x80) = true := by decide
    rw [same]
    exact of_decide_eq_true (List.all_eq_true.mp all d hd)

theorem upperChar_eq_iff {c d : Char} (hd : d ∈ operatorChars) :
    upperChar c = [d] ∧ c ≠ 'ı' ↔ c.toLower = d.toLower := by
  constructor
  · rintro ⟨image, dotted⟩
    rcases upperChar_cases c with ⟨ascii, upper⟩ | ⟨e, mem, _, upper⟩ | ⟨run, mem, holds, upper⟩ |
      upper
    · rw [upper, List.singleton_inj] at image
      exact (toUpper_eq_iff ascii hd).mp image
    · obtain ⟨_, _, _, code, inside, other⟩ := caseExpansions_spec e mem
      rw [upper] at image
      have member : Char.ofNat code ∈ [d] := image ▸ List.mem_map_of_mem inside
      rw [List.mem_singleton] at member
      exact absurd (member ▸ hd) other
    · rw [upper, List.singleton_inj] at image
      have target := List.mem_append_right blankCodes (List.mem_map_of_mem (f := Char.toNat) hd)
      exact absurd (eq_dotless_of_run mem holds image target).2 dotted
    · rw [upper, List.singleton_inj] at image
      rw [image]
  · intro same
    have ascii := toNat_lt_of_toLower_eq hd same
    refine ⟨?_, ?_⟩
    · rw [upperChar_ascii ascii, (toUpper_eq_iff ascii hd).mpr same]
    · rintro rfl
      exact absurd ascii (by decide)

/-- A word is written in capital letters as given, without the help of a dotless i, if and only
if it has the same small letters. -/
theorem upperChars_eq_iff {cs ds : List Char} (hds : ∀ d ∈ ds, d ∈ operatorChars) :
    upperChars cs = ds ∧ 'ı' ∉ cs ↔ cs.map Char.toLower = ds.map Char.toLower := by
  induction cs generalizing ds with
  | nil => cases ds <;> simp [upperChars]
  | cons c cs ih =>
      constructor
      · rintro ⟨image, dotted⟩
        rw [List.mem_cons, not_or] at dotted
        rw [upperChars, List.flatMap_cons] at image
        obtain ⟨d, hd, upper⟩ := upperChar_of_subset fun d hd =>
          hds d (image ▸ List.mem_append_left _ hd)
        rw [upper, List.singleton_append] at image
        subst image
        have first := (upperChar_eq_iff hd).mp ⟨upper, Ne.symm dotted.1⟩
        have others := (ih fun e he => hds e (List.mem_cons_of_mem d he)).mp ⟨rfl, dotted.2⟩
        rw [List.map_cons, List.map_cons, first, ← others]
      · intro same
        cases ds with
        | nil => simp at same
        | cons d ds =>
            rw [List.map_cons, List.map_cons, List.cons.injEq] at same
            obtain ⟨first, dotted⟩ := (upperChar_eq_iff (hds d List.mem_cons_self)).mpr same.1
            obtain ⟨others, none⟩ :=
              (ih fun e he => hds e (List.mem_cons_of_mem d he)).mpr same.2
            refine ⟨?_, ?_⟩
            · rw [upperChars, List.flatMap_cons, first, ← upperChars, others,
                List.singleton_append]
            · rw [List.mem_cons, not_or]
              exact ⟨Ne.symm dotted, none⟩

end SqlAssembly.Text
