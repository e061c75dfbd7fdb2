import Mathlib.Tactic.Ring
import SqlAssembly.Proofs.Layout.Statement
import SqlAssembly.Proofs.Run

/-!
# Pages

A page is a limit and an offset that are set together or not at all. Which pages are accepted is
said by integers without bound (`IsPage`), and words of 64 bits come to the same answers without
ever wrapping around (`Query.setPage_eq_setPageInWords`). The accepted pages of one size come one
after the other from the first row on and part the rows between them (`Query.setPage_exact`).
-/

namespace SqlAssembly

/-- The pages that are accepted: they have a number, rows, and an offset that 64 bits can hold. -/
structure IsPage (page size : Int64) : Prop where
  number : 1 ≤ page.toInt
  rows : 1 ≤ size.toInt
  offset : (page.toInt - 1) * size.toInt ≤ Int64.maxValue.toInt

section Offsets

variable {page size : Int64}

theorem IsPage.offset_nonneg (h : IsPage page size) : 0 ≤ (page.toInt - 1) * size.toInt := by
  have number := h.number
  have rows := h.rows
  exact Int.mul_nonneg (by omega) (by omega)

theorem IsPage.earlier {earlier : Int64} (h : IsPage page size) (number : 1 ≤ earlier.toInt)
    (before : earlier.toInt ≤ page.toInt) : IsPage earlier size where
  number := number
  rows := h.rows
  offset := by
    have rows := h.rows
    have less : (earlier.toInt - 1) * size.toInt ≤ (page.toInt - 1) * size.toInt :=
      Int.mul_le_mul_of_nonneg_right (by omega) (by omega)
    exact less.trans h.offset

/-! ## Words of 64 bits -/

theorem toInt_of_fits {n : Int} (least : 0 ≤ n) (greatest : n ≤ Int64.maxValue.toInt) :
    (Int64.ofInt n).toInt = n := by
  rw [Int64.toInt_maxValue] at greatest
  exact Int64.toInt_ofInt_of_le (by omega) (by omega)

theorem not_word_lt_one_iff {n : Int64} : ¬ n < 1 ↔ 1 ≤ n.toInt := by
  rw [Int64.lt_iff_toInt_lt, Int64.toInt_one, Int.not_lt]

/-- The number of a page may be lowered by one. -/
theorem toInt_pred (number : 1 ≤ page.toInt) : (page - 1).toInt = page.toInt - 1 := by
  have bound := page.toInt_lt
  have one : page - 1 = Int64.ofInt (page.toInt - 1) := by
    rw [Int64.ofInt_sub, Int64.ofInt_toInt]
    rfl
  rw [one]
  exact toInt_of_fits (by omega) (by rw [Int64.toInt_maxValue]; omega)

/-- Cut to 64 bits, the offset is the product of the words. -/
theorem ofInt_offset (page size : Int64) :
    Int64.ofInt ((page.toInt - 1) * size.toInt) = (page - 1) * size := by
  rw [Int64.ofInt_mul, Int64.ofInt_sub, Int64.ofInt_toInt, Int64.ofInt_toInt]
  rfl

theorem IsPage.toInt_offset (h : IsPage page size) :
    ((page - 1) * size).toInt = (page.toInt - 1) * size.toInt := by
  rw [← ofInt_offset]
  exact toInt_of_fits h.offset_nonneg h.offset

/-- The product of two words if it does not overflow. -/
def checkedMul? (a b : Int64) : Option Int64 :=
  if BitVec.smulOverflow a.toBitVec b.toBitVec then none else some (a * b)

theorem checkedMul?_pred (number : 1 ≤ page.toInt) (rows : 1 ≤ size.toInt) :
    checkedMul? (page - 1) size =
      if (page.toInt - 1) * size.toInt ≤ Int64.maxValue.toInt then some ((page - 1) * size)
      else none := by
  have least : 0 ≤ (page.toInt - 1) * size.toInt := Int.mul_nonneg (by omega) (by omega)
  have overflow : BitVec.smulOverflow (page - 1).toBitVec size.toBitVec = true ↔
      ¬ (page.toInt - 1) * size.toInt ≤ Int64.maxValue.toInt := by
    simp only [BitVec.smulOverflow, Int64.toInt_toBitVec, toInt_pred number,
      Int64.toInt_maxValue, Bool.or_eq_true, decide_eq_true_eq]
    omega
  rw [checkedMul?]
  by_cases fits : (page.toInt - 1) * size.toInt ≤ Int64.maxValue.toInt
  · rw [if_neg (fun o => overflow.mp o fits), if_pos fits]
  · rw [if_pos (overflow.mpr fits), if_neg fits]

end Offsets

namespace Query

variable (q : Query) {page size : Int64}

/-! ## Acceptance -/

/-- Limit and offset of a page from words of 64 bits: the number is lowered when it is known to be
one at least, and the product is refused if it overflows. -/
def setPageInWords (page size : Int64) : Except BuildError Query :=
  if page < 1 then .error (.invalidArgument (.page page))
  else if size < 1 then .error (.invalidArgument (.pageSize size))
  else
    match checkedMul? (page - 1) size with
    | some offset => .ok { q with limit := some size, offset := some offset }
    | none => .error (.invalidArgument (.offsetOverflow page size))

theorem setPage_eq_setPageInWords (page size : Int64) :
    q.setPage page size = q.setPageInWords page size := by
  rw [setPage, setPageInWords]
  by_cases number : page < 1
  · rw [if_pos number, if_pos number]
  by_cases rows : size < 1
  · rw [if_neg number, if_pos rows, if_neg number, if_pos rows]
  rw [if_neg number, if_neg rows, if_neg number, if_neg rows]
  rw [checkedMul?_pred (not_word_lt_one_iff.mp number) (not_word_lt_one_iff.mp rows)]
  simp only [ofInt_offset]
  split <;> rfl

theorem setPage_of_isPage (h : IsPage page size) :
    q.setPage page size =
      .ok { q with limit := some size, offset := some ((page - 1) * size) } := by
  rw [setPage, if_neg (not_word_lt_one_iff.mpr h.number), if_neg (not_word_lt_one_iff.mpr h.rows)]
  simp only
  rw [if_pos h.offset, ofInt_offset]

theorem setPage_of_not_isPage (h : ¬ IsPage page size) :
    ∃ fault, q.setPage page size = .error (.invalidArgument fault) := by
  rw [setPage]
  by_cases number : page < 1
  · exact ⟨_, if_pos number⟩
  by_cases rows : size < 1
  · exact ⟨_, by rw [if_neg number, if_pos rows]⟩
  rw [if_neg number, if_neg rows]
  rw [not_word_lt_one_iff] at number rows
  exact ⟨_, if_neg fun offset => h ⟨number, rows, offset⟩⟩

theorem setPage_eq_ok_iff {next : Query} :
    q.setPage page size = .ok next ↔
      IsPage page size ∧
        next = { q with limit := some size, offset := some ((page - 1) * size) } := by
  by_cases h : IsPage page size
  · rw [q.setPage_of_isPage h]
    constructor
    · rintro ⟨⟩
      exact ⟨h, rfl⟩
    · rintro ⟨_, rfl⟩
      rfl
  · obtain ⟨fault, refused⟩ := q.setPage_of_not_isPage h
    rw [refused]
    constructor
    · nofun
    · rintro ⟨accepted, _⟩
      exact absurd accepted h

theorem advance_page_of_error {e : BuildError} (refused : q.setPage page size = .error e) :
    q.advance (.page page size) = q := by
  rw [advance, step, refused]

/-! ## Rows -/

/-- The row, counted from zero, is left by limit and offset. -/
def ShowsRow (row : Nat) : Prop :=
  ∃ offset limit, q.offset = some offset ∧ q.limit = some limit ∧
    offset.toInt ≤ row ∧ row < offset.toInt + limit.toInt

/-- The offset of a page is a multiple of its size, so a row is on the page of its quotient. -/
theorem showsRow_iff (h : IsPage page size) (row : Nat) :
    ShowsRow { q with limit := some size, offset := some ((page - 1) * size) } row ↔
      (row : Int) / size.toInt + 1 = page.toInt := by
  have rows := h.rows
  have positive : 0 < size.toInt := by omega
  have next : (page.toInt - 1) * size.toInt + size.toInt = page.toInt * size.toInt := by ring
  have quotient : (row : Int) / size.toInt + 1 = page.toInt ↔
      page.toInt - 1 ≤ row / size.toInt ∧ row / size.toInt < page.toInt := by omega
  rw [quotient, Int.le_ediv_iff_mul_le positive, Int.ediv_lt_iff_lt_mul positive, ← next,
    ← h.toInt_offset]
  constructor
  · rintro ⟨offset, limit, ⟨⟩, ⟨⟩, within⟩
    exact within
  · intro within
    exact ⟨_, _, rfl, rfl, within⟩

/-- Limit and offset come last in the SELECT. -/
theorem sql_select_page (limit offset : Int64) :
    ({ q with limit := some limit, offset := some offset }.build .select).sql =
      ({ q with limit := none, offset := none }.build .select).sql ++
        " LIMIT " ++ toString limit.toInt ++ " OFFSET " ++ toString offset.toInt := by
  rw [sql_select, sql_select]
  simp only [limitText, offsetText, String.append_empty, String.append_assoc]
  rfl

/-! ## The law -/

/-- A page is accepted exactly if number and size are one at least and the product of size and
lowered number is within 64 bits; the words that it is computed in never wrap around. Accepted, it
sets limit and offset to size and product, which the SELECT ends with, and leaves the other clauses
as they are. Every row is on the page of its quotient by the size and on no other, so the accepted
pages of one size neither overlap nor leave a gap: each starts where the one before it ends, and
the pages before an accepted page are accepted. Refused, it is refused as an argument and the query
goes on as it was. -/
theorem setPage_exact (size : Int64) :
    (∀ page,
      q.setPage page size = q.setPageInWords page size ∧
        (1 ≤ page.toInt → (page - 1).toInt = page.toInt - 1) ∧
        ((∃ next, q.setPage page size = .ok next) ↔
          1 ≤ page.toInt ∧ 1 ≤ size.toInt ∧
            (page.toInt - 1) * size.toInt ≤ Int64.maxValue.toInt)) ∧
    (∀ page next, q.setPage page size = .ok next →
      ∃ offset : Int64, next = { q with limit := some size, offset := some offset } ∧
        offset.toInt = (page.toInt - 1) * size.toInt ∧ 0 ≤ offset.toInt ∧
        (next.build .select).sql =
          ({ q with limit := none, offset := none }.build .select).sql ++
            " LIMIT " ++ toString size.toInt ++ " OFFSET " ++ toString offset.toInt ∧
        ∀ row : Nat, next.ShowsRow row ↔ (row : Int) / size.toInt + 1 = page.toInt) ∧
    (∀ page following first second, following.toInt = page.toInt + 1 →
      q.setPage page size = .ok first → q.setPage following size = .ok second →
        ∃ a b, first.offset = some a ∧ second.offset = some b ∧
          b.toInt = a.toInt + size.toInt) ∧
    (∀ earlier page next, 1 ≤ earlier.toInt → earlier.toInt ≤ page.toInt →
      q.setPage page size = .ok next → ∃ other, q.setPage earlier size = .ok other) ∧
    ∀ page e, q.setPage page size = .error e →
      (∃ fault, e = .invalidArgument fault) ∧ q.advance (.page page size) = q := by
  refine ⟨fun page => ⟨q.setPage_eq_setPageInWords page size, toInt_pred, ?_⟩, ?_, ?_, ?_, ?_⟩
  · constructor
    · rintro ⟨next, accepted⟩
      obtain ⟨⟨number, rows, offset⟩, _⟩ := q.setPage_eq_ok_iff.mp accepted
      exact ⟨number, rows, offset⟩
    · rintro ⟨number, rows, offset⟩
      exact ⟨_, q.setPage_of_isPage ⟨number, rows, offset⟩⟩
  · intro page next accepted
    obtain ⟨h, rfl⟩ := q.setPage_eq_ok_iff.mp accepted
    refine ⟨_, rfl, h.toInt_offset, ?_, q.sql_select_page size _, q.showsRow_iff h⟩
    rw [h.toInt_offset]
    exact h.offset_nonneg
  · intro page following first second consecutive accepted acceptedNext
    obtain ⟨h, rfl⟩ := q.setPage_eq_ok_iff.mp accepted
    obtain ⟨hnext, rfl⟩ := q.setPage_eq_ok_iff.mp acceptedNext
    refine ⟨_, _, rfl, rfl, ?_⟩
    rw [h.toInt_offset, hnext.toInt_offset, consecutive]
    ring
  · intro earlier page next number before accepted
    obtain ⟨h, _⟩ := q.setPage_eq_ok_iff.mp accepted
    exact ⟨_, q.setPage_of_isPage (h.earlier number before)⟩
  · intro page e refused
    refine ⟨?_, q.advance_page_of_error refused⟩
    by_cases h : IsPage page size
    · rw [q.setPage_of_isPage h] at refused
      cases refused
    · obtain ⟨fault, other⟩ := q.setPage_of_not_isPage h
      exact ⟨fault, Except.error.inj (refused.symm.trans other)⟩

/-- Pages so large that the second has the last offset that fits. The third is refused, and so is
the least number, which could not be lowered. -/
theorem setPage_exact_edges :
    let q := (new .default).setLimit 5
    let size : Int64 := 4611686018427387904
    (∃ first second, q.setPage 1 size = .ok first ∧ q.setPage 2 size = .ok second ∧
      (∃ a b, first.offset = some a ∧ second.offset = some b ∧
        b.toInt = a.toInt + size.toInt) ∧
      second.ShowsRow 9223372036854775807 ∧ ¬ first.ShowsRow 9223372036854775807) ∧
    q.advance (.page 3 size) = q ∧ q.advance (.page Int64.minValue size) = q := by
  intro q size
  obtain ⟨accepted, windows, consecutive, earlier, refused⟩ := setPage_exact q size
  obtain ⟨second, hsecond⟩ := (accepted 2).2.2.mpr (by decide)
  obtain ⟨first, hfirst⟩ := earlier 1 2 second (by decide) (by decide) hsecond
  obtain ⟨_, _, _, _, _, rows⟩ := windows 2 second hsecond
  obtain ⟨_, _, _, _, _, rowsBefore⟩ := windows 1 first hfirst
  refine ⟨⟨first, second, hfirst, hsecond, ?_, ?_, ?_⟩, ?_, ?_⟩
  · exact consecutive 1 2 first second (by decide) hfirst hsecond
  · exact (rows _).mpr (by decide)
  · rw [rowsBefore]
    decide
  · exact (refused 3 _ rfl).2
  · exact (refused Int64.minValue _ rfl).2

end Query

end SqlAssembly
