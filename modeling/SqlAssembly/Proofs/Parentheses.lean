import SqlAssembly.Proofs.Layout

/-!
# Parentheses

A text is balanced if, read from left to right, it never closes more parentheses than it has
opened and leaves none open. A reader that cuts a text at a separator only outside of all
parentheses gives back the pieces that were joined (`cutOutside_intercalate`), whatever they have
inside of their own parentheses.
-/

namespace SqlAssembly

/-! ## Balanced texts -/

/-- The number of open parentheses behind a character; none if a parenthesis is closed that was
not opened. -/
def depthStep (d : Nat) (c : Char) : Option Nat :=
  if c = '(' then some (d + 1)
  else if c = ')' then if d = 0 then none else some (d - 1)
  else some d

def depthAfter (d : Nat) (cs : List Char) : Option Nat := cs.foldlM depthStep d

def Balanced (t : String) : Prop := depthAfter 0 t.toList = some 0

instance (t : String) : Decidable (Balanced t) := inferInstanceAs (Decidable (_ = _))

theorem depthAfter_append (d : Nat) (cs ds : List Char) :
    depthAfter d (cs ++ ds) = (depthAfter d cs).bind (depthAfter · ds) := by
  rw [depthAfter, List.foldlM_append]
  rfl

theorem depthAfter_cons (d : Nat) (c : Char) (cs : List Char) :
    depthAfter d (c :: cs) = (depthStep d c).bind (depthAfter · cs) := by
  rw [depthAfter, List.foldlM_cons]
  rfl

/-- What can be read at one depth can be read at every greater depth. -/
theorem depthStep_add {d e : Nat} {c : Char} (h : depthStep d c = some e) (k : Nat) :
    depthStep (d + k) c = some (e + k) := by
  unfold depthStep at h ⊢
  by_cases opening : c = '('
  · rw [if_pos opening, Option.some_inj] at h
    rw [if_pos opening, Option.some_inj]
    omega
  · rw [if_neg opening] at h ⊢
    by_cases closing : c = ')'
    · rw [if_pos closing] at h ⊢
      by_cases zero : d = 0
      · rw [if_pos zero] at h
        cases h
      · rw [if_neg zero, Option.some_inj] at h
        rw [if_neg (by omega), Option.some_inj]
        omega
    · rw [if_neg closing, Option.some_inj] at h
      rw [if_neg closing, Option.some_inj]
      omega

theorem depthAfter_add {d e : Nat} {cs : List Char} (h : depthAfter d cs = some e) (k : Nat) :
    depthAfter (d + k) cs = some (e + k) := by
  induction cs generalizing d with
  | nil =>
      injection h with same
      rw [← same]
      rfl
  | cons c cs ih =>
      rw [depthAfter_cons, Option.bind_eq_some_iff] at h
      obtain ⟨next, step, others⟩ := h
      rw [depthAfter_cons, depthStep_add step k, Option.bind_some]
      exact ih others

theorem Balanced.append {s t : String} (hs : Balanced s) (ht : Balanced t) :
    Balanced (s ++ t) := by
  unfold Balanced at hs ht ⊢
  rw [String.toList_append, depthAfter_append, hs, Option.bind_some, ht]

theorem balanced_of_clear {t : String} (h : ∀ c ∈ t.toList, c ≠ '(' ∧ c ≠ ')') : Balanced t := by
  unfold Balanced
  generalize t.toList = cs at h
  induction cs with
  | nil => rfl
  | cons c cs ih =>
      obtain ⟨opening, closing⟩ := h c List.mem_cons_self
      have step : depthStep 0 c = some 0 := by
        rw [depthStep, if_neg opening, if_neg closing]
      rw [depthAfter_cons, step, Option.bind_some]
      exact ih fun d hd => h d (List.mem_cons_of_mem c hd)

theorem balanced_intercalate {sep : String} (hsep : Balanced sep) {ts : List String}
    (h : ∀ t ∈ ts, Balanced t) : Balanced (sep.intercalate ts) :=
  intercalate_induction rfl Balanced.append hsep h

/-- The text is one pair of parentheses with a balanced text inside. -/
def Enclosed (t : String) : Prop := ∃ inner, Balanced inner ∧ t = "(" ++ inner ++ ")"

theorem Enclosed.balanced {t : String} (h : Enclosed t) : Balanced t := by
  obtain ⟨inner, balanced, rfl⟩ := h
  have inside : depthAfter 1 inner.toList = some 1 := depthAfter_add balanced 1
  unfold Balanced
  rw [String.toList_append, String.toList_append, depthAfter_append, depthAfter_append]
  change ((depthAfter 1 inner.toList).bind (depthAfter · [')'])) = some 0
  rw [inside]
  rfl

theorem Enclosed.start_intercalate {t : String} (h : Enclosed t) (sep : String)
    (ts : List String) : ∃ cs, (sep.intercalate (t :: ts)).toList = '(' :: cs := by
  obtain ⟨inner, _, rfl⟩ := h
  cases ts with
  | nil => exact ⟨inner.toList ++ [')'], by simp⟩
  | cons u ts =>
      refine ⟨inner.toList ++ ')' :: (sep ++ sep.intercalate (u :: ts)).toList, ?_⟩
      simp [String.intercalate_cons_cons]

/-! ## Cutting outside of parentheses -/

/-- The pieces between those separators that stand outside of all parentheses, when `d`
parentheses are open and `skip` characters are left of a separator that was found. -/
def piecesFrom (sep : List Char) : (skip d : Nat) → List Char → List (List Char)
  | _, _, [] => [[]]
  | skip + 1, d, _ :: cs => piecesFrom sep skip d cs
  | 0, d, c :: cs =>
      if d = 0 ∧ sep.isPrefixOf (c :: cs) then [] :: piecesFrom sep (sep.length - 1) 0 cs
      else (piecesFrom sep 0 ((depthStep d c).getD 0) cs).modifyHead (c :: ·)

def cutOutside (sep text : String) : List String :=
  (piecesFrom sep.toList 0 0 text.toList).map String.ofList

theorem piecesFrom_skip (sep skipped rest : List Char) (d : Nat) :
    piecesFrom sep skipped.length d (skipped ++ rest) = piecesFrom sep 0 d rest := by
  induction skipped with
  | nil => rfl
  | cons c cs ih =>
      rw [List.length_cons, List.cons_append, piecesFrom]
      exact ih

theorem piecesFrom_sep (s : Char) (sep rest : List Char) :
    piecesFrom (s :: sep) 0 0 (s :: sep ++ rest) = [] :: piecesFrom (s :: sep) 0 0 rest := by
  have found : (s :: sep).isPrefixOf (s :: (sep ++ rest)) = true :=
    List.isPrefixOf_iff_prefix.mpr (List.prefix_append (s :: sep) rest)
  rw [List.cons_append, piecesFrom, if_pos ⟨rfl, found⟩, List.length_cons, Nat.add_sub_cancel,
    piecesFrom_skip]

theorem modifyHead_append (s t : List Char) (pieces : List (List Char)) :
    (pieces.modifyHead (t ++ ·)).modifyHead (s ++ ·) = pieces.modifyHead (s ++ t ++ ·) := by
  cases pieces <;> simp

theorem piecesFrom_pass {sep cs : List Char} {c : Char} (clear : depthStep 0 c = some 0)
    (other : sep.isPrefixOf (c :: cs) = false) :
    piecesFrom sep 0 0 (c :: cs) = (piecesFrom sep 0 0 cs).modifyHead (c :: ·) := by
  rw [piecesFrom, if_neg (by simp [other]), clear, Option.getD_some]

/-- Inside of parentheses nothing is cut. -/
theorem piecesFrom_inside (sep : List Char) {d e : Nat} {cs : List Char}
    (h : depthAfter d cs = some e) (rest : List Char) :
    piecesFrom sep 0 (d + 1) (cs ++ rest) = (piecesFrom sep 0 (e + 1) rest).modifyHead (cs ++ ·) := by
  induction cs generalizing d with
  | nil =>
      injection h with same
      rw [← same, List.nil_append]
      cases piecesFrom sep 0 (d + 1) rest <;> rfl
  | cons c cs ih =>
      rw [depthAfter_cons, Option.bind_eq_some_iff] at h
      obtain ⟨next, step, others⟩ := h
      -- One parenthesis is open around the text, so its own depth of zero is never the reader's.
      rw [List.cons_append, piecesFrom, if_neg (by simp), depthStep_add step 1, Option.getD_some,
        ih others]
      exact modifyHead_append [c] cs _

/-- The piece is never cut, whatever follows it. -/
def Whole (sep t : List Char) : Prop :=
  ∀ rest, piecesFrom sep 0 0 (t ++ rest) = (piecesFrom sep 0 0 rest).modifyHead (t ++ ·)

theorem whole_nil (sep : List Char) : Whole sep [] := by
  intro rest
  rw [List.nil_append]
  cases piecesFrom sep 0 0 rest <;> rfl

theorem Enclosed.whole {t : String} (h : Enclosed t) {s : Char} (hs : s ≠ '(')
    (sep : List Char) : Whole (s :: sep) t.toList := by
  obtain ⟨inner, balanced, rfl⟩ := h
  intro rest
  have start : ¬ (0 = 0 ∧ (s :: sep).isPrefixOf ('(' :: (inner.toList ++ ')' :: rest)) = true) := by
    rintro ⟨_, found⟩
    rw [List.isPrefixOf_iff_prefix, List.cons_prefix_cons] at found
    exact hs found.1
  have text : ("(" ++ inner ++ ")").toList ++ rest = '(' :: (inner.toList ++ ')' :: rest) := by
    simp
  have closed : piecesFrom (s :: sep) 0 1 (')' :: rest) =
      (piecesFrom (s :: sep) 0 0 rest).modifyHead (')' :: ·) := by
    rw [piecesFrom, if_neg (by simp)]
    rfl
  rw [text, piecesFrom, if_neg start]
  change (piecesFrom (s :: sep) 0 1 (inner.toList ++ ')' :: rest)).modifyHead ('(' :: ·) = _
  rw [piecesFrom_inside (s :: sep) balanced, closed]
  cases piecesFrom (s :: sep) 0 0 rest <;> simp

theorem piecesFrom_intercalate (s : Char) (sep : List Char) {ts : List (List Char)}
    (nonempty : ts ≠ []) (whole : ∀ t ∈ ts, Whole (s :: sep) t) :
    piecesFrom (s :: sep) 0 0 ((s :: sep).intercalate ts) = ts := by
  induction ts with
  | nil => exact absurd rfl nonempty
  | cons t ts ih =>
      have first := whole t List.mem_cons_self
      cases ts with
      | nil =>
          have last := first []
          rw [List.append_nil] at last
          rw [List.intercalate_singleton, last]
          simp [piecesFrom]
      | cons u ts =>
          have others := ih (by simp) fun v hv => whole v (List.mem_cons_of_mem t hv)
          rw [List.intercalate_cons_cons, List.append_assoc, first, piecesFrom_sep, others]
          simp

theorem cutOutside_intercalate {sep : String} {s : Char} {cs : List Char}
    (hsep : sep.toList = s :: cs) {ts : List String} (nonempty : ts ≠ [])
    (whole : ∀ t ∈ ts, Whole (s :: cs) t.toList) : cutOutside sep (sep.intercalate ts) = ts := by
  have pieces : ts.map String.toList ≠ [] := by simpa using nonempty
  rw [cutOutside, String.toList_intercalate, hsep,
    piecesFrom_intercalate s cs pieces (List.forall_mem_map.mpr whole), List.map_map]
  simp [Function.comp_def]

end SqlAssembly
