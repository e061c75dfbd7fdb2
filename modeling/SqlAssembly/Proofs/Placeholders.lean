import Mathlib.Data.List.TakeWhile
import SqlAssembly.Proofs.Layout.Texts
import SqlAssembly.Proofs.Run

/-!
# Placeholders in the text

A server knows nothing of layouts: to it a placeholder is a dollar sign with the digits behind it,
as many as there are. Read like this, a statement in placeholder mode has the placeholders from
one to the number of its arguments and no others (`Query.dollarRuns_build`), unless the caller
supplied a dollar sign. What matters besides is that a number is never followed by a digit, which
would be read as part of it (`Query.delimited_layout`).
-/

namespace SqlAssembly

open Layout

/-! ## Reading placeholders -/

/-- The longest run of digits behind each dollar sign, from left to right. -/
def dollarRuns : List Char → List String
  | [] => []
  | c :: cs =>
      if c = '$' then String.ofList (cs.takeWhile Char.isDigit) :: dollarRuns cs
      else dollarRuns cs

theorem dollarRuns_append {cs : List Char} (h : '$' ∉ cs) (rest : List Char) :
    dollarRuns (cs ++ rest) = dollarRuns rest := by
  induction cs with
  | nil => rfl
  | cons c cs ih =>
      rw [List.mem_cons, not_or] at h
      rw [List.cons_append, dollarRuns, if_neg (Ne.symm h.1), ih h.2]

/-- There is no dollar sign among the digits, so the reader may go on behind them. -/
theorem dollarRuns_dollar (cs : List Char) :
    dollarRuns ('$' :: cs) =
      String.ofList (cs.takeWhile Char.isDigit) :: dollarRuns (cs.dropWhile Char.isDigit) := by
  have digits : '$' ∉ cs.takeWhile Char.isDigit := by
    intro h
    have digit : '$'.isDigit = true := List.mem_takeWhile_imp h
    exact absurd digit (by decide)
  have rest : dollarRuns cs = dollarRuns (cs.dropWhile Char.isDigit) := by
    have skipped := dollarRuns_append digits (cs.dropWhile Char.isDigit)
    rwa [List.takeWhile_append_dropWhile] at skipped
  rw [dollarRuns, if_pos rfl, rest]

theorem isDigit_of_mem_toString {n : Nat} {c : Char} (h : c ∈ (toString n).toList) :
    c.isDigit = true := by
  rw [Nat.toString_eq_repr, Nat.toList_repr] at h
  exact Nat.isDigit_of_mem_toDigits (by decide) (by decide) h

theorem toString_ne_empty (n : Nat) : toString n ≠ "" := by
  rw [Nat.toString_eq_repr, ← String.toList_inj.ne, Nat.toList_repr]
  exact Nat.toDigits_ne_nil

/-- A number is read in full and nothing is added to it, if no digit follows. -/
theorem dollarRuns_numbered (k : Nat) (s : Scalar) {rest : List Char}
    (clear : rest.takeWhile Char.isDigit = []) :
    dollarRuns ((Rendering.numbered k s).toList ++ rest) = toString k :: dollarRuns rest := by
  have digits : ∀ c ∈ (toString k).toList, c.isDigit = true := fun c => isDigit_of_mem_toString
  have behind : rest.dropWhile Char.isDigit = rest := by
    have whole := List.takeWhile_append_dropWhile (p := Char.isDigit) (l := rest)
    rwa [clear, List.nil_append] at whole
  have dollar : (Rendering.numbered k s).toList ++ rest =
      '$' :: ((toString k).toList ++ rest) := by
    simp [Rendering.numbered]
  rw [dollar, dollarRuns_dollar, List.takeWhile_append_of_pos digits,
    List.dropWhile_append_of_pos digits, clear, behind, List.append_nil, String.ofList_toList]

/-! ## Delimited holes -/

/-- The text begins with a character that is not a digit. -/
def BeginsClear (t : String) : Prop := (t.toList.head?.any fun c => !c.isDigit) = true

instance (t : String) : Decidable (BeginsClear t) := inferInstanceAs (Decidable (_ = true))

theorem BeginsClear.append {s : String} (h : BeginsClear s) (t : String) :
    BeginsClear (s ++ t) := by
  rw [BeginsClear, String.toList_append]
  cases hs : s.toList with
  | nil => simp [BeginsClear, hs] at h
  | cons c cs => simpa [BeginsClear, hs] using h

theorem BeginsClear.takeWhile_append {t : String} (h : BeginsClear t) (rest : List Char) :
    (t.toList ++ rest).takeWhile Char.isDigit = [] := by
  cases ht : t.toList with
  | nil => simp [BeginsClear, ht] at h
  | cons c cs =>
      have clear : c.isDigit = false := by simpa [BeginsClear, ht] using h
      rw [List.cons_append, List.takeWhile_cons_of_neg (by simp [clear])]

namespace Layout

variable {α : Type}

/-- The layout, filled with placeholders, does not begin with a digit. Empty texts are passed
over. -/
def StartsClear : Layout α → Prop
  | [] => True
  | .text t :: l => BeginsClear t ∨ t = "" ∧ StartsClear l
  | .hole _ :: _ => True

/-- What comes behind a hole never begins with a digit. -/
def Delimited : Layout α → Prop
  | [] => True
  | .text _ :: l => Delimited l
  | .hole _ :: l => StartsClear l ∧ Delimited l

theorem StartsClear.text {t : String} {l : Layout α} (h : t = "" ∨ BeginsClear t)
    (others : StartsClear l) : StartsClear (.text t :: l) := by
  rcases h with none | first
  · exact .inr ⟨none, others⟩
  · exact .inl first

theorem StartsClear.append {l m : Layout α} (hl : StartsClear l) (hm : StartsClear m) :
    StartsClear (l ++ m) := by
  induction l with
  | nil => exact hm
  | cons f l ih =>
      cases f with
      | text t =>
          rcases hl with first | ⟨none, others⟩
          · exact .inl first
          · exact .inr ⟨none, ih others⟩
      | hole a => exact trivial

theorem Delimited.append {l m : Layout α} (hl : Delimited l) (hm : Delimited m)
    (clear : StartsClear m) : Delimited (l ++ m) := by
  induction l with
  | nil => exact hm
  | cons f l ih =>
      cases f with
      | text t => exact ih hl
      | hole a => exact ⟨StartsClear.append hl.1 clear, ih hl.2⟩

theorem delimited_separated {sep : String} (clear : BeginsClear sep) {ls : List (Layout α)}
    (h : ∀ l ∈ ls, Delimited l) : Delimited (separated sep ls) := by
  induction ls with
  | nil => exact trivial
  | cons l ls ih =>
      have first := h l List.mem_cons_self
      have others := ih fun m hm => h m (List.mem_cons_of_mem l hm)
      cases ls with
      | nil => simpa using first
      | cons m ls =>
          rw [separated_cons]
          exact Delimited.append first others (.inl clear)

theorem delimited_enclosed {l : Layout α} (h : Delimited l) :
    Delimited (.text "(" :: (l ++ [.text ")"])) :=
  Delimited.append h trivial (.inl (by decide))

theorem StartsClear.takeWhile_fill {l : Layout Scalar} (clear : StartsClear l) (k : Nat) :
    (l.fill Rendering.numbered k).toList.takeWhile Char.isDigit = [] := by
  induction l with
  | nil => rfl
  | cons f l ih =>
      cases f with
      | text t =>
          rw [fill_text, String.toList_append]
          rcases clear with first | ⟨rfl, others⟩
          · exact first.takeWhile_append _
          · simpa using ih others
      | hole s =>
          have dollar : BeginsClear "$" := by decide
          rw [fill_hole, Rendering.numbered, String.append_assoc, String.toList_append]
          exact dollar.takeWhile_append _

/-- A reader of the text finds the holes of the layout under their numbers. -/
theorem dollarRuns_fill {l : Layout Scalar} (avoids : Avoids '$' (texts l))
    (delimited : Delimited l) (k : Nat) :
    dollarRuns (l.fill Rendering.numbered k).toList =
      (List.range' (k + 1) (holes l).length).map toString := by
  induction l generalizing k with
  | nil => rfl
  | cons f l ih =>
      cases f with
      | text t =>
          rw [texts_text, avoids_cons] at avoids
          rw [fill_text, String.toList_append, dollarRuns_append avoids.1, holes_text,
            ih avoids.2 delimited]
      | hole s =>
          -- The digits end with the number only because of what is filled in behind it.
          have clear := StartsClear.takeWhile_fill delimited.1 (k + 1)
          rw [fill_hole, String.toList_append, dollarRuns_numbered _ _ clear,
            ih avoids delimited.2, holes_hole, List.length_cons, List.range'_succ, List.map_cons]

end Layout

/-! ## Clauses and statements -/

theorem Value.delimited_layout (isList : Bool) (v : Value) : Delimited (v.layout isList) := by
  have holes (sep : String) (clear : BeginsClear sep) (items : List Scalar) :
      Delimited (separated sep (items.map ([.hole ·]))) :=
    delimited_separated clear (List.forall_mem_map.mpr fun _ _ => ⟨trivial, trivial⟩)
  cases v with
  | scalar s => exact ⟨trivial, trivial⟩
  | sequence items =>
      cases isList with
      | false => exact holes " AND " (by decide) items
      | true => exact delimited_enclosed (holes ", " (by decide) items)

theorem Condition.delimited_layout (c : Condition) : Delimited c.layout := by
  cases hv : c.value with
  | none => simp [layout, hv, Delimited]
  | some v => simpa only [layout, hv, Delimited] using v.delimited_layout c.isListOperator

theorem Group.delimited_layout (group : Group) : Delimited group.layout := by
  have conditions : ∀ l ∈ group.map Condition.layout, Delimited l :=
    List.forall_mem_map.mpr fun c _ => c.delimited_layout
  exact delimited_enclosed (delimited_separated (by decide) conditions)

namespace Filter

theorem delimited_layout (filter : Filter) : Delimited filter.layout := by
  have groups (gs : List Group) : ∀ l ∈ gs.map Group.layout, Delimited l :=
    List.forall_mem_map.mpr fun g _ => g.delimited_layout
  have required : Delimited (separated " AND " (filter.required.map Group.layout)) :=
    delimited_separated (by decide) (groups filter.required)
  have operands := filter.forall_operandLayouts required (groups filter.alternatives)
  rw [layout]
  split
  · exact trivial
  · exact delimited_separated (by decide) operands

theorem startsClear_layout (filter : Filter) : StartsClear filter.layout := by
  rw [layout]
  split
  · exact trivial
  · exact .inl (by decide)

end Filter

theorem Assignment.delimited_layoutAll (assignments : List Assignment) :
    Delimited (Assignment.layoutAll assignments) :=
  delimited_separated (by decide) (List.forall_mem_map.mpr fun _ _ => ⟨trivial, trivial⟩)

namespace Query

variable {q : Query}

/-- The clauses behind the filter delimit it: each is empty or begins with a blank. -/
theorem startsClear_tail (q : Query) :
    StartsClear ([.text q.groupText, .text q.orderText, .text q.limitText, .text q.offsetText] :
      Layout Scalar) := by
  rw [groupText, orderText, limitText, offsetText]
  refine .text ?_ (.text ?_ (.text ?_ (.text ?_ trivial)))
  all_goals
    split
    · exact .inl rfl
    · exact .inr (BeginsClear.append (by decide) _)

/-- No number in a statement is followed by a digit, whatever the caller supplied. -/
theorem delimited_layout (q : Query) (kind : Statement.Kind) : Delimited (q.layout kind) := by
  have filter := q.filter.delimited_layout
  cases kind with
  | select => exact filter.append trivial q.startsClear_tail
  | count => exact filter
  | update =>
      exact (Assignment.delimited_layoutAll q.assignments).append filter q.filter.startsClear_layout

/-- Read from left to right, a statement in placeholder mode has the placeholders from one to the
number of its arguments, each once and in order, and no dollar sign without a number. This holds
of every query to which the caller supplied no dollar sign outside of its scalars. -/
theorem dollarRuns_build (mode : q.mode = .placeholder) (raw : Avoids '$' q.rawTexts)
    (kind : Statement.Kind) :
    dollarRuns (q.build kind).sql.toList =
        (List.range' 1 (q.build kind).arguments.size).map toString ∧
      "" ∉ dollarRuns (q.build kind).sql.toList := by
  have size : (q.build kind).arguments.size = (holes (q.layout kind)).length := by
    rw [← Arguments.length_toList, arguments_build_of_placeholder mode]
  have runs : dollarRuns (q.build kind).sql.toList =
      (List.range' 1 (q.build kind).arguments.size).map toString := by
    rw [sql_build, mark_of_placeholder mode, size]
    exact dollarRuns_fill (avoids_layout (by decide) raw kind) (q.delimited_layout kind) 0
  refine ⟨runs, ?_⟩
  rw [runs, List.mem_map]
  rintro ⟨n, _, empty⟩
  exact toString_ne_empty n empty

/-- The tenth and eleventh placeholder are not taken for a first one with a digit behind it. -/
theorem dollarRuns_build_usersBy :
    Avoids '$' (usersBy .placeholder (.text "$1") (.replicate 5 (.int 0)) trivial
        (by decide)).rawTexts ∧
      dollarRuns ((usersBy .placeholder (.text "$1") (.replicate 5 (.int 0)) trivial
          (by decide)).build .update).sql.toList =
        ["1", "2", "3", "4", "5", "6", "7", "8", "9", "10", "11"] := by
  have raw : Avoids '$' (usersBy .placeholder (.text "$1") (.replicate 5 (.int 0)) trivial
      (by decide)).rawTexts := by decide
  exact ⟨raw, (dollarRuns_build rfl raw .update).1⟩

end Query

end SqlAssembly
