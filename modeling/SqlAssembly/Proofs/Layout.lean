import Mathlib.Data.List.Basic

/-!
# Layouts

A layout is a statement with its scalars cut out: fixed texts in order, and a hole where each
scalar stands. A layout is filled by putting a mark into every hole. The mark may depend on the
number of the hole and on the scalar that belongs there, so numbered placeholders and inline
literals are two fillings of one layout, and what holds of all fillings is proved once.
-/

namespace SqlAssembly

/-- What appending keeps holds of joined texts, if it holds of each and of what is between. -/
theorem intercalate_induction {P : String → Prop} {sep : String} {ts : List String}
    (empty : P "") (append : ∀ {s t}, P s → P t → P (s ++ t)) (hsep : P sep)
    (h : ∀ t ∈ ts, P t) : P (sep.intercalate ts) := by
  induction ts with
  | nil => exact empty
  | cons t ts ih =>
      have first := h t List.mem_cons_self
      have others := ih fun u hu => h u (List.mem_cons_of_mem t hu)
      cases ts with
      | nil =>
          rw [String.intercalate_singleton]
          exact first
      | cons u ts =>
          rw [String.intercalate_cons_cons]
          exact append (append first hsep) others

/-- A text that is written as it stands, or a hole together with what belongs into it. -/
inductive Fragment (α : Type) where
  | text (t : String)
  | hole (a : α)
deriving DecidableEq

abbrev Layout (α : Type) := List (Fragment α)

def Fragment.blank {α : Type} : Fragment α → Fragment Unit
  | .text t => .text t
  | .hole _ => .hole ()

namespace Layout

variable {α : Type}

def holes : Layout α → List α
  | [] => []
  | .text _ :: l => holes l
  | .hole a :: l => a :: holes l

/-- The text with a mark in every hole. The holes are numbered on from the one before the first,
which is hole `k`. -/
def fill (mark : Nat → α → String) : Nat → Layout α → String
  | _, [] => ""
  | k, .text t :: l => t ++ fill mark k l
  | k, .hole a :: l => mark (k + 1) a ++ fill mark (k + 1) l

/-- The texts of several layouts whose holes are numbered on from one layout to the next. -/
def fillAll (mark : Nat → α → String) : Nat → List (Layout α) → List String
  | _, [] => []
  | k, l :: ls => fill mark k l :: fillAll mark (k + l.holes.length) ls

/-- The layouts in order, with a fixed text between every two. -/
def separated (sep : String) (ls : List (Layout α)) : Layout α :=
  [Fragment.text sep].intercalate ls

/-- What two layouts share if they differ only in what belongs into their holes. -/
def blank (l : Layout α) : Layout Unit := l.map Fragment.blank

/-! ## Holes -/

@[simp] theorem holes_nil : holes ([] : Layout α) = [] := rfl

@[simp] theorem holes_text (t : String) (l : Layout α) : holes (.text t :: l) = holes l := rfl

@[simp] theorem holes_hole (a : α) (l : Layout α) : holes (.hole a :: l) = a :: holes l := rfl

@[simp] theorem holes_append (l m : Layout α) : holes (l ++ m) = holes l ++ holes m := by
  induction l with
  | nil => rfl
  | cons f l ih => cases f <;> simp [ih]

theorem separated_cons (sep : String) (l m : Layout α) (ls : List (Layout α)) :
    separated sep (l :: m :: ls) = l ++ .text sep :: separated sep (m :: ls) := by
  simp [separated, List.intercalate_cons_cons]

@[simp] theorem separated_nil (sep : String) : separated sep ([] : List (Layout α)) = [] := rfl

@[simp] theorem separated_singleton (sep : String) (l : Layout α) : separated sep [l] = l := by
  simp [separated]

@[simp] theorem holes_separated (sep : String) (ls : List (Layout α)) :
    holes (separated sep ls) = ls.flatMap holes := by
  induction ls with
  | nil => rfl
  | cons l ls ih =>
      cases ls with
      | nil => simp
      | cons m ls => simp [separated_cons, ih]

/-! ## Filling -/

section Filling

variable (mark : Nat → α → String)

@[simp] theorem fill_nil (k : Nat) : fill mark k [] = "" := rfl

@[simp] theorem fill_text (k : Nat) (t : String) (l : Layout α) :
    fill mark k (.text t :: l) = t ++ fill mark k l := rfl

@[simp] theorem fill_hole (k : Nat) (a : α) (l : Layout α) :
    fill mark k (.hole a :: l) = mark (k + 1) a ++ fill mark (k + 1) l := rfl

theorem fill_append (k : Nat) (l m : Layout α) :
    fill mark k (l ++ m) = fill mark k l ++ fill mark (k + l.holes.length) m := by
  induction l generalizing k with
  | nil => simp
  | cons f l ih =>
      cases f with
      | text t => simp [ih, String.append_assoc]
      | hole a =>
          have hk : k + ((holes l).length + 1) = k + 1 + (holes l).length := by omega
          simp [ih, hk, String.append_assoc]

@[simp] theorem fillAll_nil (k : Nat) : fillAll mark k ([] : List (Layout α)) = [] := rfl

@[simp] theorem fillAll_cons (k : Nat) (l : Layout α) (ls : List (Layout α)) :
    fillAll mark k (l :: ls) = fill mark k l :: fillAll mark (k + l.holes.length) ls := rfl

theorem fill_separated (k : Nat) (sep : String) (ls : List (Layout α)) :
    fill mark k (separated sep ls) = sep.intercalate (fillAll mark k ls) := by
  induction ls generalizing k with
  | nil => simp
  | cons l ls ih =>
      cases ls with
      | nil => simp
      | cons m ls =>
          rw [separated_cons, fill_append, fill_text, ih, fillAll_cons mark k l,
            String.intercalate_cons_of_ne_nil (by simp), String.append_assoc]

end Filling

/-- A filling depends only on the marks of the holes that the layout has. -/
theorem fill_congr {mark mark' : Nat → α → String} (l : Layout α) (k k' : Nat)
    (same : ∀ i < l.holes.length, ∀ a, mark (k + i + 1) a = mark' (k' + i + 1) a) :
    l.fill mark k = l.fill mark' k' := by
  induction l generalizing k k' with
  | nil => rfl
  | cons f l ih =>
      cases f with
      | text t => rw [fill_text, fill_text, ih k k' same]
      | hole a =>
          have first : mark (k + 1) a = mark' (k' + 1) a := same 0 (by simp) a
          have others : ∀ i < (holes l).length, ∀ b,
              mark (k + 1 + i + 1) b = mark' (k' + 1 + i + 1) b := by
            intro i hi b
            have h := same (i + 1) (by simpa using hi) b
            rwa [show k + (i + 1) = k + 1 + i by omega,
              show k' + (i + 1) = k' + 1 + i by omega] at h
          rw [fill_hole, fill_hole, first, ih (k + 1) (k' + 1) others]

/-- A layout that is filled behind `m` holes has every number raised by `m`. -/
theorem fill_behind (mark : Nat → α → String) (m : Nat) (l : Layout α) :
    l.fill mark m = l.fill (fun k => mark (k + m)) 0 := by
  apply fill_congr
  intro i _ a
  rw [Nat.zero_add, Nat.add_assoc, Nat.add_comm m]

theorem fillAll_congr {mark mark' : Nat → α → String} (ls : List (Layout α)) (k k' : Nat)
    (same : ∀ i a, mark (k + i + 1) a = mark' (k' + i + 1) a) :
    fillAll mark k ls = fillAll mark' k' ls := by
  induction ls generalizing k k' with
  | nil => rfl
  | cons l ls ih =>
      have others : ∀ i a, mark (k + l.holes.length + i + 1) a =
          mark' (k' + l.holes.length + i + 1) a := by
        intro i a
        have h := same (l.holes.length + i) a
        rwa [← Nat.add_assoc, ← Nat.add_assoc] at h
      rw [fillAll_cons, fillAll_cons, fill_congr l k k' (fun i _ a => same i a), ih _ _ others]

/-! ## Other holes -/

/-- The layout with something else in its holes. -/
def mapHoles {α β : Type} (f : α → β) (l : Layout α) : Layout β :=
  l.map fun
    | .text t => .text t
    | .hole a => .hole (f a)

section MapHoles

variable {α β : Type} (f : α → β)

@[simp] theorem mapHoles_nil : mapHoles f [] = [] := rfl

@[simp] theorem mapHoles_text (t : String) (l : Layout α) :
    mapHoles f (.text t :: l) = .text t :: mapHoles f l := rfl

@[simp] theorem mapHoles_hole (a : α) (l : Layout α) :
    mapHoles f (.hole a :: l) = .hole (f a) :: mapHoles f l := rfl

@[simp] theorem mapHoles_append (l m : Layout α) :
    mapHoles f (l ++ m) = mapHoles f l ++ mapHoles f m := List.map_append

theorem mapHoles_separated (sep : String) (ls : List (Layout α)) :
    mapHoles f (separated sep ls) = separated sep (ls.map (mapHoles f)) := by
  induction ls with
  | nil => rfl
  | cons l ls ih =>
      cases ls with
      | nil => simp
      | cons m ls =>
          rw [separated_cons, mapHoles_append, mapHoles_text, ih]
          exact (separated_cons sep _ _ _).symm

theorem mapHoles_id (l : Layout α) : mapHoles id l = l := by
  induction l with
  | nil => rfl
  | cons part l ih => cases part <;> simp [ih]

theorem mapHoles_mapHoles {γ : Type} (g : β → γ) (l : Layout α) :
    mapHoles g (mapHoles f l) = mapHoles (g ∘ f) l := by
  induction l with
  | nil => rfl
  | cons part l ih => cases part <;> simp [ih]

@[simp] theorem holes_mapHoles (l : Layout α) : holes (mapHoles f l) = (holes l).map f := by
  induction l with
  | nil => rfl
  | cons part l ih => cases part <;> simp [ih]

/-- A mark that looks at what is put into a hole may as well look through it. -/
theorem fill_mapHoles (mark : Nat → β → String) (k : Nat) (l : Layout α) :
    fill mark k (mapHoles f l) = fill (fun i a => mark i (f a)) k l := by
  induction l generalizing k with
  | nil => rfl
  | cons part l ih => cases part <;> simp [ih]

theorem mapHoles_separated_holes (sep : String) (items : List α) :
    mapHoles f (separated sep (items.map ([.hole ·]))) =
      separated sep ((items.map f).map ([.hole ·])) := by
  rw [mapHoles_separated, List.map_map, List.map_map]
  rfl

end MapHoles

/-! ## Blank layouts -/

@[simp] theorem blank_append (l m : Layout α) : blank (l ++ m) = blank l ++ blank m := by
  simp [blank]

@[simp] theorem blank_cons (f : Fragment α) (l : Layout α) :
    blank (f :: l) = f.blank :: blank l := rfl

theorem blank_eq_mapHoles : (blank : Layout α → Layout Unit) = mapHoles fun _ => () := by
  funext l
  apply List.map_congr_left
  intro f _
  cases f <;> rfl

theorem blank_separated (sep : String) (ls : List (Layout α)) :
    blank (separated sep ls) = separated sep (ls.map blank) := by
  rw [blank_eq_mapHoles, mapHoles_separated]

theorem length_holes_blank (l : Layout α) : l.blank.holes.length = l.holes.length := by
  rw [blank_eq_mapHoles, holes_mapHoles, List.length_map]

/-- Marks that do not look at the scalars are the same for all scalars. -/
theorem fill_blank (number : Nat → String) (k : Nat) (l : Layout α) :
    l.blank.fill (fun i _ => number i) k = l.fill (fun i _ => number i) k := by
  rw [blank_eq_mapHoles, fill_mapHoles]

end Layout

end SqlAssembly
