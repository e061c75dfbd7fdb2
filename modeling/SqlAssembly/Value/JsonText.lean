import SqlAssembly.Value.Exchange

/-!
# Scalars and values in JSON texts

A text is decoded while it is read, and the first fault in it is the one that counts. A scalar
or a value is decoded as soon as its document is complete, before anything is known of what
follows it; a list of scalars is decoded item by item. So a text whose document does not fit is
unfit even if it goes on with what is no JSON. A text that is well-formed as a whole gives the
same answer as its document.
-/

namespace SqlAssembly

namespace Json

inductive TextFault where
  /-- The text breaks the grammar of JSON. -/
  | malformed
  /-- A document of the text stands for something else. -/
  | unfit
deriving DecidableEq

def finish {α : Type} (x : α) (rest : List Char) : Except TextFault α :=
  if skipSpace rest = [] then .ok x else .error .malformed

section Decoding

variable {α : Type} (round : Rounding) (decode : Json → Option α)

/-- Decodes a whole document, and then looks for the end of the text. -/
def decodeText (text : String) : Except TextFault α :=
  match readFirst round text.toList with
  | none => .error .malformed
  | some (document, rest) =>
      match decode document with
      | none => .error .unfit
      | some x => finish x rest

/-- At least one item, each decoded before the comma or the bracket after it is read. -/
def decodeItems : Nat → (depth : Nat) → List Char → Except TextFault (List α × List Char)
  | 0, _, _ => .error .malformed
  | steps + 1, depth, cs =>
      match readValue round steps depth cs with
      | none => .error .malformed
      | some (document, rest) =>
          match decode document with
          | none => .error .unfit
          | some x =>
              match skipSpace rest with
              | ']' :: rest => .ok ([x], rest)
              | ',' :: rest =>
                  (decodeItems steps depth rest).map fun (xs, rest) => (x :: xs, rest)
              | _ => .error .malformed

/-- Decodes an array item by item. An object is unfit from its first character on, any other
document once it is complete. -/
def decodeArrayText (text : String) : Except TextFault (List α) :=
  match skipSpace text.toList with
  | '[' :: rest =>
      match skipSpace rest with
      | ']' :: rest => finish [] rest
      | rest =>
          match decodeItems round decode (2 * text.toList.length) (maxDepth - 1) rest with
          | .error fault => .error fault
          | .ok (xs, rest) => finish xs rest
  | '\x7b' :: _ => .error .unfit
  | _ =>
      match readFirst round text.toList with
      | none => .error .malformed
      | some _ => .error .unfit

end Decoding

end Json

def Scalar.ofJsonText (text : String) (round : Json.Rounding := .nearest) :
    Except Json.TextFault Scalar :=
  Json.decodeText round Scalar.decode? text

def Scalar.listOfJsonText (text : String) (round : Json.Rounding := .nearest) :
    Except Json.TextFault (List Scalar) :=
  Json.decodeArrayText round Scalar.decode? text

def Value.ofJsonText (text : String) (round : Json.Rounding := .nearest) :
    Except Json.TextFault Value :=
  Json.decodeText round Value.decode? text

/-! ## Well-formed texts -/

namespace Json

def fit {α : Type} (x : Option α) : Except TextFault α :=
  match x with
  | none => .error .unfit
  | some x => .ok x

section Decoding

variable {α : Type} {round : Rounding} (decode : Json → Option α)

/-- A well-formed text is decoded to what its document is decoded to. -/
theorem decodeText_of_read {text : String} {document : Json}
    (h : read text round = some document) :
    decodeText round decode text = fit (decode document) := by
  unfold read at h
  unfold decodeText
  split at h
  · rename_i d rest first
    rw [first]
    split at h
    · rename_i blank
      cases h
      simp only
      cases decode document <;> simp [fit, finish, blank]
    · contradiction
  · contradiction

/-- Items that are all well-formed are decoded to what they are decoded to one by one. -/
theorem decodeItems_of_readItems {steps depth : Nat} {cs rest : List Char} {items : List Json}
    (h : readItems round steps depth cs = some (items, rest)) :
    decodeItems round decode steps depth cs =
      (fit (items.mapM decode)).map fun xs => (xs, rest) := by
  induction steps generalizing cs items with
  | zero => simp [readItems] at h
  | succ steps ih =>
      rw [readItems] at h
      rw [decodeItems]
      cases first : readValue round steps depth cs with
      | none => simp [first] at h
      | some reading =>
          obtain ⟨item, after⟩ := reading
          simp only [first] at h ⊢
          generalize skipSpace after = following at h ⊢
          split at h
          · cases h
            cases fits : decode item <;> simp [fit, fits, Except.map]
          · obtain ⟨⟨others, last⟩, read, same⟩ := Option.map_eq_some_iff.mp h
            cases same
            cases fits : decode item with
            | none => simp [fit, fits, Except.map]
            | some x =>
                simp only [ih read, List.mapM_cons, fits]
                cases others.mapM decode <;> simp [fit, Except.map]
          · contradiction

/-- A word is read as its value, which is no array. -/
theorem items?_of_readWord {word : List Char} {value document : Json} {cs rest : List Char}
    (h : readWord word value cs = some (document, rest)) (plain : value.items? = none) :
    document.items? = none := by
  unfold readWord at h
  split at h
  · cases h
    exact plain
  · contradiction

/-- A well-formed text is decoded to the decoded items of its document, if that is an array. -/
theorem decodeArrayText_of_read {text : String} {document : Json}
    (h : read text round = some document) :
    decodeArrayText round decode text =
      fit (document.items?.bind fun items => items.mapM decode) := by
  unfold read readFirst at h
  unfold decodeArrayText readFirst
  split at h
  · rename_i d rest first
    split at h
    · rename_i blank
      cases h
      rw [first]
      simp only [readValue, maxDepth] at first
      split at first
      · rename_i start
        obtain ⟨⟨s, last⟩, read, same⟩ := Option.map_eq_some_iff.mp first
        cases same
        simp [start, items?, fit]
      · rename_i inside start
        simp only [start]
        generalize skipSpace inside = following at first ⊢
        split at first
        · cases first
          simp [items?, fit, finish, blank]
        · obtain ⟨⟨items, last⟩, read, same⟩ := Option.map_eq_some_iff.mp first
          cases same
          simp only [decodeItems_of_readItems decode read, items?, Option.bind_some, maxDepth]
          cases items.mapM decode <;> simp [fit, finish, blank, Except.map]
      · rename_i start
        simp only [start]
        split at first
        · cases first
          simp [items?, fit]
        · obtain ⟨⟨fields, last⟩, read, same⟩ := Option.map_eq_some_iff.mp first
          cases same
          simp [items?, fit]
      · rename_i start
        simp [start, items?_of_readWord first rfl, fit]
      · rename_i start
        simp [start, items?_of_readWord first rfl, fit]
      · rename_i start
        simp [start, items?_of_readWord first rfl, fit]
      · obtain ⟨⟨n, last⟩, read, same⟩ := Option.map_eq_some_iff.mp first
        cases same
        split
        · simp_all
        · simp [items?, fit]
        · simp [items?, fit]
    · contradiction
  · contradiction

end Decoding

end Json

end SqlAssembly
