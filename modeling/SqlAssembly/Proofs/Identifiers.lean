import Mathlib.Data.List.Basic
import SqlAssembly.Identifier

/-!
# Reading identifiers back

A reader of quoted identifiers takes two quotes for one and stops at the first quote that stands
alone. It finds the name that was written, whatever the name is, if no quote follows
(`Identifier.read_sql`). A table is read by the same reader, and its alias too if there is one:
neither can be taken for the other, nor for what follows (`TableReference.read_sql`).
-/

namespace SqlAssembly

namespace Identifier

/-- What is left of the name behind its opening quote, and the text behind the closing one. -/
def readBody : List Char → Option (List Char × List Char)
  | [] => none
  | '"' :: '"' :: cs => (readBody cs).map fun (name, rest) => ('"' :: name, rest)
  | '"' :: cs => some ([], cs)
  | c :: cs => (readBody cs).map fun (name, rest) => (c :: name, rest)

/-- The quoted identifier that the text begins with, and the text behind it. -/
def read : List Char → Option (String × List Char)
  | '"' :: cs => (readBody cs).map fun (name, rest) => (String.ofList name, rest)
  | _ => none

theorem readBody_doubled (name : List Char) {rest : List Char} (stop : rest.head? ≠ some '"') :
    readBody (doubled name ++ '"' :: rest) = some (name, rest) := by
  induction name with
  | nil =>
      cases rest with
      | nil => rfl
      | cons c rest =>
          have other : c ≠ '"' := by simpa using stop
          rw [doubled, List.flatMap_nil, List.nil_append, readBody]
          rintro cs ⟨⟩
          exact other rfl
  | cons c name ih =>
      rw [doubled] at ih ⊢
      rw [List.flatMap_cons, List.append_assoc]
      by_cases quote : c = '"'
      · subst quote
        rw [if_pos rfl, List.cons_append, List.singleton_append, readBody, ih]
        rfl
      · rw [if_neg quote, List.singleton_append, readBody, ih]
        · rfl
        · intro cs h
          exact absurd h quote
        · intro h
          exact absurd h quote

/-- An identifier is read as it was written, and nothing more is read. -/
theorem read_sql (id : Identifier) {rest : List Char} (stop : rest.head? ≠ some '"') :
    read (id.sql.toList ++ rest) = some (id.name, rest) := by
  rw [toList_sql, List.cons_append, List.append_assoc, List.singleton_append, read,
    readBody_doubled _ stop, Option.map_some]
  exact congrArg (fun name => some (name, rest)) (String.ofList_toList)

end Identifier

namespace TableReference

/-- What stands between a table and its alias, with the quote that the alias begins with. -/
def aliasMark : List Char := [' ', 'A', 'S', ' ', '"']

/-- The table that the text begins with, its alias if one follows, and the text behind. -/
def read (cs : List Char) : Option ((String × Option String) × List Char) :=
  match Identifier.read cs with
  | none => none
  | some (table, rest) =>
      if aliasMark.isPrefixOf rest then
        (Identifier.read (rest.drop (aliasMark.length - 1))).map fun (aliasName, rest) =>
          ((table, some aliasName), rest)
      else some ((table, none), rest)

/-- Nothing in the text could belong to a table before it. -/
def Stops (rest : List Char) : Prop := rest.head? ≠ some '"' ∧ ¬ aliasMark <+: rest

/-- The raw name, and the raw alias if there is one. -/
def rawNames (t : TableReference) : String × Option String :=
  (t.table.name, t.aliasName.map Identifier.name)

/-- A table and its alias are read as they were written, and nothing more is read. -/
theorem read_sql (t : TableReference) {rest : List Char} (stops : Stops rest) :
    read (t.sql.toList ++ rest) = some (t.rawNames, rest) := by
  cases ha : t.aliasName with
  | none =>
      have table : t.sql = t.table.sql := by simp only [sql, ha]
      have noAlias : ¬ aliasMark.isPrefixOf rest = true := by
        rw [List.isPrefixOf_iff_prefix]
        exact stops.2
      simp only [read, table, Identifier.read_sql t.table stops.1, if_neg noAlias, rawNames, ha,
        Option.map_none]
  | some aliasName =>
      let behind := aliasName.sql.toList ++ rest
      have table : t.sql.toList ++ rest =
          t.table.sql.toList ++ (' ' :: 'A' :: 'S' :: ' ' :: behind) := by simp [behind, sql, ha]
      have marked : aliasMark.isPrefixOf (' ' :: 'A' :: 'S' :: ' ' :: behind) = true := by
        simp only [behind, aliasName.toList_sql]
        rfl
      have blank : (' ' :: 'A' :: 'S' :: ' ' :: behind).head? ≠ some '"' := by simp
      have dropped : (' ' :: 'A' :: 'S' :: ' ' :: behind).drop (aliasMark.length - 1) = behind :=
        rfl
      simp only [read, table, Identifier.read_sql t.table blank, if_pos marked, dropped, behind,
        Identifier.read_sql aliasName stops.1, Option.map_some, rawNames, ha]

end TableReference

end SqlAssembly
