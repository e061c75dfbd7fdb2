import SqlAssembly.Proofs.Identifiers

/-!
# Texts that are identifiers

Which texts are identifiers in quotes: those between whose outer quotes every quote is doubled and
something storable stands. Doubling the quotes of a name and undoubling those of such a text undo
each other, so identifiers and these texts correspond one to one (`Identifier.IsQuoted.sql_eq_iff`).
-/

namespace SqlAssembly.Identifier

/-! ## Between the outer quotes -/

/-- Quotes come in twos, wherever they stand. -/
inductive QuotesDoubled : List Char → Prop where
  | nil : QuotesDoubled []
  | quote {cs : List Char} (others : QuotesDoubled cs) : QuotesDoubled ('"' :: '"' :: cs)
  | plain {c : Char} {cs : List Char} (plain : c ≠ '"') (others : QuotesDoubled cs) :
      QuotesDoubled (c :: cs)

/-- One quote for every two. -/
def undoubled : List Char → List Char
  | [] => []
  | '"' :: '"' :: cs => '"' :: undoubled cs
  | c :: cs => c :: undoubled cs

theorem doubled_quote (cs : List Char) : doubled ('"' :: cs) = '"' :: '"' :: doubled cs := rfl

theorem doubled_plain {c : Char} (plain : c ≠ '"') (cs : List Char) :
    doubled (c :: cs) = c :: doubled cs := by
  rw [doubled, List.flatMap_cons, if_neg plain, List.singleton_append]
  rfl

theorem undoubled_plain {c : Char} (plain : c ≠ '"') (cs : List Char) :
    undoubled (c :: cs) = c :: undoubled cs := by
  rw [undoubled]
  rintro _ rfl
  exact absurd rfl plain

theorem quotesDoubled_doubled (name : List Char) : QuotesDoubled (doubled name) := by
  induction name with
  | nil => exact .nil
  | cons c cs ih =>
      by_cases quote : c = '"'
      · rw [quote, doubled_quote]
        exact .quote ih
      · rw [doubled_plain quote]
        exact .plain quote ih

theorem undoubled_doubled (name : List Char) : undoubled (doubled name) = name := by
  induction name with
  | nil => rfl
  | cons c cs ih =>
      by_cases quote : c = '"'
      · rw [quote, doubled_quote, undoubled, ih]
      · rw [doubled_plain quote, undoubled_plain quote, ih]

theorem QuotesDoubled.doubled_undoubled {body : List Char} (h : QuotesDoubled body) :
    doubled (undoubled body) = body := by
  induction h with
  | nil => rfl
  | quote _ ih => rw [undoubled, doubled_quote, ih]
  | plain plain _ ih => rw [undoubled_plain plain, doubled_plain plain, ih]

theorem mem_doubled_iff {c : Char} {name : List Char} : c ∈ doubled name ↔ c ∈ name := by
  rw [doubled, List.mem_flatMap]
  constructor
  · rintro ⟨d, mem, written⟩
    split at written
    · rename_i quote
      simp_all
    · rwa [List.mem_singleton.mp written]
  · intro mem
    refine ⟨c, mem, ?_⟩
    split
    · rename_i quote
      rw [quote]
      exact List.mem_cons_self
    · exact List.mem_singleton_self c

/-- Text is written for every name but the empty one. -/
theorem doubled_eq_nil_iff {name : List Char} : doubled name = [] ↔ name = [] := by
  rw [List.eq_nil_iff_forall_not_mem, List.eq_nil_iff_forall_not_mem]
  exact forall_congr' fun _ => not_congr mem_doubled_iff

/-! ## With the outer quotes -/

/-- The text is an identifier in quotes, and the body is what stands between them. -/
structure IsQuoted (text : String) (body : List Char) : Prop where
  text_eq : text.toList = '"' :: (body ++ ['"'])
  nonempty : body ≠ []
  no_nul : '\x00' ∉ body
  quotes_doubled : QuotesDoubled body

theorem make_eq_ok_iff {name : String} {id : Identifier} : make name = .ok id ↔ id.name = name := by
  constructor
  · intro accepted
    unfold make at accepted
    split at accepted
    · cases accepted
    · split at accepted
      · cases accepted
      · cases accepted
        rfl
  · rintro rfl
    rw [make, dif_neg id.nonempty, dif_neg id.no_nul]

theorem make_ok_iff {name : String} :
    (∃ id, make name = .ok id) ↔ name ≠ "" ∧ '\x00' ∉ name.toList := by
  constructor
  · rintro ⟨id, accepted⟩
    rw [← make_eq_ok_iff.mp accepted]
    exact ⟨id.nonempty, id.no_nul⟩
  · rintro ⟨nonempty, no_nul⟩
    exact ⟨⟨name, nonempty, no_nul⟩, make_eq_ok_iff.mpr rfl⟩

theorem isQuoted_sql (id : Identifier) : IsQuoted id.sql (doubled id.name.toList) where
  text_eq := id.toList_sql
  nonempty := by
    rw [Ne, doubled_eq_nil_iff, String.toList_eq_nil_iff]
    exact id.nonempty
  no_nul := mt mem_doubled_iff.mp id.no_nul
  quotes_doubled := quotesDoubled_doubled _

namespace IsQuoted

variable {text : String} {body : List Char}

/-- The text is written for an identifier if and only if that is called what undoubling gives. -/
theorem sql_eq_iff (h : IsQuoted text body) (id : Identifier) :
    id.sql = text ↔ id.name = String.ofList (undoubled body) := by
  rw [← String.toList_inj, h.text_eq, toList_sql, List.cons_inj_right, List.append_left_inj]
  constructor
  · intro written
    rw [← written, undoubled_doubled, String.ofList_toList]
  · intro name
    rw [name, String.toList_ofList, h.quotes_doubled.doubled_undoubled]

/-- What undoubling gives can be stored. -/
theorem make_undoubled (h : IsQuoted text body) :
    ∃ id, make (String.ofList (undoubled body)) = .ok id := by
  have written := h.quotes_doubled.doubled_undoubled
  rw [make_ok_iff, String.toList_ofList, Ne, ← String.toList_inj, String.toList_ofList,
    String.toList_empty, ← doubled_eq_nil_iff, ← mem_doubled_iff, written]
  exact ⟨h.nonempty, h.no_nul⟩

end IsQuoted

/-! ## Names and texts -/

/-- Every name but the empty one can be quoted, unless NUL occurs in it. What is written for a name
is an identifier in quotes; a reader takes all of it and nothing more, and finds the name, if no
quote follows. And every text that is an identifier in quotes is written for one name, that which
undoubling its body gives. -/
theorem sql_bijective :
    (∀ name : String, (∃ id, make name = .ok id) ↔ name ≠ "" ∧ '\x00' ∉ name.toList) ∧
      (∀ (name : String) (id : Identifier), make name = .ok id →
        (∃ body, IsQuoted id.sql body) ∧
          ∀ rest : List Char, rest.head? ≠ some '"' →
            read (id.sql.toList ++ rest) = some (name, rest)) ∧
      ∀ (text : String) (body : List Char), IsQuoted text body → ∀ name : String,
        (∃ id, make name = .ok id ∧ id.sql = text) ↔ name = String.ofList (undoubled body) := by
  refine ⟨fun _ => make_ok_iff, fun name id accepted => ?_, fun text body quoted name => ?_⟩
  · refine ⟨⟨_, id.isQuoted_sql⟩, fun rest stop => ?_⟩
    rw [id.read_sql stop, make_eq_ok_iff.mp accepted]
  · constructor
    · rintro ⟨id, accepted, written⟩
      rw [← make_eq_ok_iff.mp accepted]
      exact (quoted.sql_eq_iff id).mp written
    · rintro rfl
      obtain ⟨id, accepted⟩ := quoted.make_undoubled
      exact ⟨id, accepted, (quoted.sql_eq_iff id).mpr (make_eq_ok_iff.mp accepted)⟩

/-- A name of three quotes in front of a point, and a body with a quote at its end. -/
theorem sql_bijective_quotes :
    (∃ id, make "\"\"\"" = .ok id ∧
        read (id.sql.toList ++ ".\"b\"".toList) = some ("\"\"\"", ".\"b\"".toList)) ∧
      ∃ id, make "a\"" = .ok id ∧ id.sql = "\"a\"\"\"" := by
  obtain ⟨accepts, writes, texts⟩ := sql_bijective
  obtain ⟨id, accepted⟩ := (accepts "\"\"\"").mpr ⟨by decide, by decide⟩
  have body : IsQuoted "\"a\"\"\"" ['a', '"', '"'] :=
    ⟨by decide, by decide, by decide, .plain (by decide) (.quote .nil)⟩
  exact ⟨⟨id, accepted, (writes _ id accepted).2 _ (by decide)⟩, (texts _ _ body "a\"").mpr rfl⟩

end SqlAssembly.Identifier
