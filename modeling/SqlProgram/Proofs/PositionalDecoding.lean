import SqlProgram.Proofs.FieldPositions

/-!
Rows that list the columns of a field list in its order. Each field decodes the value at its place
exactly if no column disturbs it; a column that differs from it only in case may.
-/

namespace SqlProgram

namespace FieldValues

/-- What the given values stand for, each by the type of the field at its place. -/
def Decodes : (fields : List Field) → List Value → FieldValues fields → Prop
  | [], [], _ => True
  | field :: rest, value :: values, (decoded, others) =>
    field.type.decode value = .ok decoded ∧ Decodes rest values others
  | _, _, _ => False

/-- Fields that are found at their places decode the values there; `offset` fields went before. -/
theorem decode_of_indexIn {row : Row} {fields : List Field} (offset : Nat)
    (found : ∀ index field, fields[index]? = some field → field.indexIn row.layout = some (offset + index))
    {values : FieldValues fields} (decodes : Decodes fields (row.values.drop offset) values) :
    decode row fields = .ok values := by
  induction fields generalizing offset with
  | nil => rfl
  | cons field rest ih =>
    cases given : row.values.drop offset with
    | nil => rw [given] at decodes; exact decodes.elim
    | cons value others =>
      obtain ⟨decoded, more⟩ := values
      rw [given] at decodes
      obtain ⟨here, later⟩ := decodes
      have placed : row.values[offset]? = some value := by
        rw [← List.head?_drop, given]
        rfl
      have left : row.values.drop (offset + 1) = others := by
        rw [← List.tail_drop, given]
        rfl
      have read : row.get field = .ok decoded := by
        rw [Row.get, found 0 field rfl]
        simp only [Nat.add_zero, Row.decodeAt, placed, here]
        rfl
      have rested : decode row rest = .ok more := by
        refine ih (offset + 1) (fun index field member => ?_) (left ▸ later)
        rw [found (index + 1) field member]
        congr 1
        omega
      rw [decode, read, rested]
      rfl

end FieldValues

theorem Field.undisturbed_of_nodup {field : Field} {names : List String} {index : Nat}
    (distinct : (names.map Text.foldCase).Nodup) (placed : names[index]? = some field.resultName) :
    field.Undisturbed names index := by
  obtain ⟨-, exactly⟩ | ⟨-, lowered⟩ := field.expr.names_or
  · exact .inl exactly.symm
  obtain ⟨inside, own⟩ := List.getElem?_eq_some_iff.mp placed
  have only (other : Nat) (name : String) (there : names[other]? = some name)
      (like : Text.foldCase field.label = Text.foldCase name) : other = index := by
    have same : (names.map Text.foldCase)[other]? = (names.map Text.foldCase)[index]? := by
      rw [List.getElem?_map, List.getElem?_map, there, placed, resultName, lowered]
      exact congrArg some (like.symm.trans (Text.foldCase_foldCase _).symm)
    obtain ⟨bound, _⟩ := List.getElem?_eq_some_iff.mp there
    exact (List.getElem?_inj (by simpa using bound) distinct).mp same
  by_cases same : field.label = field.resultName
  · exact .inl same
  refine .inr ⟨fun member => ?_, fun name member => ?_⟩
  · obtain ⟨other, there⟩ := List.getElem?_of_mem member
    cases only other _ there rfl
    rw [placed] at there
    exact same (Option.some.inj there).symm
  · obtain ⟨other, before, rfl⟩ := List.mem_take_iff_getElem.mp member
    refine beq_eq_false_iff_ne.mpr fun like => ?_
    have again := only other _ (List.getElem?_eq_getElem (by omega)) like
    omega

namespace Table

def InPlace (table : Table) (layout : RowLayout) : Prop :=
  ∀ (index : Nat) (field : Field), table.fields[index]? = some field → field.indexIn layout = some index

def Undisturbed (table : Table) (names : List String) : Prop :=
  ∀ (index : Nat) (field : Field), table.fields[index]? = some field → field.Undisturbed names index

/-- Where the columns are those of the table's fields in their order, each field finds its own column
exactly if none disturbs it, as none does that differs in more than case; then each decodes the value at
its place. -/
theorem decode_positional {table : Table} {row : Row} (distinct : (table.fields.map Field.resultName).Nodup)
    (laid : row.layout.names = table.fields.map Field.resultName) :
    (table.InPlace row.layout ↔ table.Undisturbed row.layout.names) ∧
      ((row.layout.names.map Text.foldCase).Nodup → table.Undisturbed row.layout.names) ∧
      (table.Undisturbed row.layout.names → ∀ values, FieldValues.Decodes table.fields row.values values →
        table.decode row = .ok values) := by
  have placed (index : Nat) (field : Field) (there : table.fields[index]? = some field) :
      row.layout.names[index]? = some field.resultName := by
    rw [laid, List.getElem?_map, there]
    rfl
  have finds (index : Nat) (field : Field) (there : table.fields[index]? = some field) :
      field.indexIn row.layout = some index ↔ field.Undisturbed row.layout.names index :=
    Field.indexIn_eq_iff (laid ▸ distinct) (placed index field there)
  refine ⟨forall₃_congr finds, ?_, ?_⟩
  · exact fun folded index field there => Field.undisturbed_of_nodup folded (placed index field there)
  · intro undisturbed values decodes
    refine FieldValues.decode_of_indexIn 0 (fun index field there => ?_) decodes
    rw [Nat.zero_add]
    exact (finds index field there).mpr (undisturbed index field there)

/-- A word in capitals, a quoted name that differs from another in its case only, and a count. -/
theorem decode_positional_mixed :
    let id : Field := .ofIdent .int64 ⟨[.plain "t" (by decide)], .plain "ID" (by decide)⟩
    let upper : Field := .ofIdent .text ⟨[], .quoted "Name" (by decide)⟩
    let lower : Field := .ofIdent .text ⟨[], .plain "name" (by decide)⟩
    let table : Table := .ofFields ⟨[], .plain "t" (by decide)⟩ [id, upper, id.aggregate .count, lower]
    let columns := ["id", "Name", "count", "name"].map fun name => ColumnInfo.mk name "" none
    let row : Row := ⟨⟨columns⟩, [.int 7, .text "A", .int 2, .text "a"], rfl⟩
    table.Undisturbed row.layout.names ∧ table.InPlace row.layout ∧
      table.decode row = .ok ((7 : Int64), "A", (2 : Int64), "a", ()) := by
  intro id upper lower table columns row
  have distinct : (table.fields.map Field.resultName).Nodup := by decide
  have laid : row.layout.names = table.fields.map Field.resultName := by decide
  obtain ⟨places, -, decodes⟩ := decode_positional distinct laid
  have undisturbed : table.Undisturbed row.layout.names := by
    intro index field there
    match index with
    | 0 =>
      cases there
      exact .inr (by decide)
    | 1 =>
      cases there
      exact .inl (by decide)
    | 2 =>
      cases there
      exact .inl (by decide)
    | 3 =>
      cases there
      exact .inl (by decide)
    | _ + 4 => cases there
  exact ⟨undisturbed, places.mpr undisturbed, decodes undisturbed _ ⟨rfl, rfl, rfl, rfl, trivial⟩⟩

/-- A word in mixed case is taken for a column that is spelled as it, though its own is in lower case. -/
theorem decode_not_positional :
    ¬ ∀ (table : Table) (row : Row) (values : FieldValues table.fields),
      (table.fields.map Field.resultName).Nodup → row.layout.names = table.fields.map Field.resultName →
        FieldValues.Decodes table.fields row.values values → table.decode row = .ok values := by
  intro positional
  let plain : Field := .ofIdent .text ⟨[], .plain "Name" (by decide)⟩
  let quoted : Field := .ofIdent .text ⟨[], .quoted "Name" (by decide)⟩
  let table : Table := .ofFields ⟨[], .plain "t" (by decide)⟩ [plain, quoted]
  let row : Row := ⟨⟨[⟨"name", "", none⟩, ⟨"Name", "", none⟩]⟩, [.text "a", .text "A"], rfl⟩
  have own := positional table row ("a", "A", ()) (by decide) (by decide) ⟨rfl, rfl, trivial⟩
  have other : table.decode row = .ok ("A", "A", ()) := rfl
  have same : "a" = "A" := congrArg Prod.fst (Except.ok.inj (own.symm.trans other))
  exact absurd same (by decide)

end Table

end SqlProgram
