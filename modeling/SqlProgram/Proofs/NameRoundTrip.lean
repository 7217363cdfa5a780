import SqlProgram.Field.Basic
import SqlProgram.Proofs.NameGrammar

/-!
Names there and back: which texts are names, and that neither reading nor writing, taking apart or
making a field of a name changes it.
-/

namespace SqlProgram

theorem Ident.exists_parse_iff (text : String) :
    (∃ ident, parse text = .ok ident) ↔ NameForm text.toList := by
  constructor
  · rintro ⟨ident, found⟩
    rw [← text_of_parse found, Ident.text, String.toList_ofList]
    exact ident.form_chars
  · intro form
    obtain ⟨ident, same⟩ := exists_of_form form
    have written : ident.text = text := by rw [Ident.text, same, String.ofList_toList]
    exact ⟨ident, written ▸ ident.parse_text⟩

theorem Ident.quoted_eq {name : String} (filled : name ≠ "") (clean : '\x00' ∉ name.toList) :
    ∃ quotable, quoted name = .ok (ofSegment (.quoted name quotable)) := by
  have quotable : isQuotable name.toList = true :=
    isQuotable_iff.mpr ⟨fun empty => filled (String.toList_eq_nil_iff.mp empty), clean⟩
  refine ⟨quotable, ?_⟩
  rw [quoted, Segment.ofQuoted, dif_pos quotable]
  rfl

theorem Field.text_ofIdent (type : ValueType) (ident : Ident) : (ofIdent type ident).text = ident.text := by
  have same : (Expr.ofIdent ident).chars = ident.chars := by
    unfold Expr.ofIdent
    cases split : ident.qualifier? with
    | some table => exact (Ident.split_of_qualifier? split).2.symm
    | none =>
      obtain ⟨qualifiers, last⟩ := ident
      obtain rfl : qualifiers = [] := by
        unfold Ident.qualifier? at split
        split at split
        next none => exact List.getLast?_eq_none_iff.mp none
        next => cases split
      rfl
  rw [Field.text, ofIdent, same, Ident.text]

/-- A text is a name exactly if it has the form of one, and it is written as it was read. Whatever a name
comes from, its text is read back as the same segments. -/
theorem Ident.parse_round_trip :
    (∀ text, (∃ ident, parse text = .ok ident) ↔ NameForm text.toList) ∧
      (∀ text ident, parse text = .ok ident → ident.text = text) ∧
      (∀ ident, parse ident.text = .ok ident) ∧
      (∀ name, name ≠ "" → '\x00' ∉ name.toList →
        ∃ quotable, quoted name = .ok (ofSegment (.quoted name quotable))) ∧
      (∀ ident table : Ident, ident.qualifier? = some table → ident.segments = table.segments ++ [ident.last]) ∧
      ∀ type text, ((∃ field, Field.of type text = .ok field) ↔ NameForm text.toList) ∧
        ∀ field, Field.of type text = .ok field → field.text = text := by
  refine ⟨exists_parse_iff, fun _ _ => text_of_parse, parse_text, fun _ => quoted_eq,
    fun _ _ split => (split_of_qualifier? split).1, fun type text => ⟨?_, fun field found => ?_⟩⟩
  · rw [← exists_parse_iff, Field.of]
    cases parse text with
    | error rejection =>
      constructor <;> rintro ⟨_, impossible⟩
      · cases impossible
      · cases impossible
    | ok ident => exact ⟨fun _ => ⟨ident, rfl⟩, fun _ => ⟨_, rfl⟩⟩
  · rw [Field.of] at found
    cases read : parse text with
    | error rejection => rw [read] at found; cases found
    | ok ident =>
      rw [read] at found
      cases found
      rw [Field.text_ofIdent, text_of_parse read]

/-- A qualified name whose last segment holds a quote, a dot and a placeholder. -/
theorem Ident.parse_round_trip_quote :
    let last : Segment := .quoted "it\".?" (by decide)
    let table : Ident := ofSegment (.plain "_t$1" (by decide))
    let ident : Ident := ⟨table.segments, last⟩
    let text := "_t$1.\"it\"\".?\""
    parse text = .ok ident ∧ NameForm text.toList ∧ ident.text = text ∧
      quoted "it\".?" = .ok (ofSegment last) ∧ ident.segments = table.segments ++ [last] ∧
      ∀ field, Field.of .text text = .ok field → field.text = text := by
  intro last table ident text
  obtain ⟨forms, writes, reads, quotes, splits, fields⟩ := parse_round_trip
  have found : parse text = .ok ident := reads ident
  obtain ⟨_, single⟩ := quotes "it\".?" (by decide) (by decide)
  exact ⟨found, (forms text).mp ⟨ident, found⟩, writes text ident found, single, splits ident table rfl,
    (fields .text text).2⟩

end SqlProgram
