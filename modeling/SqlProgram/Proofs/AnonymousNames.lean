import SqlProgram.Proofs.AlikeTexts
import SqlProgram.Proofs.NameRoundTrip

/-!
Names, expressions and tables with every quoted name and every text literal replaced by a fixed one. Two that are
then the same are written alike, and a name that was read stays one when its quoted segments are replaced.
-/

namespace SqlProgram

open Placeholder

def Segment.anonymous : Segment → Segment
  | .plain name word => .plain name word
  | .quoted _ _ => .quoted "a" (by decide)

def Ident.anonymous (ident : Ident) : Ident := ⟨ident.qualifiers.map Segment.anonymous, ident.last.anonymous⟩

def Value.anonymous : Value → Value
  | .text _ => .text ""
  | value => value

namespace Expr

def anonymous : Expr → Expr
  | .column name => .column name.anonymous
  | .qualified table name => .qualified table.anonymous name.anonymous
  | .aggregate function argument => .aggregate function argument.anonymous
  | .coalesce argument default => .coalesce argument.anonymous default.anonymous
  | .renamed expr name => .renamed expr.anonymous name.anonymous

end Expr

def Field.anonymous (field : Field) : Field := { field with expr := field.expr.anonymous }

def Table.anonymous (table : Table) : Table :=
  ⟨table.name.anonymous, table.seenAs.map Ident.anonymous, table.fields.map Field.anonymous⟩

/-! What is written is written alike. -/

theorem Segment.alike_anonymous (segment : Segment) : Alike segment.chars segment.anonymous.chars := by
  cases segment with
  | plain name word => exact .refl (Segment.chars_holds (.plain name word)).closed
  | quoted name quotable => exact .enclose .double _ _

theorem Ident.alike_anonymous (ident : Ident) : Alike ident.chars ident.anonymous.chars := by
  obtain ⟨qualifiers, last⟩ := ident
  induction qualifiers with
  | nil => exact last.alike_anonymous
  | cons segment rest ih =>
    have dotted : Alike ['.'] ['.'] := .refl rfl
    exact segment.alike_anonymous.append (dotted.append ih)

theorem Value.alike_anonymous (value : Value) : Alike value.literal value.anonymous.literal := by
  cases value with
  | text text => exact .enclose .single _ _
  | _ => exact .refl (Value.literal_holds _).closed

namespace Expr

theorem alike_anonymous (expr : Expr) : Alike expr.chars expr.anonymous.chars := by
  induction expr with
  | column name => exact name.alike_anonymous
  | qualified table name =>
    have dotted : Alike ['.'] ['.'] := .refl rfl
    exact table.alike_anonymous.append (dotted.append name.alike_anonymous)
  | aggregate function argument ih =>
    have opening : openAfter none (function.name.toList ++ ['(']) = none := by cases function <;> decide
    have closing : openAfter none [')'] = none := rfl
    have enclosed := ih.between opening closing
    simpa only [chars, anonymous, call, List.append_assoc, List.singleton_append] using enclosed
  | coalesce argument default ih =>
    have separated : Alike [',', ' '] [',', ' '] := .refl rfl
    have arguments := ih.append (separated.append default.alike_anonymous)
    have opening : openAfter none "coalesce(".toList = none := by decide
    have closing : openAfter none [')'] = none := rfl
    have enclosed := arguments.between opening closing
    simpa [chars, anonymous, call] using enclosed
  | renamed expr name ih =>
    have word : Alike " as ".toList " as ".toList := .refl (by decide)
    exact (ih.append word).append name.alike_anonymous

theorem alike_bare_anonymous (expr : Expr) : Alike expr.bareChars expr.anonymous.bareChars := by
  induction expr with
  | column name | qualified _ name => exact name.alike_anonymous
  | aggregate function argument => exact (aggregate function argument).alike_anonymous
  | coalesce argument default => exact (coalesce argument default).alike_anonymous
  | renamed expr name ih => exact ih

/-! What is made of anonymous parts is anonymous itself. -/

theorem anonymous_qualifiedBy (table : Ident) (expr : Expr) :
    (expr.qualifiedBy table).anonymous = expr.anonymous.qualifiedBy table.anonymous := by
  induction expr with
  | column name | qualified _ name => rfl
  | aggregate function argument ih => exact congrArg (aggregate function) ih
  | coalesce argument default ih => exact congrArg (coalesce · default.anonymous) ih
  | renamed expr name ih => exact congrArg (renamed · name.anonymous) ih

theorem anonymous_ofIdent (ident : Ident) : (ofIdent ident).anonymous = ofIdent ident.anonymous := by
  obtain ⟨qualifiers, last⟩ := ident
  simp only [ofIdent, Ident.qualifier?, Ident.anonymous, List.getLast?_map]
  cases qualifiers.getLast? with
  | none => rfl
  | some segment => simp [anonymous, Ident.anonymous, List.map_dropLast]

end Expr

theorem Field.anonymous_qualifiedBy (table : Ident) (field : Field) :
    (field.qualifiedBy table).anonymous = field.anonymous.qualifiedBy table.anonymous :=
  congrArg (Field.mk · field.type) (field.expr.anonymous_qualifiedBy table)

namespace Table

theorem alike_anonymous (table : Table) : Alike table.referenceChars table.anonymous.referenceChars := by
  obtain ⟨name, seenAs, fields⟩ := table
  cases seenAs with
  | none => exact name.alike_anonymous
  | some other =>
    have word : Alike " as ".toList " as ".toList := .refl (by decide)
    exact (name.alike_anonymous.append word).append other.alike_anonymous

theorem anonymous_asAlias (table : Table) (name : Ident) :
    (table.asAlias name).anonymous = table.anonymous.asAlias name.anonymous := by
  simp [anonymous, asAlias, Field.anonymous_qualifiedBy]

theorem anonymous_qualified (table : Table) : table.qualified.anonymous = table.anonymous.qualified := by
  have seen : (table.seenAs.map Ident.anonymous).getD table.name.anonymous =
      (table.seenAs.getD table.name).anonymous := by
    cases table.seenAs <;> rfl
  simp [anonymous, qualified, Field.anonymous_qualifiedBy, seen]

end Table

/-! Names that are read. -/

namespace Segment

def tokens : Segment → List Token
  | .plain name _ => name.toList.map .char
  | .quoted name _ => [.quoted .double name.toList]

theorem tokens_append (segment : Segment) {tail : List Char} (ends : tail = [] ∨ tail.head? = some '.') :
    SqlProgram.tokens (segment.chars ++ tail) = segment.tokens ++ SqlProgram.tokens tail := by
  cases segment with
  | plain name word =>
    have plain (text : List Char) (unquoted : ∀ c ∈ text, Quote.ofChar? c = none) :
        SqlProgram.tokens (text ++ tail) = text.map .char ++ SqlProgram.tokens tail := by
      induction text with
      | nil => rfl
      | cons c rest ih =>
        rw [List.cons_append, tokens_plain (unquoted c (List.mem_cons_self ..)),
          ih fun d member => unquoted d (List.mem_cons_of_mem _ member)]
        rfl
    obtain ⟨c, rest, same, _, parts⟩ := plain_chars word
    refine plain name.toList fun d member => ?_
    have part : isPlain d := isPlain_of (by decide) (parts d (same ▸ member))
    exact step_plain part
  | quoted name quotable =>
    refine tokens_enclose .double name.toList ?_
    rcases ends with rfl | dot
    · decide
    · rw [dot]
      decide

theorem exists_of_like {segment : Segment} {others : List Token}
    (like : List.Forall₂ Token.Like segment.tokens others) :
    ∃ other : Segment, others = other.tokens ∧ segment.anonymous = other.anonymous := by
  cases segment with
  | plain name word =>
    have unchanged (text : List Char) (others : List Token)
        (like : List.Forall₂ Token.Like (text.map .char) others) : others = text.map .char := by
      induction text generalizing others with
      | nil => cases like; rfl
      | cons c rest ih =>
        obtain ⟨_, _, one, later, rfl⟩ := List.forall₂_cons_left_iff.mp like
        cases one
        rw [ih _ later]
        rfl
    exact ⟨.plain name word, unchanged _ _ like, rfl⟩
  | quoted name quotable =>
    obtain ⟨_, _, one, later, rfl⟩ := List.forall₂_cons_left_iff.mp like
    cases later
    cases one with
    | same => exact ⟨.quoted name quotable, rfl, rfl⟩
    | @names _ second _ two =>
      exact ⟨.quoted (String.ofList second) (by simpa using two), by simp [tokens], rfl⟩

end Segment

namespace Ident

theorem exists_of_like {ident : Ident} {others : List Token}
    (like : List.Forall₂ Token.Like (tokens ident.chars) others) :
    ∃ other : Ident, others = tokens other.chars ∧ ident.anonymous = other.anonymous := by
  obtain ⟨qualifiers, last⟩ := ident
  have single (segment : Segment) : tokens segment.chars = segment.tokens := by
    simpa [tokens] using segment.tokens_append (.inl rfl)
  have dotted (segment : Segment) (rest : List Char) :
      tokens (segment.chars ++ '.' :: rest) = segment.tokens ++ .char '.' :: tokens rest := by
    rw [segment.tokens_append (.inr rfl), tokens_plain rfl]
  induction qualifiers generalizing others with
  | nil =>
    have alone : tokens (Ident.chars ⟨[], last⟩) = last.tokens := single last
    rw [alone] at like
    obtain ⟨other, rfl, same⟩ := Segment.exists_of_like like
    exact ⟨⟨[], other⟩, (single other).symm, congrArg (Ident.mk []) same⟩
  | cons segment qualifiers ih =>
    have split : tokens (Ident.chars ⟨segment :: qualifiers, last⟩) =
        segment.tokens ++ .char '.' :: tokens (Ident.chars ⟨qualifiers, last⟩) := dotted segment _
    rw [split] at like
    have first := List.forall₂_take segment.tokens.length like
    have later := List.forall₂_drop segment.tokens.length like
    rw [List.take_left] at first
    rw [List.drop_left] at later
    rw [← List.take_append_drop segment.tokens.length others]
    obtain ⟨_, _, dot, remaining, rest⟩ := List.forall₂_cons_left_iff.mp later
    rw [rest]
    cases dot
    obtain ⟨one, front, sameFirst⟩ := Segment.exists_of_like first
    obtain ⟨other, rfl, sameRest⟩ := ih remaining
    rw [front]
    refine ⟨⟨one :: other.qualifiers, other.last⟩, (dotted one _).symm, ?_⟩
    rw [Ident.anonymous, Ident.mk.injEq] at sameRest
    simp only [Ident.anonymous, List.map_cons, sameFirst, sameRest.1, sameRest.2]

/-- Whether a text is a name does not depend on the names in its quotes. -/
theorem parse_of_like {first second : String} (same : SameButNames first second) {ident : Ident}
    (found : parse first = .ok ident) : ∃ other, parse second = .ok other ∧ ident.anonymous = other.anonymous := by
  have read : first.toList = ident.chars := by
    rw [← text_of_parse found, Ident.text, String.toList_ofList]
  rw [SameButNames, read] at same
  obtain ⟨other, equal, alike⟩ := exists_of_like same
  have written : second = other.text := by
    rw [Ident.text, ← flatMap_chars_tokens other.chars, ← equal, flatMap_chars_tokens, String.ofList_toList]
  exact ⟨other, written ▸ other.parse_text, alike⟩

end Ident

end SqlProgram
