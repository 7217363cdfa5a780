import SqlProgram.Proofs.AnonymousNames
import SqlProgram.Proofs.BuilderCalls
import SqlProgram.Proofs.ScannedTokens

/-!
The same calls in two wordings that differ only in quoted names and text defaults. Both are refused by the same call,
or both come to parts that are written alike.
-/

namespace SqlProgram

open Placeholder

/-- Either both answers refuse, or what they accept is related. -/
inductive Both (related : α → β → Prop) : Except Rejection α → Except Rejection β → Prop where
  | accepted (each : related one other) : Both related (.ok one) (.ok other)
  | refused : Both related (.error rejection) (.error reason)

theorem Both.map {related : α → β → Prop} {outcome : γ → δ → Prop} {f : α → γ} {g : β → δ}
    {first : Except Rejection α} {second : Except Rejection β} (both : Both related first second)
    (each : ∀ one other, related one other → outcome (f one) (g other)) :
    Both outcome (first.map f) (second.map g) := by
  cases both with
  | accepted same => exact .accepted (each _ _ same)
  | refused => exact .refused

/-- From the same call on, both are refused at the same call, or what they come to is related. -/
def Agree (related : α → β → Prop) (first : Building α) (second : Building β) : Prop :=
  ∀ made, Both related (first made).1 (second made).1 ∧ (first made).2 = (second made).2

namespace Agree

theorem pure {related : α → β → Prop} {one : α} {other : β} (same : related one other) :
    Agree related (pure one) (pure other) :=
  fun _ => ⟨.accepted same, rfl⟩

theorem call {related : α → β → Prop} {first : Except Rejection α} {second : Except Rejection β}
    (both : Both related first second) : Agree related (call first) (call second) :=
  fun _ => ⟨both, rfl⟩

theorem bind {related : α → β → Prop} {outcome : γ → δ → Prop} {first : Building α} {second : Building β}
    {next : α → Building γ} {later : β → Building δ} (agree : Agree related first second)
    (each : ∀ one other, related one other → Agree outcome (next one) (later other)) :
    Agree outcome (first >>= next) (second >>= later) := by
  intro made
  simp only [Bind.bind]
  obtain ⟨both, calls⟩ := agree made
  revert both calls
  rcases first made with ⟨answer, count⟩
  rcases second made with ⟨reply, others⟩
  rintro both rfl
  cases both with
  | accepted same => exact each _ _ same count
  | refused => exact ⟨.refused, rfl⟩

theorem map {related : α → β → Prop} {outcome : γ → δ → Prop} {first : Building α} {second : Building β}
    {f : α → γ} {g : β → δ} (agree : Agree related first second)
    (each : ∀ one other, related one other → outcome (f one) (g other)) :
    Agree outcome (do return f (← first)) (do return g (← second)) :=
  agree.bind fun one other same => .pure (each one other same)

end Agree

/-! Texts that callers supply. -/

theorem Token.Like.symm {first second : Token} (like : first.Like second) : second.Like first := by
  cases like with
  | same => exact .same first
  | names one two => exact .names two one

theorem Token.Like.blank {first second : Token} (like : first.Like second) :
    first.chars.all Text.isBlank = second.chars.all Text.isBlank := by
  cases like with
  | same => rfl
  | names one two =>
    have quote : Text.isBlank Quote.double.mark = false := by decide
    simp [chars, Text.Quoted.enclose, quote]

namespace SameButNames

theorem refl (text : String) : SameButNames text text := List.forall₂_same.mpr fun token _ => .same token

theorem symm {first second : String} (same : SameButNames first second) : SameButNames second first :=
  List.Forall₂.flip (same.imp fun _ _ => Token.Like.symm)

theorem blank {first second : String} (same : SameButNames first second) :
    Text.isBlankText first = Text.isBlankText second := by
  have each {tokens others : List Token} (like : List.Forall₂ Token.Like tokens others) :
      (tokens.flatMap Token.chars).all Text.isBlank = (others.flatMap Token.chars).all Text.isBlank := by
    induction like with
    | nil => rfl
    | cons one _ ih => simp only [List.flatMap_cons, List.all_append, one.blank, ih]
  have whole := each same
  rw [flatMap_chars_tokens, flatMap_chars_tokens] at whole
  exact whole

theorem closed {first second : String} (same : SameButNames first second)
    (closed : openAfter none first.toList = none) : openAfter none second.toList = none :=
  (openAfter_none_iff _).mpr (closed_of_like same ((openAfter_none_iff _).mp closed))

theorem count {first second : String} (same : SameButNames first second)
    (closed : openAfter none first.toList = none) :
    Placeholder.count none first.toList = Placeholder.count none second.toList := by
  obtain ⟨n, one, other⟩ := holds_of_like same ((openAfter_none_iff _).mp closed)
  rw [flatMap_chars_tokens] at one other
  rw [one.counted, other.counted]

theorem alike {first second : String} (same : SameButNames first second)
    (closed : openAfter none first.toList = none) : Alike first.toList second.toList := by
  have written := Alike.of_tokens same ((openAfter_none_iff _).mp closed)
  rwa [flatMap_chars_tokens, flatMap_chars_tokens] at written

end SameButNames

namespace Fragment

variable {n : Nat} {first second : String} (same : SameButNames first second)
include same

theorem check_agrees (miscounted miscount : Nat → Rejection) :
    Both (fun one other : Fragment n => Alike one.text.toList other.text.toList)
      (check n miscounted first) (check n miscount second) := by
  by_cases right : openAfter none first.toList = none ∧ count none first.toList = n
  · obtain ⟨closed, counted⟩ := right
    have others : count none second.toList = n := (same.count closed).symm.trans counted
    rw [check_accepted miscounted closed counted, check_accepted miscount (same.closed closed) others]
    exact .accepted (same.alike closed)
  · have wrong : ¬(openAfter none second.toList = none ∧ count none second.toList = n) := by
      rintro ⟨closed, counted⟩
      exact right ⟨same.symm.closed closed, (same.symm.count closed).symm.trans counted⟩
    obtain ⟨rejection, refused⟩ := check_refused miscounted right
    obtain ⟨reason, rejected⟩ := check_refused miscount wrong
    rw [refused, rejected]
    exact .refused

theorem checkFilled_agrees (blank : Rejection) (miscounted miscount : Nat → Rejection) :
    Both (fun one other : Fragment n => Alike one.text.toList other.text.toList)
      (checkFilled n blank miscounted first) (checkFilled n blank miscount second) := by
  unfold checkFilled
  rw [same.blank]
  cases Text.isBlankText second with
  | true => exact .refused
  | false => exact check_agrees same miscounted miscount

end Fragment

namespace Ident

def Twin (one other : Ident) : Prop := one.anonymous = other.anonymous

theorem parse_agrees {first second : String} (same : SameButNames first second) :
    Both Twin (parse first) (parse second) := by
  cases found : parse first with
  | ok ident =>
    obtain ⟨other, read, alike⟩ := parse_of_like same found
    rw [read]
    exact .accepted alike
  | error rejection =>
    cases read : parse second with
    | ok other =>
      obtain ⟨ident, accepted, _⟩ := parse_of_like same.symm read
      rw [found] at accepted
      cases accepted
    | error reason => exact .refused

theorem quoted_agrees {first second : String}
    (same : first = second ∨ isQuotable first.toList ∧ isQuotable second.toList) :
    Both Twin (quoted first) (quoted second) := by
  rcases same with rfl | ⟨one, other⟩
  · cases quoted first with
    | ok ident => exact .accepted rfl
    | error rejection => exact .refused
  · rw [quoted, quoted, Segment.ofQuoted, Segment.ofQuoted, dif_pos one, dif_pos other]
    exact .accepted rfl

end Ident

/-- Wordings that differ only in quoted names and in defaults of text fields. -/
structure Wording.SameButQuoted {Gap : Type} (first second : Wording Gap) : Prop where
  texts : ∀ gap, SameButNames (first.text gap) (second.text gap)
  names : ∀ gap, first.name gap = second.name gap ∨
    isQuotable (first.name gap).toList ∧ isQuotable (second.name gap).toList

/-! Parts of statements. -/

/-- Fields that are the same but for names and defaults. -/
def Field.Twin (one other : Field) : Prop := one.anonymous = other.anonymous

def Table.Twin (one other : Table) : Prop := one.anonymous = other.anonymous

def Field.Twins (fields others : List Field) : Prop := fields.map anonymous = others.map anonymous

section
variable {Gap : Type} {first second : Wording Gap} (same : first.SameButQuoted second)
include same

theorem NameCall.make_agrees (name : NameCall Gap) : Agree Ident.Twin (name.make first) (name.make second) := by
  cases name with
  | read text => exact .call (Ident.parse_agrees (same.texts text))
  | quote name => exact .call (Ident.quoted_agrees (same.names name))

theorem FieldCall.make_agrees (field : FieldCall Gap) : Agree Field.Twin (field.make first) (field.make second) := by
  induction field with
  | of type name =>
    refine (name.make_agrees same).map fun one other alike => congrArg (Field.mk · type) ?_
    have columns : (Expr.ofIdent one).anonymous = (Expr.ofIdent other).anonymous := by
      rw [Expr.anonymous_ofIdent, Expr.anonymous_ofIdent, alike]
    exact columns
  | aggregate field function ih =>
    exact ih.map fun one other alike => congrArg (Field.aggregate · function) alike
  | orElse field default ih =>
    exact ih.map fun one other alike => congrArg (Field.orElse · default.anonymous) alike
  | orElseText field default ih =>
    exact ih.map fun one other alike => congrArg (Field.orElse · (.text "")) alike
  | renamed field name ih =>
    refine ih.bind fun one other alike => (name.make_agrees same).map fun ident twin named => ?_
    exact congrArg₂ Field.renamed alike named
  | qualifiedBy field table ih =>
    refine ih.bind fun one other alike => (table.make_agrees same).map fun ident twin named => ?_
    rw [Field.Twin, Field.anonymous_qualifiedBy, Field.anonymous_qualifiedBy, alike, named]

theorem FieldCall.makeAll_agrees (fields : List (FieldCall Gap)) :
    Agree Field.Twins (makeAll first fields) (makeAll second fields) := by
  induction fields with
  | nil => exact .pure rfl
  | cons field fields ih =>
    refine (field.make_agrees same).bind fun one other alike => ih.map fun built others all => ?_
    exact congrArg₂ List.cons alike all

theorem TableCall.make_agrees (table : TableCall Gap) : Agree Table.Twin (table.make first) (table.make second) := by
  induction table with
  | of fields name =>
    refine (FieldCall.makeAll_agrees same fields).bind fun built others all =>
      (name.make_agrees same).map fun ident twin named => ?_
    exact congrArg₂ (Table.mk · none ·) named all
  | asAlias table name ih =>
    refine ih.bind fun one other alike => (name.make_agrees same).map fun ident twin named => ?_
    rw [Table.Twin, Table.anonymous_asAlias, Table.anonymous_asAlias, alike, named]
  | qualified table ih =>
    refine ih.map fun one other alike => ?_
    rw [Table.Twin, Table.anonymous_qualified, Table.anonymous_qualified, alike]

end

/-! What twins are written as. -/

section
variable {one other : Field} (twin : one.Twin other)
include twin

theorem Field.Twin.chars : Alike one.expr.chars other.expr.chars := by
  have erased : one.expr.anonymous = other.expr.anonymous := congrArg Field.expr twin
  have middle := one.expr.alike_anonymous
  rw [erased] at middle
  exact middle.trans other.expr.alike_anonymous.symm

theorem Field.Twin.bareChars : Alike one.expr.bareChars other.expr.bareChars := by
  have erased : one.expr.anonymous = other.expr.anonymous := congrArg Field.expr twin
  have middle := one.expr.alike_bare_anonymous
  rw [erased] at middle
  exact middle.trans other.expr.alike_bare_anonymous.symm

end

theorem Table.Twin.referenceChars {one other : Table} (twin : one.Twin other) :
    Alike one.referenceChars other.referenceChars := by
  have middle := one.alike_anonymous
  rw [twin] at middle
  exact middle.trans other.alike_anonymous.symm

theorem Alike.commas {items others : List (List Char)} (each : List.Forall₂ Alike items others) :
    Alike (commaChars items) (commaChars others) := by
  induction each with
  | nil => exact .refl rfl
  | cons first rest ih =>
    cases rest with
    | nil => exact first
    | cons next rest =>
      have separated : Alike [',', ' '] [',', ' '] := .refl rfl
      exact first.append (separated.append ih)

theorem Field.Twins.forall₂ {fields others : List Field} (twins : Field.Twins fields others) :
    List.Forall₂ Field.Twin fields others := by
  have same : List.Forall₂ (· = ·) (fields.map anonymous) (others.map anonymous) := by
    rw [List.forall₂_eq_eq_eq]
    exact twins
  rwa [List.forall₂_map_left_iff, List.forall₂_map_right_iff] at same

theorem Field.Twins.commas {fields others : List Field} (twins : Field.Twins fields others) {write : Field → List Char}
    (each : ∀ one other : Field, one.Twin other → Alike (write one) (write other)) :
    Alike (commaChars (fields.map write)) (commaChars (others.map write)) := by
  refine Alike.commas ?_
  rw [List.forall₂_map_left_iff, List.forall₂_map_right_iff]
  exact twins.forall₂.imp each

end SqlProgram
