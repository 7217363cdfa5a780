import Mathlib.Data.List.Forall2
import SqlProgram.Proofs.BlankedText
import SqlProgram.Statement.Draft

/-!
Texts that differ only in what stands in their quotes. One may take the place of the other wherever no quote is
open, and nothing but the contents of quotes changes.
-/

namespace SqlProgram

open Placeholder

/-- Two texts that leave the same behind and let the same be written down, wherever no quote is open. -/
structure Alike (first second : List Char) : Prop where
  written : ∀ place : Place, place.quote? = none → place.written first = place.written second
  after : ∀ place : Place, place.quote? = none → place.after first = place.after second
  closed : openAfter none first = none

namespace Alike

theorem refl {text : List Char} (closed : openAfter none text = none) : Alike text text :=
  ⟨fun _ _ => rfl, fun _ _ => rfl, closed⟩

theorem symm {first second : List Char} (alike : Alike first second) : Alike second first := by
  refine ⟨fun place outside => (alike.written place outside).symm,
    fun place outside => (alike.after place outside).symm, ?_⟩
  have same := congrArg Place.quote? (alike.after .outside rfl)
  rw [Place.quote?_after, Place.quote?_after] at same
  exact same.symm.trans alike.closed

theorem trans {first second third : List Char} (one : Alike first second) (two : Alike second third) :
    Alike first third :=
  ⟨fun place outside => (one.written place outside).trans (two.written place outside),
    fun place outside => (one.after place outside).trans (two.after place outside), one.closed⟩

theorem append {first second others more : List Char} (one : Alike first second) (two : Alike others more) :
    Alike (first ++ others) (second ++ more) := by
  have reached (place : Place) (outside : place.quote? = none) : (place.after first).quote? = none := by
    rw [Place.quote?_after, outside]
    exact one.closed
  refine ⟨fun place outside => ?_, fun place outside => ?_, ?_⟩
  · rw [Place.written_append, Place.written_append, one.written place outside, ← one.after place outside,
      two.written _ (reached place outside)]
  · rw [Place.after_append, Place.after_append, ← one.after place outside, two.after _ (reached place outside)]
  · rw [openAfter_append, one.closed, two.closed]

/-- A text between two others that are the same. -/
theorem between {first second : List Char} (alike : Alike first second) {front back : List Char}
    (opening : openAfter none front = none) (closing : openAfter none back = none) :
    Alike (front ++ (first ++ back)) (front ++ (second ++ back)) :=
  (refl opening).append (alike.append (refl closing))

theorem blanked_eq {first second : List Char} (alike : Alike first second) : blanked first = blanked second := by
  rw [← Place.outline_outside, ← Place.outline_outside, Place.outline, Place.outline, alike.written _ rfl,
    alike.after _ rfl]

end Alike

theorem Place.inside_double (quote : Quote) (text : List Char) :
    (Place.inside quote).written (Text.Quoted.double quote.mark text) = [] ∧
      (Place.inside quote).after (Text.Quoted.double quote.mark text) = .inside quote := by
  induction text with
  | nil => exact ⟨rfl, rfl⟩
  | cons c rest ih =>
    by_cases same : c = quote.mark
    · simpa [Text.Quoted.double, same, written, after, step, mark] using ih
    · simpa [Text.Quoted.double, same, written, after, step, mark] using ih

/-- What stands in quotes is never written down. -/
theorem Alike.enclose (quote : Quote) (first second : List Char) :
    Alike (Text.Quoted.enclose quote.mark first) (Text.Quoted.enclose quote.mark second) := by
  have enters (place : Place) (outside : place.quote? = none) : place.step quote.mark = .inside quote := by
    cases place with
    | outside => simp [Place.step, Place.opens]
    | inside other => cases outside
    | behind other =>
      by_cases same : quote.mark = other.mark
      · have equal : quote = other := by
          have read := Quote.ofChar?_mark quote
          rw [same, Quote.ofChar?_mark] at read
          exact (Option.some.inj read).symm
        simp [Place.step, equal]
      · simp [Place.step, Place.opens, same]
  have writes (place : Place) (outside : place.quote? = none) (text : List Char) :
      place.written (Text.Quoted.enclose quote.mark text) = place.mark quote.mark := by
    obtain ⟨nothing, stays⟩ := Place.inside_double quote text
    simp [Text.Quoted.enclose, Place.written, enters place outside, Place.written_append, nothing, stays, Place.mark]
  have leaves (place : Place) (outside : place.quote? = none) (text : List Char) :
      place.after (Text.Quoted.enclose quote.mark text) = .behind quote := by
    have first : place.after (Text.Quoted.enclose quote.mark text) =
        (place.step quote.mark).after (Text.Quoted.double quote.mark text ++ [quote.mark]) := rfl
    rw [first, enters place outside, Place.after_append, (Place.inside_double quote text).2]
    simp [Place.after, Place.step]
  refine ⟨fun place outside => ?_, fun place outside => ?_, (Holds.enclose quote first).closed⟩
  · rw [writes place outside, writes place outside]
  · rw [leaves place outside, leaves place outside]

/-! Tokens that differ only in a name in double quotes. -/

inductive Token.Like : Token → Token → Prop where
  | same (token : Token) : Like token token
  | names {first second : List Char} (one : isQuotable first) (two : isQuotable second) :
      Like (.quoted .double first) (.quoted .double second)

/-- Texts that are the same but for names in double quotes; none is empty or holds a NUL. -/
def SameButNames (first second : String) : Prop := List.Forall₂ Token.Like (tokens first.toList) (tokens second.toList)

theorem Token.Like.alike {first second : Token} (like : first.Like second) (closed : first.IsClosed) :
    Alike first.chars second.chars := by
  cases like with
  | same => exact .refl closed.holds.closed
  | names one two => exact .enclose .double _ _

theorem Token.Like.closed {first second : Token} (like : first.Like second) : first.IsClosed ↔ second.IsClosed := by
  cases like with
  | same => exact Iff.rfl
  | names one two => exact Iff.rfl

theorem Token.Like.placeholders {first second : Token} (like : first.Like second) :
    first.placeholders = second.placeholders := by
  cases like <;> rfl

section
variable {first second : List Token} (like : List.Forall₂ Token.Like first second)
include like

theorem Alike.of_tokens (closed : ∀ token ∈ first, token.IsClosed) :
    Alike (first.flatMap Token.chars) (second.flatMap Token.chars) := by
  induction like with
  | nil => exact .refl rfl
  | cons one _ ih =>
    rw [List.forall_mem_cons] at closed
    exact (one.alike closed.1).append (ih closed.2)

theorem closed_of_like (closed : ∀ token ∈ first, token.IsClosed) : ∀ token ∈ second, token.IsClosed := by
  induction like with
  | nil => exact closed
  | cons one _ ih =>
    rw [List.forall_mem_cons] at closed ⊢
    exact ⟨one.closed.mp closed.1, ih closed.2⟩

theorem holds_of_like (closed : ∀ token ∈ first, token.IsClosed) :
    ∃ n, Holds (first.flatMap Token.chars) n ∧ Holds (second.flatMap Token.chars) n := by
  induction like with
  | nil => exact ⟨0, .nil, .nil⟩
  | @cons token other _ _ one _ ih =>
    rw [List.forall_mem_cons] at closed
    obtain ⟨n, left, right⟩ := ih closed.2
    have twin := (one.closed.mp closed.1).holds
    rw [← one.placeholders] at twin
    exact ⟨_, closed.1.holds.append left, twin.append right⟩

end

end SqlProgram
