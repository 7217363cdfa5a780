import SqlProgram.Proofs.LiteralText
import SqlProgram.Proofs.ReturnedColumns

/-!
The text of a field tells what the field is, but for the kinds of its defaults. Names, literals and calls are cut off
from the front of a text in one way only, whatever stands in their quotes. So two fields that are written alike have one
shape, and with it the same label, the same bare form and the same columns.
-/

namespace SqlProgram

/-! What is cut off. A lemma about two texts carries what follows each of them, and says that this is the same too. -/

def Begins (marks text : List Char) : Prop := ∀ c ∈ text.head?, c ∈ marks

theorem begins_nil {marks : List Char} : Begins marks [] := nofun

theorem begins_cons {marks : List Char} {c : Char} (mark : c ∈ marks) (text : List Char) :
    Begins marks (c :: text) := by
  intro d first
  cases first
  exact mark

theorem Begins.mono {marks others text : List Char} (begins : Begins marks text) (more : ∀ c ∈ marks, c ∈ others) :
    Begins others text :=
  fun c first => more c (begins c first)

theorem takeWhile_of_begins {p : Char → Bool} {marks text rest : List Char} (all : text.all p)
    (begins : Begins marks rest) (stops : ∀ c ∈ marks, p c = false) : (text ++ rest).takeWhile p = text := by
  rw [List.takeWhile_append_of_pos (List.all_eq_true.mp all)]
  cases rest with
  | nil => rw [List.takeWhile_nil, List.append_nil]
  | cons c rest => rw [List.takeWhile_cons_of_neg (by simp [stops c (begins c rfl)]), List.append_nil]

theorem all_append_inj {p : Char → Bool} {marks first second rest other : List Char} (one : first.all p)
    (two : second.all p) (stops : ∀ c ∈ marks, p c = false) (ends : Begins marks rest) (halts : Begins marks other)
    (same : first ++ rest = second ++ other) : first = second ∧ rest = other := by
  have equal : first = second := by
    rw [← takeWhile_of_begins one ends stops, same, takeWhile_of_begins two halts stops]
  subst equal
  exact ⟨rfl, List.append_cancel_left same⟩

theorem Begins.head_ne {c : Char} {marks text : List Char} (begins : Begins marks text) (stops : c ∉ marks) :
    text.head? ≠ some c :=
  fun first => stops (begins c first)

namespace Segment

theorem plain_all {name : String} (word : isWord name.toList) : name.toList.all isWordPart := by
  obtain ⟨c, rest, begins, -, parts⟩ := plain_chars word
  rw [begins]
  exact List.all_eq_true.mpr parts

theorem plain_ne_quoted {name quoted : String} (word : isWord name.toList) (rest other : List Char) :
    name.toList ++ rest ≠ Text.Quoted.enclose '"' quoted.toList ++ other := by
  obtain ⟨c, more, begins, start, -⟩ := plain_chars word
  intro same
  have first := congrArg List.head? same
  rw [begins, List.cons_append, List.head?_cons] at first
  cases first
  exact absurd start (by decide)

theorem chars_append_inj {marks rest other : List Char} {first second : Segment}
    (stops : ∀ c ∈ marks, isWordPart c = false ∧ c ≠ '"') (ends : Begins marks rest) (halts : Begins marks other)
    (same : first.chars ++ rest = second.chars ++ other) : first = second ∧ rest = other := by
  cases first with
  | plain name word =>
    cases second with
    | plain twin well =>
      have apart : ∀ c ∈ marks, isWordPart c = false := fun c mark => (stops c mark).1
      obtain ⟨equal, tails⟩ := all_append_inj (plain_all word) (plain_all well) apart ends halts same
      obtain rfl := String.toList_injective equal
      exact ⟨rfl, tails⟩
    | quoted twin quotable => exact absurd same (plain_ne_quoted word rest other)
  | quoted name quotable =>
    cases second with
    | plain twin well => exact absurd same.symm (plain_ne_quoted well other rest)
    | quoted twin well =>
      have unquoted : '"' ∉ marks := fun mark => (stops '"' mark).2 rfl
      obtain ⟨equal, tails⟩ := Text.Quoted.enclose_append_inj (ends.head_ne unquoted) (halts.head_ne unquoted) same
      obtain rfl := String.toList_injective equal
      exact ⟨rfl, tails⟩

end Segment

theorem Ident.segments_injective : Function.Injective Ident.segments := by
  rintro ⟨qualifiers, last⟩ ⟨others, final⟩ equal
  obtain ⟨before, ending⟩ := List.append_inj' equal rfl
  cases before
  cases ending
  rfl

/-- The characters that stand behind a name: that of an alias, those of a list and an opening bracket. -/
def nameEnds : List Char := [' ', ',', ')', '(']

theorem Ident.chars_append_inj {rest other : List Char} {first second : Ident} (ends : Begins nameEnds rest)
    (halts : Begins nameEnds other) (same : first.chars ++ rest = second.chars ++ other) :
    first = second ∧ rest = other := by
  have stops : ∀ c ∈ '.' :: nameEnds, isWordPart c = false ∧ c ≠ '"' := by simp [nameEnds, isWordPart]
  have more {text : List Char} (begins : Begins nameEnds text) : Begins ('.' :: nameEnds) text :=
    begins.mono fun c => List.mem_cons_of_mem '.'
  have dot (text : List Char) : Begins ('.' :: nameEnds) ('.' :: text) := begins_cons (List.mem_cons_self ..) text
  have undotted {text tail : List Char} (begins : Begins nameEnds tail) : tail ≠ '.' :: text := by
    rintro rfl
    exact absurd (begins '.' rfl) (by decide)
  obtain ⟨qualifiers, last⟩ := first
  obtain ⟨others, final⟩ := second
  induction qualifiers generalizing others with
  | nil =>
    cases others with
    | nil =>
      obtain ⟨rfl, tails⟩ := Segment.chars_append_inj stops (more ends) (more halts) same
      exact ⟨rfl, tails⟩
    | cons segment others =>
      simp only [chars, List.foldr_cons, List.foldr_nil, List.append_assoc, List.cons_append] at same
      exact absurd (Segment.chars_append_inj stops (more ends) (dot _) same).2 (undotted ends)
  | cons segment qualifiers ih =>
    cases others with
    | nil =>
      simp only [chars, List.foldr_cons, List.foldr_nil, List.append_assoc, List.cons_append] at same
      exact absurd (Segment.chars_append_inj stops (dot _) (more halts) same).2.symm (undotted halts)
    | cons twin others =>
      simp only [chars, List.foldr_cons, List.append_assoc, List.cons_append] at same
      obtain ⟨rfl, left⟩ := Segment.chars_append_inj stops (dot _) (dot _) same
      obtain ⟨equal, tails⟩ := ih others (List.cons.inj left).2
      cases equal
      exact ⟨rfl, tails⟩

theorem Value.literal_append_inj {first second : Value} {rest other : List Char}
    (same : first.literal ++ ')' :: rest = second.literal ++ ')' :: other) :
    first.literal = second.literal ∧ rest = other := by
  have ends (text : List Char) : Begins [')'] (')' :: text) := begins_cons (List.mem_singleton_self ..) text
  have closed (text : List Char) : (')' :: text).head? ≠ some '\'' := (ends text).head_ne (by simp)
  have bare_ne_quoted {text content tail behind : List Char} (bare : text.all isBare) :
      text ++ ')' :: tail ≠ Text.Quoted.enclose '\'' content ++ ')' :: behind := by
    cases text with
    | nil => exact fun same => absurd (List.cons.inj same).1 (by decide)
    | cons c text =>
      intro same
      have quote : c = '\'' := (List.cons.inj same).1
      rw [quote] at bare
      cases bare
  obtain bare | ⟨content, quoted⟩ := first.literal_cases
  · obtain bare' | ⟨content, quoted⟩ := second.literal_cases
    · obtain ⟨equal, tails⟩ := all_append_inj bare bare' (by simp [isBare]) (ends rest) (ends other) same
      exact ⟨equal, (List.cons.inj tails).2⟩
    · rw [quoted] at same
      exact absurd same (bare_ne_quoted bare)
  · obtain bare | ⟨content', quoted'⟩ := second.literal_cases
    · rw [quoted] at same
      exact absurd same.symm (bare_ne_quoted bare)
    · rw [quoted, quoted'] at same ⊢
      obtain ⟨rfl, tails⟩ := Text.Quoted.enclose_append_inj (closed rest) (closed other) same
      exact ⟨rfl, (List.cons.inj tails).2⟩

theorem Aggregate.name_injective : Function.Injective Aggregate.name := by
  intro first second equal
  cases first <;> cases second <;> first | rfl | exact absurd equal (by decide)

namespace Expr

/-- Two expressions are put together alike, from the same names and functions; their defaults are written alike. -/
inductive SameShape : Expr → Expr → Prop where
  | column (name : Segment) : SameShape (.column name) (.column name)
  | qualified (table : Ident) (name : Segment) : SameShape (.qualified table name) (.qualified table name)
  | aggregate (function : Aggregate) {first second : Expr} (argument : SameShape first second) :
      SameShape (.aggregate function first) (.aggregate function second)
  | coalesce {first second : Expr} {one two : Value} (argument : SameShape first second)
      (default : one.literal = two.literal) : SameShape (.coalesce first one) (.coalesce second two)
  | renamed {first second : Expr} (expr : SameShape first second) (name : Ident) :
      SameShape (.renamed first name) (.renamed second name)

namespace SameShape

variable {first second : Expr} (same : first.SameShape second)
include same

theorem chars : first.chars = second.chars := by
  induction same with
  | column | qualified => rfl
  | aggregate function _ ih => exact congrArg (call function.name) ih
  | coalesce _ default ih => rw [Expr.chars, Expr.chars, ih, default]
  | renamed _ name ih => exact congrArg (· ++ " as ".toList ++ name.chars) ih

theorem bareChars : first.bareChars = second.bareChars := by
  induction same with
  | column | qualified => rfl
  | aggregate function argument => exact (aggregate function argument).chars
  | coalesce argument default => exact (coalesce argument default).chars
  | renamed _ _ ih => exact ih

theorem label : first.label = second.label := by cases same <;> rfl

theorem names : first.names = second.names := by cases same <;> rfl

theorem indexIn : first.indexIn = second.indexIn := by
  funext layout
  rw [Expr.indexIn, Expr.indexIn, same.label, same.names]

end SameShape

def aliases : Expr → List Ident
  | .renamed expr name => expr.aliases ++ [name]
  | _ => []

def aliasChars (names : List Ident) : List Char := names.flatMap fun name => " as ".toList ++ name.chars

theorem chars_eq (expr : Expr) : expr.chars = expr.bare.chars ++ aliasChars expr.aliases := by
  induction expr with
  | column | qualified | aggregate | coalesce => exact (List.append_nil _).symm
  | renamed expr name ih =>
    rw [chars, ih, aliases, aliasChars, aliasChars, List.flatMap_append, List.flatMap_singleton, bare,
      List.append_assoc, List.append_assoc]

theorem SameShape.of_bare {first second : Expr} (same : first.bare.SameShape second.bare)
    (aliases : first.aliases = second.aliases) : first.SameShape second := by
  induction first generalizing second with
  | column | qualified | aggregate | coalesce =>
    cases second with
    | renamed other name => exact absurd aliases.symm (by simp [Expr.aliases])
    | column | qualified | aggregate | coalesce => exact same
  | renamed expr name ih =>
    cases second with
    | renamed other twin =>
      have joined : expr.aliases ++ [name] = other.aliases ++ [twin] := aliases
      have inner : expr.bare.SameShape other.bare := same
      obtain ⟨before, last⟩ := List.append_inj' joined rfl
      cases last
      exact .renamed (ih inner before) name
    | column | qualified | aggregate | coalesce => exact absurd aliases (by simp [Expr.aliases])

/-- The characters that stand behind a whole expression, and behind what it was before it was renamed. -/
def exprEnds : List Char := [',', ')']
def bareEnds : List Char := ' ' :: exprEnds

theorem mem_nameEnds : ∀ c ∈ bareEnds, c ∈ nameEnds := by simp [bareEnds, exprEnds, nameEnds]

theorem begins_aliasChars {tail : List Char} (ends : Begins exprEnds tail) (names : List Ident) :
    Begins bareEnds (aliasChars names ++ tail) := by
  cases names with
  | nil => exact ends.mono fun c => List.mem_cons_of_mem ' '
  | cons name names => exact begins_cons (List.mem_cons_self ..) _

theorem aliasChars_append_inj {rest other : List Char} {first second : List Ident} (ends : Begins exprEnds rest)
    (halts : Begins exprEnds other) (same : aliasChars first ++ rest = aliasChars second ++ other) :
    first = second ∧ rest = other := by
  have spaced (name : Ident) (names : List Ident) (tail : List Char) : aliasChars (name :: names) ++ tail =
      ' ' :: ("as ".toList ++ (name.chars ++ (aliasChars names ++ tail))) := by
    simp [aliasChars]
  have unspaced {tail text : List Char} (begins : Begins exprEnds tail) : tail ≠ ' ' :: text := by
    rintro rfl
    exact absurd (begins ' ' rfl) (by decide)
  have ended (names : List Ident) {tail : List Char} (begins : Begins exprEnds tail) :
      Begins nameEnds (aliasChars names ++ tail) :=
    (begins_aliasChars begins names).mono mem_nameEnds
  induction first generalizing second with
  | nil =>
    cases second with
    | nil => exact ⟨rfl, same⟩
    | cons name names =>
      rw [spaced] at same
      exact absurd same (unspaced ends)
  | cons name names ih =>
    cases second with
    | nil =>
      rw [spaced] at same
      exact absurd same.symm (unspaced halts)
    | cons twin others =>
      rw [spaced, spaced] at same
      have left := List.append_cancel_left (List.cons.inj same).2
      obtain ⟨rfl, later⟩ := Ident.chars_append_inj (ended names ends) (ended others halts) left
      obtain ⟨rfl, tails⟩ := ih later
      exact ⟨rfl, tails⟩

/-- A call begins with its function as a name, and a bracket stands behind that. -/
theorem call_eq {function : String} (word : isWord function.toList) (arguments tail : List Char) :
    call function arguments ++ tail =
      (Ident.ofSegment (.plain function word)).chars ++ '(' :: (arguments ++ ')' :: tail) := by
  simp [call, Ident.ofSegment, Ident.chars, Segment.chars]

theorem begins_bracket (text : List Char) : Begins nameEnds ('(' :: text) := begins_cons (by decide) text

theorem call_append_inj {first second : String} (one : isWord first.toList) (two : isWord second.toList)
    {arguments others rest other : List Char} (same : call first arguments ++ rest = call second others ++ other) :
    first = second ∧ arguments ++ ')' :: rest = others ++ ')' :: other := by
  rw [call_eq one, call_eq two] at same
  obtain ⟨equal, tails⟩ := Ident.chars_append_inj (begins_bracket _) (begins_bracket _) same
  cases equal
  exact ⟨rfl, (List.cons.inj tails).2⟩

theorem name_ne_call {ident : Ident} {function : String} (word : isWord function.toList)
    {arguments rest other : List Char} (ends : Begins bareEnds rest) :
    ident.chars ++ rest ≠ call function arguments ++ other := by
  intro same
  rw [call_eq word] at same
  obtain ⟨-, tails⟩ := Ident.chars_append_inj (ends.mono mem_nameEnds) (begins_bracket _) same
  rw [tails] at ends
  exact absurd (ends '(' rfl) (by decide)

/-- A column, which is written as a name with its table in front. -/
inductive IsNamed : Expr → Ident → Prop where
  | column (name : Segment) : IsNamed (.column name) ⟨[], name⟩
  | qualified (table : Ident) (name : Segment) : IsNamed (.qualified table name) ⟨table.segments, name⟩

theorem IsNamed.chars {expr : Expr} {ident : Ident} (named : expr.IsNamed ident) : expr.chars = ident.chars := by
  cases named with
  | column name => rfl
  | qualified table name =>
    have split : (Ident.mk table.segments name).qualifier? = some table := by simp [Ident.qualifier?, Ident.segments]
    exact (Ident.split_of_qualifier? split).2.symm

/-- A name with dots in it is that of a qualified column only, and all before the last dot is its table. -/
theorem IsNamed.sameShape {first second : Expr} {ident other : Ident} (one : first.IsNamed ident)
    (two : second.IsNamed other) (equal : ident = other) : first.SameShape second := by
  have before := congrArg Ident.qualifiers equal
  have last := congrArg Ident.last equal
  cases one with
  | column name =>
    cases two with
    | column => cases last; exact .column name
    | qualified => exact absurd before.symm (by simp [Ident.segments])
  | qualified table name =>
    cases two with
    | column => exact absurd before (by simp [Ident.segments])
    | qualified table' =>
      obtain rfl : table = table' := Ident.segments_injective before
      cases last
      exact .qualified table name

theorem bare_cases (expr : Expr) :
    (∃ ident, expr.bare.IsNamed ident) ∨ (∃ function argument, expr.bare = .aggregate function argument) ∨
      ∃ argument default, expr.bare = .coalesce argument default := by
  induction expr with
  | column name => exact .inl ⟨_, .column name⟩
  | qualified table name => exact .inl ⟨_, .qualified table name⟩
  | aggregate function argument => exact .inr (.inl ⟨_, _, rfl⟩)
  | coalesce argument default => exact .inr (.inr ⟨_, _, rfl⟩)
  | renamed expr name ih => exact ih

theorem isWord_aggregate (function : Aggregate) : isWord function.name.toList := by cases function <;> rfl

theorem isWord_coalesce : isWord "coalesce".toList := rfl

theorem aggregate_ne_coalesce (function : Aggregate) : function.name ≠ "coalesce" := by cases function <;> decide

/-- A text begins with an expression before it was renamed in one way only. -/
def Separates (first : Expr) : Prop :=
  ∀ (second : Expr) (rest other : List Char), Begins bareEnds rest → Begins bareEnds other →
    first.bare.chars ++ rest = second.bare.chars ++ other → first.bare.SameShape second.bare ∧ rest = other

theorem Separates.append_inj {first second : Expr} (separates : first.Separates) {rest other : List Char}
    (ends : Begins exprEnds rest) (halts : Begins exprEnds other)
    (same : first.chars ++ rest = second.chars ++ other) : first.SameShape second ∧ rest = other := by
  rw [chars_eq first, chars_eq second, List.append_assoc, List.append_assoc] at same
  obtain ⟨shape, left⟩ := separates second _ _ (begins_aliasChars ends _) (begins_aliasChars halts _) same
  obtain ⟨aliases, tails⟩ := aliasChars_append_inj ends halts left
  exact ⟨shape.of_bare aliases, tails⟩

theorem separates_of_isNamed {expr : Expr} {ident : Ident} (named : expr.bare.IsNamed ident) : expr.Separates := by
  intro second rest other ends halts same
  rw [named.chars] at same
  rcases second.bare_cases with ⟨twin, known⟩ | ⟨function, argument, bare⟩ | ⟨argument, default, bare⟩
  · rw [known.chars] at same
    obtain ⟨rfl, tails⟩ := Ident.chars_append_inj (ends.mono mem_nameEnds) (halts.mono mem_nameEnds) same
    exact ⟨named.sameShape known rfl, tails⟩
  · rw [bare] at same
    exact absurd same (name_ne_call (isWord_aggregate function) ends)
  · rw [bare] at same
    exact absurd same (name_ne_call isWord_coalesce ends)

theorem separates (expr : Expr) : expr.Separates := by
  induction expr with
  | column name => exact separates_of_isNamed (.column name)
  | qualified table name => exact separates_of_isNamed (.qualified table name)
  | aggregate function argument ih =>
    intro second rest other ends halts same
    rcases second.bare_cases with ⟨ident, named⟩ | ⟨twin, inner, bare⟩ | ⟨inner, default, bare⟩
    · rw [named.chars] at same
      exact absurd same.symm (name_ne_call (isWord_aggregate function) halts)
    · rw [bare] at same ⊢
      obtain ⟨equal, left⟩ := call_append_inj (isWord_aggregate function) (isWord_aggregate twin) same
      obtain rfl := Aggregate.name_injective equal
      obtain ⟨shape, tails⟩ := ih.append_inj (begins_cons (by decide) _) (begins_cons (by decide) _) left
      exact ⟨.aggregate function shape, (List.cons.inj tails).2⟩
    · rw [bare] at same
      obtain ⟨equal, -⟩ := call_append_inj (isWord_aggregate function) isWord_coalesce same
      exact absurd equal (aggregate_ne_coalesce function)
  | coalesce argument default ih =>
    intro second rest other ends halts same
    rcases second.bare_cases with ⟨ident, named⟩ | ⟨twin, inner, bare⟩ | ⟨inner, default', bare⟩
    · rw [named.chars] at same
      exact absurd same.symm (name_ne_call isWord_coalesce halts)
    · rw [bare] at same
      obtain ⟨equal, -⟩ := call_append_inj isWord_coalesce (isWord_aggregate twin) same
      exact absurd equal.symm (aggregate_ne_coalesce twin)
    · rw [bare] at same ⊢
      obtain ⟨-, left⟩ := call_append_inj isWord_coalesce isWord_coalesce same
      rw [List.append_assoc, List.append_assoc] at left
      obtain ⟨shape, tails⟩ := ih.append_inj (begins_cons (by decide) _) (begins_cons (by decide) _) left
      obtain ⟨literal, tails⟩ := Value.literal_append_inj (List.cons.inj (List.cons.inj tails).2).2
      exact ⟨.coalesce shape literal, tails⟩
  | renamed expr name ih => exact ih

/-- Expressions are written alike exactly if they have the same shape. -/
theorem chars_eq_iff {first second : Expr} : first.chars = second.chars ↔ first.SameShape second := by
  refine ⟨fun same => ?_, SameShape.chars⟩
  have ended : first.chars ++ [] = second.chars ++ [] := by rw [List.append_nil, List.append_nil, same]
  exact (first.separates.append_inj begins_nil begins_nil ended).1

end Expr

/-- The text of a field tells its label, its bare text, the columns that it names and where it is found in every layout.
Nothing in quotes is taken for a bracket, a comma, a dot or an alias: fields that are written alike have one shape. -/
theorem Field.text_determines {first second : Field} (same : first.text = second.text) :
    first.expr.SameShape second.expr ∧ first.label = second.label ∧ first.bareText = second.bareText ∧
      (∀ column, first.names column = second.names column) ∧
      ∀ layout, first.indexIn layout = second.indexIn layout := by
  have shape : first.expr.SameShape second.expr := Expr.chars_eq_iff.mp (String.ofList_injective same)
  exact ⟨shape, shape.label, congrArg String.ofList shape.bareChars, congrFun shape.names, congrFun shape.indexIn⟩

/-- An interchange value and a text in place of nothing are written alike, behind names that look like calls. -/
theorem Field.text_determines_alike :
    let table : Ident := ⟨[], .quoted "max(a.b" rfl⟩
    let column : Expr := .aggregate .max (.qualified table (.quoted "x\") as \"y" rfl))
    let name : Ident := ⟨[], .plain "least" rfl⟩
    let first : Field := ⟨.renamed (.coalesce column (.json (.text "it's, '"))) name, .json⟩
    let second : Field := ⟨.renamed (.coalesce column (.text "\"it's, '\"")) name, .text⟩
    first.text = second.text ∧ ∀ layout, first.indexIn layout = second.indexIn layout := by
  intro table column name first second
  have same : first.text = second.text := congrArg String.ofList rfl
  exact ⟨same, (Field.text_determines same).2.2.2.2⟩

end SqlProgram
