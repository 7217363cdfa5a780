import Mathlib.Data.List.Chain
import SqlProgram.Proofs.BoundText
import SqlProgram.Proofs.FormulaReading

/-!
Where clauses put together step by step, and what they say to a reader. A predicate puts its own operands in
parentheses, but a step of the builder writes a whole predicate beside its word as it is: the outermost word of a
predicate is then read together with the words of the steps.
-/

namespace SqlProgram

open Placeholder

inductive Connective where
  | and
  | or
  deriving DecidableEq

def Connective.word : Connective → Formula.Word α
  | .and => .and
  | .or => .or

/-- Operands in a row, each after the first behind its word. -/
structure Chain (ω : Type) where
  first : ω
  steps : List (Connective × ω)

namespace Formula

variable {α : Type}

def enclosed (text : List (Word α)) : List (Word α) := .opening :: (text ++ [.closing])

/-- The words as a predicate writes them, with its operands in parentheses. -/
def words : Formula α → List (Word α)
  | .atom name => [.atom name]
  | .not operand => .not :: enclosed operand.words
  | .and left right => enclosed left.words ++ .and :: enclosed right.words
  | .or left right => enclosed left.words ++ .or :: enclosed right.words

/-- By itself a formula is read as it was put together. -/
theorem words_read (formula : Formula α) : Reads .disjunction formula.words formula := by
  induction formula with
  | atom name => exact .conjunction (.operand (.atom name))
  | not operand ih => exact .conjunction (.operand (.not (.enclosed ih)))
  | and left right first second => exact .conjunction (.and (.operand (.enclosed first)) (.enclosed second))
  | or left right first second =>
    exact .or (.conjunction (.operand (.enclosed first))) (.operand (.enclosed second))

/-- The operands that a formula shows to what stands beside it. -/
def parts : Formula α → Chain (Formula α)
  | .and left right => ⟨left, [(.and, right)]⟩
  | .or left right => ⟨left, [(.or, right)]⟩
  | formula => ⟨formula, []⟩

def IsOr : Formula α → Prop
  | .or _ _ => True
  | _ => False

theorem exists_of_isOr {formula : Formula α} (outermost : formula.IsOr) :
    ∃ left right, formula = .or left right := by
  cases formula with
  | or left right => exact ⟨left, right, rfl⟩
  | atom | not | and => exact outermost.elim

end Formula

namespace Chain

open Formula

variable {α : Type}

/-- The value of a row of operands behind a conjunction; `and` binds tighter than `or`. -/
def valueAfter (truth : α → Bool) (conjunction : Bool) : List (Connective × Formula α) → Bool
  | [] => conjunction
  | (.and, operand) :: steps => valueAfter truth (conjunction && operand.value truth) steps
  | (.or, operand) :: steps => conjunction || valueAfter truth (operand.value truth) steps

/-- The value of a chain with each of its formulas as a single operand. -/
def value (truth : α → Bool) (chain : Chain (Formula α)) : Bool :=
  valueAfter truth (chain.first.value truth) chain.steps

/-- The words as the steps write them, with every formula as it is. -/
def words (chain : Chain (Formula α)) : List (Word α) :=
  chain.first.words ++ chain.steps.flatMap fun step => step.1.word :: step.2.words

def splice (step : Connective × Formula α) : List (Connective × Formula α) :=
  (step.1, step.2.parts.first) :: step.2.parts.steps

/-- The chain with the parts of each formula for operands in its place. -/
def spliced (chain : Chain (Formula α)) : Chain (Formula α) where
  first := chain.first.parts.first
  steps := chain.first.parts.steps ++ chain.steps.flatMap splice

/-- No formula with `or` for its outermost word stands on either side of an `and`. -/
def Apart (before after : Connective × Formula α) : Prop :=
  after.1 = .and → ¬ before.2.IsOr ∧ ¬ after.2.IsOr

/-- Which word is before the first formula does not matter. -/
def Separate (chain : Chain (Formula α)) : Prop := ((.or, chain.first) :: chain.steps).IsChain Apart

inductive Joins : List (Word α) → List (Connective × Formula α) → Prop where
  | nil : Joins [] []
  | cons {text operand later steps} (connective : Connective) : Reads .operand text operand → Joins later steps →
      Joins (connective.word :: (text ++ later)) ((connective, operand) :: steps)

theorem Joins.append {first second : List (Word α)} {steps others : List (Connective × Formula α)}
    (left : Joins first steps) (right : Joins second others) : Joins (first ++ second) (steps ++ others) := by
  induction left with
  | nil => exact right
  | cons connective operand _ ih =>
    rw [List.cons_append, List.append_assoc]
    exact .cons connective operand ih

/-- The words of a formula are those of its parts. -/
theorem parts_join (formula : Formula α) :
    ∃ head tail, formula.words = head ++ tail ∧ Reads .operand head formula.parts.first ∧
      Joins tail formula.parts.steps := by
  cases formula with
  | atom name => exact ⟨[.atom name], [], rfl, .atom name, .nil⟩
  | not operand => exact ⟨_, [], (List.append_nil _).symm, .not (.enclosed operand.words_read), .nil⟩
  | and left right =>
    have last : Joins (.and :: (enclosed right.words ++ [])) [(.and, right)] :=
      .cons .and (.enclosed right.words_read) .nil
    rw [List.append_nil] at last
    exact ⟨enclosed left.words, _, rfl, .enclosed left.words_read, last⟩
  | or left right =>
    have last : Joins (.or :: (enclosed right.words ++ [])) [(.or, right)] :=
      .cons .or (.enclosed right.words_read) .nil
    rw [List.append_nil] at last
    exact ⟨enclosed left.words, _, rfl, .enclosed left.words_read, last⟩

theorem steps_join (steps : List (Connective × Formula α)) :
    Joins (steps.flatMap fun step => step.1.word :: step.2.words) (steps.flatMap splice) := by
  induction steps with
  | nil => exact .nil
  | cons step steps ih =>
    obtain ⟨connective, operand⟩ := step
    obtain ⟨head, tail, written, first, rest⟩ := parts_join operand
    simp only [List.flatMap_cons, written]
    exact (Joins.cons connective first rest).append ih

theorem words_join (chain : Chain (Formula α)) :
    ∃ head tail, chain.words = head ++ tail ∧ Reads .operand head chain.spliced.first ∧
      Joins tail chain.spliced.steps := by
  obtain ⟨head, tail, written, first, rest⟩ := parts_join chain.first
  refine ⟨head, _, ?_, first, rest.append (steps_join chain.steps)⟩
  rw [words, written, List.append_assoc]

/-- What stands before the conjunction that is being read, with its value. -/
inductive Before : List (Word α) → ((α → Bool) → Bool) → Prop where
  | nothing : Before [] fun _ => false
  | or {text formula} : Reads .disjunction text formula → Before (text ++ [.or]) fun truth => formula.value truth

theorem Before.read {before text : List (Word α)} {done : (α → Bool) → Bool} {group : Formula α}
    (behind : Before before done) (reads : Reads .conjunction text group) :
    ∃ reading, Reads .disjunction (before ++ text) reading ∧
      ∀ truth, reading.value truth = (done truth || group.value truth) := by
  cases behind with
  | nothing => exact ⟨group, .conjunction reads, fun truth => rfl⟩
  | @or text formula earlier =>
    refine ⟨.or formula group, ?_, fun truth => rfl⟩
    rw [List.append_assoc]
    exact .or earlier reads

/-- By induction on the operands: `and` goes on with the conjunction, `or` closes it. -/
theorem Joins.read {text : List (Word α)} {steps : List (Connective × Formula α)} (joins : Joins text steps) :
    ∀ {before conjunction : List (Word α)} {done : (α → Bool) → Bool} {group : Formula α},
      Before before done → Reads .conjunction conjunction group →
      ∃ reading, Reads .disjunction (before ++ conjunction ++ text) reading ∧
        ∀ truth, reading.value truth = (done truth || valueAfter truth (group.value truth) steps) := by
  induction joins with
  | nil =>
    intro before conjunction done group behind reads
    rw [List.append_nil]
    exact behind.read reads
  | @cons text operand later steps connective reads _ ih =>
    intro before conjunction done group behind begun
    cases connective with
    | and =>
      obtain ⟨reading, whole, value⟩ := ih behind (.and begun reads)
      refine ⟨reading, ?_, value⟩
      simpa only [Connective.word, List.append_assoc, List.cons_append] using whole
    | or =>
      obtain ⟨closed, earlier, known⟩ := behind.read begun
      obtain ⟨reading, whole, value⟩ := ih (.or earlier) (.operand reads)
      refine ⟨reading, ?_, fun truth => ?_⟩
      · simpa only [Connective.word, List.append_assoc, List.cons_append, List.nil_append] using whole
      · rw [value, known, Bool.or_assoc]
        rfl

/-- A chain is read as the chain of the parts of its formulas. -/
theorem words_read (chain : Chain (Formula α)) :
    ∃ reading, Reads .disjunction chain.words reading ∧
      ∀ truth, reading.value truth = chain.spliced.value truth := by
  obtain ⟨head, tail, written, first, rest⟩ := chain.words_join
  obtain ⟨reading, whole, value⟩ := rest.read .nothing (.operand first)
  refine ⟨reading, ?_, fun truth => ?_⟩
  · rw [written]
    exact whole
  · rw [value, Bool.false_or]
    rfl

/-- Under `and`, a formula has the value of its parts, unless they are joined by `or`. -/
theorem valueAfter_parts (truth : α → Bool) (conjunction : Bool) {operand : Formula α} (single : ¬ operand.IsOr)
    (steps : List (Connective × Formula α)) :
    valueAfter truth (conjunction && operand.parts.first.value truth) (operand.parts.steps ++ steps) =
      valueAfter truth (conjunction && operand.value truth) steps := by
  cases operand with
  | atom name => rfl
  | not operand => rfl
  | and left right =>
    change valueAfter truth (conjunction && left.value truth && right.value truth) steps = _
    rw [Bool.and_assoc]
    rfl
  | or left right => exact absurd trivial single

/-- By induction on the steps. Both rows have the same value so far; behind a formula with `or` for its outermost
word they need not go on with the same conjunction, but then no `and` follows. -/
theorem valueAfter_spliced (truth : α → Bool) {before : Connective × Formula α}
    {steps : List (Connective × Formula α)} (separate : (before :: steps).IsChain Apart)
    {done conjunction ended group : Bool} (same : (done || conjunction) = (ended || group))
    (equal : ¬ before.2.IsOr → done = ended ∧ conjunction = group) :
    (done || valueAfter truth conjunction (steps.flatMap splice)) = (ended || valueAfter truth group steps) := by
  induction steps generalizing before done conjunction ended group with
  | nil => exact same
  | cons step steps ih =>
    obtain ⟨connective, operand⟩ := step
    obtain ⟨beside, later⟩ := List.isChain_cons_cons.mp separate
    cases connective with
    | and =>
      obtain ⟨single, plain⟩ := beside rfl
      obtain ⟨rfl, rfl⟩ := equal single
      have parts := valueAfter_parts truth conjunction plain (steps.flatMap splice)
      simp only [List.flatMap_cons, splice, List.cons_append, valueAfter, parts]
      exact ih later rfl fun _ => ⟨rfl, rfl⟩
    | or =>
      simp only [List.flatMap_cons, splice, List.cons_append, valueAfter, ← Bool.or_assoc]
      by_cases plain : operand.IsOr
      · obtain ⟨left, right, rfl⟩ := exists_of_isOr plain
        have closes : (done || conjunction || left.value truth || right.value truth) =
            (ended || group || (left.value truth || right.value truth)) := by
          rw [same, Bool.or_assoc]
        have parts : valueAfter truth ((left.or right).parts.first.value truth)
            ((left.or right).parts.steps ++ steps.flatMap splice) =
            (left.value truth || valueAfter truth (right.value truth) (steps.flatMap splice)) := rfl
        rw [parts, ← Bool.or_assoc]
        exact ih later closes fun single => absurd trivial single
      · have parts := valueAfter_parts truth true plain (steps.flatMap splice)
        simp only [Bool.true_and] at parts
        rw [parts]
        exact ih later (by rw [same]) fun _ => ⟨same, rfl⟩

/-- Where no formula with `or` for its outermost word stands beside an `and`, taking the chain apart does no harm. -/
theorem value_spliced {chain : Chain (Formula α)} (separate : chain.Separate) (truth : α → Bool) :
    chain.spliced.value truth = chain.value truth := by
  have begun : ((.or, chain.first) :: (.or, chain.first) :: chain.steps).IsChain (Apart (α := α)) :=
    .cons_cons (fun joined => by cases joined) separate
  have unchanged : ¬ chain.first.IsOr → false = false ∧ false = false := fun _ => ⟨rfl, rfl⟩
  exact valueAfter_spliced truth begun rfl unchanged

end Chain

/-- What a step of the builder adds to a where clause. A condition comes with what it is bound to. -/
inductive Operand where
  | bound (condition : Condition) (parameter : Parameter)
  | unbound (predicate : Predicate)

/-- A comparison is one truth value, and so is a text that was written by hand. -/
def Condition.formula (parameter : Parameter) : Condition → Formula Operand
  | .not operand => .not (operand.formula parameter)
  | condition => .atom (.bound condition parameter)

def Predicate.formula : Predicate → Formula Operand
  | .not operand => .not operand.formula
  | .and left right => .and left.formula right.formula
  | .or left right => .or left.formula right.formula
  | predicate => .atom (.unbound predicate)

namespace Operand

def formula : Operand → Formula Operand
  | .bound condition parameter => condition.formula parameter
  | .unbound predicate => predicate.formula

def parameters : Operand → List Parameter
  | .bound _ parameter => [parameter]
  | .unbound _ => []

def chars : Operand → List Char
  | .bound condition _ => condition.chars
  | .unbound predicate => predicate.chars

def filled (operand : Operand) : List Char := Parameter.fill operand.parameters operand.chars

def whereClause : Operand → Clause
  | .bound condition _ => .where condition
  | .unbound predicate => .wherePredicate predicate

def clause : Connective → Operand → Clause
  | .and, .bound condition _ => .and condition
  | .and, .unbound predicate => .andPredicate predicate
  | .or, .bound condition _ => .or condition
  | .or, .unbound predicate => .orPredicate predicate

theorem chars_holds (operand : Operand) : Holds operand.chars operand.parameters.length := by
  cases operand with
  | bound condition parameter => exact condition.chars_holds
  | unbound predicate => exact predicate.chars_holds

end Operand

def Formula.Word.chars (write : α → List Char) : Word α → List Char
  | .atom name => write name
  | .not => "not ".toList
  | .and => " and ".toList
  | .or => " or ".toList
  | .opening => ['(']
  | .closing => [')']

def Formula.text (words : List (Word Operand)) : List Char := words.flatMap (Word.chars Operand.filled)

namespace Chain

def clauses (chain : Chain Operand) : List Clause :=
  chain.first.whereClause :: chain.steps.map fun step => step.2.clause step.1

def parameters (chain : Chain Operand) : List Parameter :=
  chain.first.parameters ++ chain.steps.flatMap fun step => step.2.parameters

def formulas (chain : Chain Operand) : Chain (Formula Operand) where
  first := chain.first.formula
  steps := chain.steps.map fun step => (step.1, step.2.formula)

end Chain

namespace Formula

theorem text_append (first second : List (Word Operand)) : text (first ++ second) = text first ++ text second :=
  List.flatMap_append

theorem text_cons (word : Word Operand) (words : List (Word Operand)) :
    text (word :: words) = word.chars Operand.filled ++ text words :=
  List.flatMap_cons

theorem text_enclosed (words : List (Word Operand)) : text (enclosed words) = '(' :: (text words ++ [')']) := by
  rw [enclosed, text_cons, text_append]
  rfl

theorem text_not (operand : Formula Operand) : text operand.not.words = notChars (text operand.words) := by
  rw [words, text_cons, text_enclosed]
  rfl

theorem text_join (word : Word Operand) (name : String) (left right : List (Word Operand))
    (written : word.chars Operand.filled = ' ' :: (name.toList ++ [' '])) :
    text (enclosed left ++ word :: enclosed right) = Predicate.joinChars name (text left) (text right) := by
  simp only [text_append, text_cons, text_enclosed, written, Predicate.joinChars, List.cons_append, List.append_assoc,
    List.nil_append]

end Formula

theorem Condition.fill_chars (condition : Condition) (parameter : Parameter) :
    Parameter.fill [parameter] condition.chars = Formula.text (condition.formula parameter).words := by
  induction condition with
  | not operand ih =>
    have opening : Holds "not (".toList 0 := .of_plain (by decide)
    calc Parameter.fill [parameter] (notChars operand.chars)
      _ = Parameter.fill [parameter] ("not (".toList ++ operand.chars) ++ [')'] :=
        Parameter.fill_after (opening.before operand.chars_holds) (.of_plain (by decide))
      _ = notChars (Parameter.fill [parameter] operand.chars) :=
        congrArg (· ++ [')']) (Parameter.fill_before [parameter] opening operand.chars)
      _ = Formula.text (Formula.not (operand.formula parameter)).words := by rw [ih, Formula.text_not]
  | written | compare | inList | between => exact (List.append_nil _).symm

theorem Predicate.text_words (predicate : Predicate) : Formula.text predicate.formula.words = predicate.chars := by
  induction predicate with
  | not operand ih => rw [formula, Formula.text_not, ih, chars]
  | and left right first second =>
    rw [formula, Formula.words, Formula.text_join .and "and" _ _ rfl, first, second, chars]
  | or left right first second =>
    rw [formula, Formula.words, Formula.text_join .or "or" _ _ rfl, first, second, chars]
  | written | isNull | isNotNull | eqField =>
    exact (List.append_nil _).trans (Parameter.fill_nil (Predicate.chars_holds _))

namespace Operand

theorem filled_eq (operand : Operand) : operand.filled = Formula.text operand.formula.words := by
  cases operand with
  | bound condition parameter => exact condition.fill_chars parameter
  | unbound predicate => exact (Parameter.fill_nil predicate.chars_holds).trans predicate.text_words.symm

theorem whereClause_chars (operand : Operand) : operand.whereClause.chars = " where ".toList ++ operand.chars := by
  cases operand <;> rfl

theorem clause_chars (operand : Operand) (connective : Connective) :
    (operand.clause connective).chars = connective.word.chars filled ++ operand.chars := by
  cases connective <;> cases operand <;> rfl

theorem clause_holds (operand : Operand) (connective : Connective) :
    Holds (operand.clause connective).chars operand.parameters.length := by
  have plain : Holds (connective.word.chars filled) 0 := .of_plain (by cases connective <;> decide)
  rw [clause_chars]
  exact plain.before operand.chars_holds

theorem fill_clause (operand : Operand) (connective : Connective) :
    Parameter.fill operand.parameters (operand.clause connective).chars =
      Formula.text (connective.word :: operand.formula.words) := by
  have plain : Holds (connective.word.chars filled) 0 := .of_plain (by cases connective <;> decide)
  rw [clause_chars, Parameter.fill_before _ plain, Formula.text_cons, ← filled_eq]
  rfl

end Operand

namespace Chain

theorem fill_steps (steps : List (Connective × Operand)) :
    Parameter.fill (steps.flatMap fun step => step.2.parameters)
      (steps.flatMap fun step => (step.2.clause step.1).chars) =
      Formula.text (steps.flatMap fun step => step.1.word :: step.2.formula.words) := by
  induction steps with
  | nil => rfl
  | cons step steps ih =>
    obtain ⟨connective, operand⟩ := step
    simp only [List.flatMap_cons]
    rw [Parameter.fill_append (operand.clause_holds connective), operand.fill_clause, ih, Formula.text_append]

theorem clauses_chars (chain : Chain Operand) :
    chain.clauses.flatMap Clause.chars = " where ".toList ++ chain.first.chars ++
      chain.steps.flatMap fun step => (step.2.clause step.1).chars := by
  rw [clauses, List.flatMap_cons, List.flatMap_map, Operand.whereClause_chars]

theorem clauses_hold (chain : Chain Operand) :
    Holds (chain.clauses.flatMap Clause.chars) chain.parameters.length := by
  have steps (steps : List (Connective × Operand)) :
      Holds (steps.flatMap fun step => (step.2.clause step.1).chars)
        (steps.flatMap fun step => step.2.parameters).length := by
    induction steps with
    | nil => exact .nil
    | cons step steps ih =>
      simp only [List.flatMap_cons, List.length_append]
      exact (step.2.clause_holds step.1).append ih
  have first : Holds (" where ".toList ++ chain.first.chars) chain.first.parameters.length :=
    (Holds.of_plain (by decide)).before chain.first.chars_holds
  rw [clauses_chars, parameters, List.length_append]
  exact first.append (steps chain.steps)

theorem fill_clauses (chain : Chain Operand) :
    Parameter.fill chain.parameters (chain.clauses.flatMap Clause.chars) =
      " where ".toList ++ Formula.text chain.formulas.words := by
  have word : Holds " where ".toList 0 := .of_plain (by decide)
  have first := Parameter.fill_before chain.first.parameters word chain.first.chars
  have filled : Parameter.fill chain.first.parameters chain.first.chars = Formula.text chain.first.formula.words :=
    chain.first.filled_eq
  rw [clauses_chars, parameters, Parameter.fill_append (word.before chain.first.chars_holds), first, fill_steps, filled]
  simp only [words, formulas, Formula.text_append, List.append_assoc, List.flatMap_map]

end Chain

/-- What a where clause says. Its text is that of the words, which have one reading: the one of the chain in which
every predicate with `and` or `or` for its outermost word is taken apart. So it has the value of the chain, with every
condition and predicate as one operand, if no predicate with an outermost `or` stands beside an `and`. -/
theorem Draft.where_reading (draft : Draft) (chain : Chain Operand) (later : List Clause)
    {earlier rest : List Parameter} (before : earlier.length = draft.slots)
    (filled : (earlier ++ (chain.parameters ++ rest)).length =
      (Draft.mk draft.start (draft.clauses ++ (chain.clauses ++ later))).slots) :
    ∃ statement reading,
      (Draft.mk draft.start (draft.clauses ++ (chain.clauses ++ later))).bind
        (earlier ++ (chain.parameters ++ rest)) filled = .ok statement ∧
      statement.sql.toList = Parameter.fill earlier draft.chars ++ (" where ".toList ++
        Formula.text chain.formulas.words ++ Parameter.fill rest (later.flatMap Clause.chars)) ∧
      Formula.Reads .disjunction chain.formulas.words reading ∧
      (∀ other, Formula.Reads .disjunction chain.formulas.words other → other = reading) ∧
      (∀ truth, reading.value truth = chain.formulas.spliced.value truth) ∧
      (chain.formulas.Separate → ∀ truth, reading.value truth = chain.formulas.value truth) := by
  obtain ⟨statement, bound, text, _, _⟩ := Draft.bind_expanded _ _ filled
  obtain ⟨reading, reads, value⟩ := chain.formulas.words_read
  refine ⟨statement, reading, bound, ?_, reads, fun other again => again.unique reads, value, ?_⟩
  · have whole : (Draft.mk draft.start (draft.clauses ++ (chain.clauses ++ later))).chars =
        draft.chars ++ (chain.clauses.flatMap Clause.chars ++ later.flatMap Clause.chars) := by
      simp only [Draft.chars, List.flatMap_append, List.append_assoc]
    have holds := draft.chars_holds
    rw [← before] at holds
    rw [text, whole]
    change Parameter.fill _ _ = _
    rw [Parameter.fill_append holds, Parameter.fill_append chain.clauses_hold, chain.fill_clauses]
  · intro separate truth
    rw [value, Chain.value_spliced separate]

/-- No `or` stands inside a predicate, so the steps of the chain keep their operands together. -/
theorem Draft.where_reading_conditions :
    let id : Field := ⟨.column (.plain "id" (by decide)), .int64⟩
    let name : Field := ⟨.column (.plain "name" (by decide)), .text⟩
    let table : Table := ⟨.ofSegment (.plain "t" (by decide)), none, [id, name]⟩
    let draft : Draft := ⟨.update table, [.set [name]]⟩
    let chain : Chain Operand := ⟨.bound (.not (.inList id)) (.collection [.int 1, .int 2]),
      [(.and, .unbound (.isNull name)), (.or, .bound (.compare id .eq) (.scalar (.int 7)))]⟩
    let parameters : List Parameter := [.scalar (.text "n"), .collection [.int 1, .int 2], .scalar (.int 7)]
    ∃ (filled : parameters.length = (Draft.mk draft.start (draft.clauses ++ (chain.clauses ++ [.ascending]))).slots)
      (statement : Statement) (reading : Formula Operand),
      (Draft.mk draft.start (draft.clauses ++ (chain.clauses ++ [.ascending]))).bind parameters filled = .ok statement ∧
      statement.sql.toList =
        "update t set name = ? where not (id in (?, ?)) and name is null or id = ? asc".toList ∧
      Formula.Reads .disjunction chain.formulas.words reading ∧
      ∀ truth, reading.value truth = chain.formulas.value truth := by
  intro id name table draft chain parameters
  have before : [Parameter.scalar (.text "n")].length = draft.slots := rfl
  have filled : ([Parameter.scalar (.text "n")] ++ (chain.parameters ++ [])).length =
      (Draft.mk draft.start (draft.clauses ++ (chain.clauses ++ [.ascending]))).slots := rfl
  obtain ⟨statement, reading, bound, text, reads, _, _, value⟩ :=
    Draft.where_reading draft chain [.ascending] before filled
  have separate : chain.formulas.Separate :=
    .cons_cons (fun _ => ⟨fun outer => outer, fun outer => outer⟩)
      (.cons_cons (fun joined => by cases joined) (.singleton _))
  exact ⟨filled, statement, reading, bound, text, reads, value separate⟩

/-- A predicate with an outermost `or` loses its grouping beside `and`: the row that is selected lacks what the second
predicate asks for. -/
theorem Draft.where_regrouped :
    let field (name : String) (word : isWord name.toList) : Field := ⟨.column (.plain name word), .int64⟩
    let missing (name : String) (word : isWord name.toList) : Predicate := .isNull (field name word)
    let table : Table := ⟨.ofSegment (.plain "t" (by decide)), none, []⟩
    let chain : Chain Operand := ⟨.unbound (.or (missing "a" (by decide)) (missing "b" (by decide))),
      [(.and, .unbound (missing "c" (by decide)))]⟩
    let draft : Draft := ⟨.select [field "id" (by decide)], .source table :: chain.clauses⟩
    let truth (operand : Operand) : Bool := operand.chars == "a is null".toList
    ∃ statement reading, draft.bind [] rfl = .ok statement ∧
      statement.sql.toList = "select id from t where (a is null) or (b is null) and c is null".toList ∧
      statement.sql.toList = "select id from t where ".toList ++ Formula.text chain.formulas.words ∧
      Formula.Reads .disjunction chain.formulas.words reading ∧
      (∀ other, Formula.Reads .disjunction chain.formulas.words other → other = reading) ∧
      reading.value truth = true ∧ truth (.unbound (missing "c" (by decide))) = false ∧
      chain.formulas.value truth = false := by
  intro field missing table chain draft truth
  obtain ⟨statement, bound, text, _, _⟩ := draft.bind_expanded [] rfl
  obtain ⟨reading, reads, value⟩ := chain.formulas.words_read
  have written : statement.sql.toList = draft.chars := text.trans (Parameter.fill_nil draft.chars_holds)
  refine ⟨statement, reading, bound, written, written, reads, fun other again => again.unique reads, ?_, rfl, rfl⟩
  exact value truth

end SqlProgram
