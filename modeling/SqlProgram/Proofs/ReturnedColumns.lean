import Mathlib.Data.List.TakeWhile
import SqlProgram.Proofs.FieldPositions
import SqlProgram.Proofs.NameGrammar
import SqlProgram.Proofs.ReturnedFields

/-!
The column that a changed row is asked for, and the column of that row that a field reads. They are the same unless the
field was renamed: what it was renamed to is not asked for, but it is looked for.
-/

namespace SqlProgram

/-- The name that a database gives to the column of a text: to a function its name, to a column that of its last
segment. -/
def resultNameOf? (text : String) : Option String :=
  match text.toList.dropWhile isWordPart with
  | '(' :: _ => some (Text.foldCase (String.ofList (text.toList.takeWhile isWordPart)))
  | _ => (Ident.parse text).toOption.map fun name => name.last.resultName

theorem resultNameOf?_call {function : String} (word : ∀ c ∈ function.toList, isWordPart c) (arguments : List Char) :
    resultNameOf? (String.ofList (Expr.call function arguments)) = some (Text.foldCase function) := by
  have bracket : isWordPart '(' = false := by decide
  have behind : (Expr.call function arguments).dropWhile isWordPart = '(' :: (arguments ++ [')']) := by
    rw [Expr.call, List.dropWhile_append_of_pos word, List.dropWhile_cons_of_neg (by simp [bracket])]
  have before : (Expr.call function arguments).takeWhile isWordPart = function.toList := by
    rw [Expr.call, List.takeWhile_append_of_pos word, List.takeWhile_cons_of_neg (by simp [bracket]), List.append_nil]
  rw [resultNameOf?, String.toList_ofList, behind, before, String.ofList_toList]
  rfl

theorem Segment.resultNameOf?_chars (segment : Segment) :
    resultNameOf? (String.ofList segment.chars) = some segment.resultName := by
  have behind : ∀ rest, segment.chars.dropWhile isWordPart ≠ '(' :: rest := by
    cases segment with
    | plain name word =>
      obtain ⟨c, rest, same, _, parts⟩ := plain_chars word
      have ended : (plain name word).chars.dropWhile isWordPart = [] := by
        rw [chars, same, List.dropWhile_eq_nil_iff]
        exact parts
      intro rest opens
      rw [ended] at opens
      cases opens
    | quoted name quotable =>
      intro rest same
      cases same
  have parsed : Ident.parse (String.ofList segment.chars) = .ok (.ofSegment segment) :=
    (Ident.ofSegment segment).parse_text
  rw [resultNameOf?, String.toList_ofList]
  split
  next rest opens => exact absurd opens (behind rest)
  next => rw [parsed]; rfl

namespace Expr

def bare : Expr → Expr
  | .renamed expr _ => expr.bare
  | expr => expr

def IsRenamed : Expr → Prop
  | .renamed _ _ => True
  | _ => False

theorem resultNameOf?_bareChars (expr : Expr) :
    resultNameOf? (String.ofList expr.bareChars) = some expr.bare.resultName := by
  induction expr with
  | column name | qualified _ name => exact name.resultNameOf?_chars
  | aggregate function argument =>
    have word : function.name.toList.all isWordPart := by cases function <;> rfl
    exact (resultNameOf?_call (List.all_eq_true.mp word) argument.chars).trans (congrArg some function.foldCase_name)
  | coalesce argument default =>
    have word : "coalesce".toList.all isWordPart := rfl
    have lowered : Text.foldCase "coalesce" = "coalesce" := by decide
    exact (resultNameOf?_call (List.all_eq_true.mp word) _).trans (congrArg some lowered)
  | renamed expr name ih => exact ih

theorem bare_of_original {expr : Expr} (original : ¬ expr.IsRenamed) : expr.bare = expr := by
  cases expr with
  | renamed expr name => exact absurd trivial original
  | _ => rfl

theorem finds_resultName (expr : Expr) : expr.label = expr.resultName ∨ expr.names expr.resultName := by
  obtain ⟨-, exactly⟩ | ⟨folds, lowered⟩ := expr.names_or
  · exact .inl exactly.symm
  · rw [folds, lowered]
    exact .inr (Text.sameFolded_foldCase expr.label)

end Expr

namespace Field

/-- In a row of one column, a field finds a column of the given name. -/
def Finds (field : Field) (column : String) : Prop := field.label = column ∨ field.names column

theorem indexIn_single {field : Field} {layout : RowLayout} {column : String} (single : layout.names = [column]) :
    (field.Finds column → field.indexIn layout = some 0) ∧ (¬ field.Finds column → field.indexIn layout = none) := by
  have searched : field.indexIn layout =
      ([column].findIdx? (· == field.label)).or ([column].findIdx? field.names) := by
    rw [← single]
    exact layout.findEither?_eq (· == field.expr.label) field.expr.names
  rw [searched]
  unfold Finds
  by_cases spelled : field.label = column
  · simp [spelled]
  · have other : ¬ column = field.label := fun same => spelled same.symm
    cases named : field.names column <;> simp [spelled, other, named]

theorem get_single {field : Field} {row : Row} {column : String} {value : Value} (single : row.layout.names = [column])
    (holds : row.values = [value]) :
    (field.Finds column →
      row.get field = (field.type.decode value).mapError fun cause => .decode field.label (.mismatch cause)) ∧
      (¬ field.Finds column → row.get field = .error (.decode field.label .absent)) := by
  obtain ⟨found, missed⟩ := field.indexIn_single single
  refine ⟨fun finds => ?_, fun finds => ?_⟩
  · rw [Row.get, found finds]
    simp only [Row.decodeAt, holds, List.getElem?_cons_zero]
  · rw [Row.get, missed finds]

end Field

/-- What is said for a field of a changed row, and how that ends if the row has one column, the one that was asked
for. -/
structure ColumnReturned (field : Field) (said : List (κ × Exchange)) (outcome : Outcome (Option field.type.Carrier)) :
    Prop where
  asked : ∀ connection statement column answer,
    (connection, ⟨.updateReturning statement column, answer⟩) ∈ said → column = field.bareText
  /-- A field that finds the column yields what its value stands for. -/
  decoded : ∀ row column value, Changed said row → Committed said → resultNameOf? field.bareText = some column →
    row.layout.names = [column] → row.values = [value] → field.Finds column →
      outcome = (Outcome.ofExcept
        ((field.type.decode value).mapError fun cause => .decode field.label (.mismatch cause))).map some
  /-- A field that does not find it fails after the change was kept. -/
  missed : ∀ row column value, Changed said row → Committed said → resultNameOf? field.bareText = some column →
    row.layout.names = [column] → row.values = [value] → ¬ field.Finds column →
      outcome = .failed (.decode field.label .absent)

namespace ColumnReturned

variable {field : Field} {said : List (κ × Exchange)} {outcome : Outcome (Option field.type.Carrier)}

theorem of_read
    (asked : ∀ connection statement column answer,
      (connection, ⟨.updateReturning statement column, answer⟩) ∈ said → column = field.bareText)
    (read : ∀ row, Changed said row → Committed said → outcome = (Outcome.ofExcept (row.get field)).map some) :
    ColumnReturned field said outcome where
  asked := asked
  decoded row column value changed committed _ single holds finds := by
    rw [read row changed committed, (Field.get_single single holds).1 finds]
  missed row column value changed committed _ single holds finds := by
    rw [read row changed committed, (Field.get_single single holds).2 finds]
    rfl

theorem of_carried {statement : Statement} {exchanges : List Exchange} {result : Outcome (Option Row)}
    (carried : Leaf.Carried ⟨.updateReturning field.bareText, statement⟩ exchanges result) (connection : κ) :
    ColumnReturned field (exchanges.map fun exchange => (connection, exchange))
      (result.bind (Program.readOptional fun row => .ofExcept (row.get field))) := by
  refine of_read (fun other asked column answer member => ?_) fun row changed kept => ?_
  · obtain ⟨exchange, inside, same⟩ := List.mem_map.mp member
    cases same
    cases carried <;> simp at inside
    all_goals exact inside.1.2
  · cases carried with
    | kept _ _ returned committed =>
      have done : committed = .ok () := by simpa [Committed, eq_comm] using kept
      rw [(changed_iff ..).mp changed, done]
      rfl
    | unbegun | beginPanicked | statementPanicked | takenBack => simp [Committed] at kept

theorem of_refused (outcome : Outcome (Option field.type.Carrier)) :
    ColumnReturned field ([] : List (κ × Exchange)) outcome :=
  of_read nofun fun _ ⟨_, _, _, impossible⟩ => nomatch impossible

theorem of_served {service : Service σ κ} (sound : service.Sound) {statement : Statement}
    (served : (Program.updateReturning statement field).course.Served service state turns outcome later) :
    ColumnReturned field (turns.flatMap Turn.said) outcome := by
  rcases served.of_returning sound with ⟨said, _⟩ | ⟨connection, exchanges, result, carried, said, rfl⟩
  · exact said ▸ of_refused outcome
  · exact said ▸ of_carried carried connection

end ColumnReturned

/-- However it is run, whatever the backend answers: a leaf asks for its field as it is written without alias, and a row
of the one column that this makes is decoded, or the field does not find the column. Any field finds it that was not
renamed. -/
theorem Program.updateReturning_reads_asked (backend : Backend σ κ) (statement : Statement) (field : Field)
    (world : World σ κ) :
    (∃ column, resultNameOf? field.bareText = some column ∧ (¬ field.expr.IsRenamed → field.Finds column)) ∧
      (updateReturning statement field).EveryRun backend world fun turns outcome =>
        ColumnReturned field (turns.flatMap Turn.said) outcome := by
  refine ⟨⟨_, field.expr.resultNameOf?_bareChars, fun original => ?_⟩, ?_⟩
  · rw [Expr.bare_of_original original]
    exact field.expr.finds_resultName
  · exact everyRun_of_served (fun outcome _ => .of_refused outcome) (fun sound served => .of_served sound served) world

def Script.returning (row : Row) : Script.State where
  acquire := []
  begin := []
  commit := []
  rollback := []
  update := []
  updateReturning := [.ofOutcome (.ok (some row))]
  query := []
  lent := 0

/-- A function of a function of a quoted column that was renamed in between. -/
theorem Program.updateReturning_reads_asked_nested :
    let statement : Statement := ⟨"insert into t values (1)", []⟩
    let column : Expr := .qualified ⟨[], .plain "t" (by decide)⟩ (.quoted "N" (by decide))
    let inner : Expr := .renamed (.coalesce column (.int 0)) ⟨[], .plain "n" (by decide)⟩
    let field : Field := ⟨.aggregate .max inner, .int64⟩
    let program := updateReturning statement field
    let row : Row := ⟨⟨[⟨"max", "", none⟩]⟩, [.int 7], rfl⟩
    let backend := Script.backend false
    let world : World Script.State Nat := .ofState (Script.returning row)
    let outcome := .ok (some (7 : Int64))
    resultNameOf? field.bareText = some "max" ∧ field.Finds "max" ∧
      (program.runDirect backend world).1 = some outcome ∧
      ∃ turns, Blocking.Took backend program world turns outcome (program.runDirect backend world).2 ∧
        ColumnReturned field (turns.flatMap Turn.said) outcome := by
  intro statement column inner field program row backend world outcome
  have returned : (program.runDirect backend world).1 = some outcome := by
    rw [runDirect, runWith, Blocking.job, dialogue_eq_meaning]
    rfl
  obtain ⟨⟨name, named, finds⟩, runs⟩ := updateReturning_reads_asked backend statement field world
  cases named.symm.trans field.expr.resultNameOf?_bareChars
  exact ⟨named, finds id, returned, runs.direct outcome returned⟩

/-- A field that was renamed is asked for as it was before, so the row that comes back is not the one it looks for. -/
theorem Program.updateReturning_renamed_unread :
    ¬ ∀ (statement : Statement) (field : Field) (row : Row) (column : String) (value : Value),
      resultNameOf? field.bareText = some column → row.layout.names = [column] → row.values = [value] →
        ((updateReturning statement field).runDirect (Script.backend false) (.ofState (Script.returning row))).1 ≠
          some (.failed (.decode field.label .absent)) := by
  intro reads
  let id : Field := .ofIdent .int64 ⟨[], .plain "id" (by decide)⟩
  let field : Field := id.renamed ⟨[], .plain "total" (by decide)⟩
  let row : Row := ⟨⟨[⟨"id", "", none⟩]⟩, [.int 7], rfl⟩
  apply reads ⟨"insert into t values (1)", []⟩ field row "id" (.int 7) field.expr.resultNameOf?_bareChars rfl rfl
  rw [runDirect, runWith, Blocking.job, dialogue_eq_meaning]
  rfl

end SqlProgram
