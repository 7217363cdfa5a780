import SqlProgram.Quote

/-!
Why input to a builder, or a setting, is refused.
-/

namespace SqlProgram

inductive Rejection where
  | blankIdentifier
  | nulInIdentifier
  | emptyQuotedIdentifier
  | unclosedQuotedIdentifier
  | emptySegment
  | segmentStart (name : String)
  | segmentCharacter (c : Char) (name : String)
  | trailingDot (text : String)
  | textAfterSegment (text : String)
  | unterminatedQuote (quote : Quote) (text : String)
  | blankCondition
  | conditionPlaceholders (count : Nat) (text : String)
  | blankPredicate
  | predicatePlaceholders (text : String)
  | blankStatement
  | statementPlaceholders (count : Nat)
  | fragmentPlaceholders (text : String)
  | missingUrl
  | settingNotNumber (key text : String)
  | blankUrl
  /-- Whatever else a caller refuses. -/
  | caller (message : String)

namespace Rejection

def message : Rejection → String
  | .blankIdentifier => "identifier cannot be empty"
  | .nulInIdentifier => "identifier cannot contain NUL"
  | .emptyQuotedIdentifier => "quoted identifier cannot be empty"
  | .unclosedQuotedIdentifier => "unclosed quoted identifier"
  | .emptySegment => "empty identifier segment"
  | .segmentStart name => s!"identifier '{name}' must start with a letter or '_'"
  | .segmentCharacter c name => s!"invalid character '{c}' in identifier '{name}'"
  | .trailingDot text => s!"trailing '.' in '{text}'"
  | .textAfterSegment text => s!"unexpected text after identifier segment in '{text}'"
  | .unterminatedQuote quote text => s!"unterminated {quote.name} quote in `{text}`"
  | .blankCondition => "condition text cannot be empty"
  | .conditionPlaceholders count text =>
    s!"condition must hold exactly one placeholder, found {count} in `{text}`"
  | .blankPredicate => "predicate text cannot be empty"
  | .predicatePlaceholders text => s!"predicate cannot hold placeholders: `{text}`"
  | .blankStatement => "SQL text cannot be empty"
  | .statementPlaceholders count =>
    s!"raw SQL cannot hold placeholders (found {count}); use conditions to add bound values"
  | .fragmentPlaceholders text => s!"fragment cannot hold placeholders: `{text}`"
  | .missingUrl => "DATABASE_URL is not set"
  | .settingNotNumber key text => s!"{key} must be a non-negative integer, got `{text}`"
  | .blankUrl => "database url must not be empty"
  | .caller message => message

end Rejection

end SqlProgram
