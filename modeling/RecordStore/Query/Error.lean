import RecordStore.Value.Printer

/-!
# Faults of statements

Why a statement is refused: its text does not have the expected form, or it uses a parameter in a way that the
bound values do not allow.
-/

namespace RecordStore
namespace Query

/-- Why a statement is refused. -/
inductive QueryError where
  | empty
  | noLoop (line : String)
  | unsupportedClause (line : String)
  | andWithoutFilter
  | incompleteCondition (text : String)
  | unknownOperator (symbol : String)
  | foreignPath (variableName text : String)
  | emptyPath (text : String)
  | invalidOperand (text : String)
  | invalidSortKey (text : String)
  | invalidLimit (text : String)
  | foreignReturn (variableName : String)
  | clauseAfterReturn (line : String)
  | noReturn
  | notAName (value : Value)
  | unboundParameter (name : String)
  deriving Repr

namespace QueryError

def message : QueryError → String
  | empty => "query is empty"
  | noLoop line => "expected FOR clause, got: " ++ line
  | unsupportedClause line => "unsupported clause: " ++ line
  | andWithoutFilter => "AND without FILTER"
  | incompleteCondition text => "incomplete condition: " ++ text
  | unknownOperator symbol => "unknown operator: " ++ symbol
  | foreignPath variableName text => "attribute path must start with '" ++ variableName ++ "': " ++ text
  | emptyPath text => "empty attribute path: " ++ text
  | invalidOperand text => "invalid operand: " ++ text
  | invalidSortKey text => "invalid sort key: " ++ text
  | invalidLimit text => "invalid LIMIT value: " ++ text
  | foreignReturn variableName => "can only return the loop variable '" ++ variableName ++ "'"
  | clauseAfterReturn line => "unexpected clause after RETURN: " ++ line
  | noReturn => "query has no RETURN clause"
  | notAName value => "expected a name, got bind value " ++ value.text
  | unboundParameter name => "bind parameter '" ++ name ++ "' was not declared in the query"

end QueryError

end Query
end RecordStore
