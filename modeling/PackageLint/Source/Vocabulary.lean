import PackageLint.Pattern.Reader

/-!
# The vocabulary of composition

The tokens by which reducer bodies and builders are recognised in source. The meaning of the
component pattern is kept beside its text, so that everything said of vocabularies holds for any
meaning of it.
-/

namespace PackageLint.Source

/-- The tokens that the composition checks look for. -/
structure Vocabulary where
  /-- Opens a reducer body. -/
  bodyTrigger : String := "var body: some ReducerOf<Self>"
  /-- Opens a builder. -/
  builderTrigger : String := "@ReducerBuilder<"
  /-- Groups reducers explicitly. -/
  groupingToken : String := "CombineReducers("
  /-- Mark a line that wraps other reducers and is no component itself. -/
  wrapperTokens : List String := ["CombineReducers(", "Scope("]
  /-- Mark a line that is a component. -/
  componentLiterals : List String := [
    "Reduce(", "BindingReducer(", "IfLetReducer(", "ForEachReducer(", "WhileReducer(",
    "OverrideReducer("]
  /-- The text of the pattern that marks a line as a component. -/
  componentPattern : String := "^\\w+Feature\\(\\)|^\\w+Reducer\\(\\)"
  /-- The meaning of that pattern. -/
  isComponentCall : List Char → Bool := Pattern.occurs componentPattern
  /-- Begin a line with a condition. -/
  conditionalPrefixes : List String := ["if ", "if(", "guard ", "guard(", "switch "]
  /-- Mark a line with a condition inside an expression. -/
  ternaryMarkers : List String := [" ? ", " : "]
  /-- Begin a line with a further branch of a condition. -/
  branchPrefixes : List String := ["else", "case ", "default:"]

end PackageLint.Source
