/-!
# The node kinds of SCSS

The named nodes that a grammar of SCSS has to declare.  A grammar that lacks one
of them was made from other sources.
-/

namespace GrammarAudit

/-- The kind of the root of every stylesheet. -/
def rootKind : String := "stylesheet"

/-- The kinds of the statements that start with an at-keyword. -/
def statementKinds : List String :=
  ["use_statement", "forward_statement", "mixin_statement", "include_statement",
    "function_statement", "return_statement", "extend_statement", "error_statement",
    "warn_statement", "debug_statement", "at_root_statement", "if_statement", "each_statement",
    "for_statement", "while_statement"]

/-- The kinds of values, expressions and clauses. -/
def valueKinds : List String :=
  ["variable", "interpolation", "placeholder", "list_value", "binary_expression",
    "call_expression", "parameters", "parameter", "else_clause", "else_if_clause"]

/-- All node kinds that a grammar of SCSS has to declare. -/
def stylesheetKinds : List String := rootKind :: statementKinds ++ valueKinds

end GrammarAudit
