import GrammarAudit.Stylesheet.Lexemes

/-!
# Grammar of stylesheets

The rules of the stylesheet language with variables, nesting, mixins and control
statements.  Rules with an underscore at the start make no node of their own.
-/

namespace GrammarAudit.Stylesheet

open Rules Rule

/-- The names of the tokens that are found by the scanner, not by patterns. -/
def scannerTokens : List String :=
  ["_descendant_operator", "_pseudo_class_selector_colon", "__error_recovery", "_concat"]

/-- A value. -/
def value : Rule := ref "_value"

/-- A query of a conditional statement. -/
def query : Rule := ref "_query"

/-- A selector. -/
def selector : Rule := ref "_selector"

/-- A name. -/
def identifier : Rule := ref "identifier"

/-- A name put together from names and interpolations. -/
def joinedName : Rule := ref "_concatenated_identifier"

/-- A block of declarations and statements. -/
def block : Rule := ref "block"

/-- An opening bracket that follows a name immediately. -/
def callBracket : Rule := immediateLiteral "("

/-- The statements that can stand both at the top and in a block, in the order
in which both list them. -/
def plainStatements : List Rule :=
  ["declaration", "rule_set", "import_statement", "media_statement", "charset_statement",
    "namespace_statement", "keyframes_statement", "supports_statement"].map ref

/-- What can stand at the top of a stylesheet. -/
def topLevelItem : Rule :=
  any (plainStatements ++ ["at_rule", "use_statement", "forward_statement", "mixin_statement",
    "include_statement", "if_statement", "each_statement", "for_statement", "while_statement",
    "function_statement", "return_statement", "extend_statement", "error_statement",
    "warn_statement", "debug_statement", "at_root_statement", "postcss_statement"].map ref)

/-- What can stand in a block. -/
def blockItem : Rule :=
  any (plainStatements ++ ["postcss_statement", "at_rule", "mixin_statement", "include_statement",
    "extend_statement", "if_statement", "each_statement", "for_statement", "while_statement",
    "function_statement", "return_statement", "error_statement", "warn_statement",
    "debug_statement", "at_root_statement"].map ref)

/-- A statement of a keyword and a value. -/
def valueStatement (keyword : String) : Rule := all [keyword, value, ";"]

/-- Arguments of a selector: each a selector, if it can be read as one, or
values. -/
def selectorArguments : Rule :=
  all [callBracket, sepBy "," (choice (preferred 1 selector) (many value)), ")"]

/-- A declaration without what ends it. -/
def declarationParts : List Rule :=
  [asKind "property_name" (any [identifier, ref "variable", joinedName]), ":", value,
    star (all [opt ",", value]), opt (ref "important")]

/-- A name or a joined one, as the name of a class. -/
def className : Rule := asKind "class_name" (choice identifier joinedName)

/-- What follows the first part of a joined name. -/
def joinedParts : Rule :=
  all [ref "_concat", any [ref "interpolation", identifier, immediateLiteral "-"]]

/-- The rules for statements of plain stylesheets. -/
def plainRules : List (String × Rule) :=
  [("stylesheet", star (ref "_top_level_item")),
    ("_top_level_item", topLevelItem),
    ("import_statement", all ["@import", value, sepBy "," query, ";"]),
    ("media_statement", all ["@media", sepBy1 "," query, block]),
    ("charset_statement", valueStatement "@charset"),
    ("namespace_statement",
      all ["@namespace", opt (asKind "namespace_name" identifier),
        choice (ref "string_value") (ref "call_expression"), ";"]),
    ("keyframes_statement",
      all [choice "@keyframes" (asKind "at_keyword" (lexeme Lexemes.prefixedKeyframes)),
        asKind "keyframes_name" identifier, ref "keyframe_block_list"]),
    ("keyframe_block_list", all ["\x7b", star (ref "keyframe_block"), "\x7d"]),
    ("keyframe_block", all [any [ref "from", ref "to", ref "integer_value"], block]),
    ("from", "from"),
    ("to", "to"),
    ("supports_statement", all ["@supports", query, block]),
    ("postcss_statement", prec (-1) (all [ref "at_keyword", star value, ";"])),
    ("at_rule", all [ref "at_keyword", sepBy "," query, choice ";" block]),
    ("rule_set", all [ref "selectors", block]),
    ("selectors", sepBy1 "," selector),
    ("block",
      all ["\x7b", star (ref "_block_item"), opt (asKind "declaration" (ref "last_declaration")),
        "\x7d"]),
    ("_block_item", blockItem)]

/-- The rules for selectors. -/
def selectorRules : List (String × Rule) :=
  [("_selector",
      any [ref "universal_selector", asKind "tag_name" identifier, ref "class_selector",
        ref "nesting_selector", ref "pseudo_class_selector", ref "pseudo_element_selector",
        ref "id_selector", ref "attribute_selector", ref "string_value", ref "child_selector",
        ref "descendant_selector", ref "sibling_selector", ref "adjacent_sibling_selector",
        ref "namespace_selector", asKind "tag_name" joinedName, ref "placeholder"]),
    ("nesting_selector", "&"),
    ("universal_selector", "*"),
    ("class_selector",
      prec 1 (all [opt selector, choice "." (ref "nesting_selector"), className])),
    ("pseudo_class_selector",
      all [opt selector, asLiteral ":" (ref "_pseudo_class_selector_colon"), className,
        opt (asKind "arguments" (ref "pseudo_class_arguments"))]),
    ("pseudo_element_selector",
      all [opt selector, "::", asKind "tag_name" identifier,
        opt (asKind "arguments" (ref "pseudo_element_arguments"))]),
    ("id_selector", all [opt selector, "#", asKind "id_name" identifier]),
    ("attribute_selector",
      all [opt selector, "[",
        asKind "attribute_name" (choice identifier (ref "namespace_selector")),
        opt (all [any ["=", "~=", "^=", "|=", "*=", "$="], value]), "]"]),
    ("child_selector", leftAssoc (all [selector, ">", selector])),
    ("descendant_selector", leftAssoc (all [selector, ref "_descendant_operator", selector])),
    ("sibling_selector", leftAssoc (all [selector, "~", selector])),
    ("adjacent_sibling_selector", leftAssoc (all [selector, "+", selector])),
    ("namespace_selector", leftAssoc (all [selector, "|", selector])),
    ("pseudo_class_arguments", selectorArguments),
    ("pseudo_element_arguments", selectorArguments)]

/-- The rules for declarations and queries. -/
def declarationRules : List (String × Rule) :=
  [("declaration", all (declarationParts ++ [literal ";"])),
    ("last_declaration", prec 1 (all declarationParts)),
    ("important", "!important"),
    ("_query",
      any [asKind "keyword_query" identifier, ref "feature_query", ref "binary_query",
        ref "unary_query", ref "selector_query", ref "parenthesized_query",
        prec (-1) (ref "interpolation")]),
    ("feature_query", all ["(", asKind "feature_name" identifier, ":", many value, ")"]),
    ("parenthesized_query", all ["(", query, ")"]),
    ("binary_query", leftAssoc (all [query, choice "and" "or", query])),
    ("unary_query", prec 1 (all [choice "not" "only", query])),
    ("selector_query", all ["selector", "(", selector, ")"])]

/-- The rules for values, and the tokens they are made of. -/
def valueRules : List (String × Rule) :=
  [("_value",
      any [prec (-1) (any [asKind "plain_value" identifier, ref "plain_value", ref "color_value",
          ref "integer_value", ref "float_value", ref "string_value", ref "grid_value",
          ref "binary_expression", ref "parenthesized_value", ref "call_expression"]),
        prec (-1) (choice (ref "nesting_selector") joinedName), ref "list_value", ref "variable"]),
    ("parenthesized_value", all ["(", value, ")"]),
    ("color_value", all ["#", immediateLexeme Lexemes.colorDigits]),
    ("string_value",
      choice (all ["'", lexeme (Lexemes.quotedText '\''), "'"])
        (all ["\"", lexeme (Lexemes.quotedText '"'), "\""])),
    ("integer_value", all [lexeme Lexemes.integer, opt (ref "unit")]),
    ("float_value", all [lexeme Lexemes.float, opt (ref "unit")]),
    ("unit", immediateLexeme Lexemes.unit),
    ("grid_value", all ["[", sepBy1 "," value, "]"]),
    ("call_expression",
      all [asKind "function_name" (choice identifier (ref "plain_value")), ref "arguments"]),
    ("binary_expression",
      leftAssoc (all [value, any ["+", "-", "*", "/", "==", "<", ">", "!=", "<=", ">="], value])),
    ("arguments", all [callBracket, sepBy (choice "," ";") (many value), ")"]),
    ("identifier", lexeme Lexemes.identifier),
    ("at_keyword", lexeme Lexemes.atKeyword),
    ("js_comment", lexeme Lexemes.lineComment),
    ("comment", lexeme Lexemes.blockComment),
    ("plain_value", lexeme Lexemes.plainValue)]

/-- The rules for modules, mixins, functions and control statements. -/
def programRules : List (String × Rule) :=
  [("use_statement", valueStatement "@use"),
    ("forward_statement", valueStatement "@forward"),
    ("parameters", all ["(", sepBy1 "," (ref "parameter"), ")"]),
    ("parameter",
      all [field "name" (ref "variable"), opt (all [":", field "default" value])]),
    ("mixin_statement",
      all ["@mixin", field "name" identifier, opt (ref "parameters"), block]),
    ("include_statement",
      all ["@include", identifier, opt (asKind "arguments" (ref "_include_arguments")),
        choice block ";"]),
    ("_include_arguments",
      all [callBracket, sepBy "," (asKind "argument" (ref "_include_argument")),
        immediateLiteral ")"]),
    ("_include_argument",
      all [opt (all [field "name" (ref "variable"), ":"]), field "value" value]),
    ("placeholder", all ["%", identifier]),
    ("extend_statement", all ["@extend", choice value (ref "class_selector"), ";"]),
    ("if_statement",
      all ["@if", field "condition" value, block, star (ref "else_if_clause"),
        opt (ref "else_clause")]),
    ("else_if_clause", all ["@else", "if", field "condition" value, block]),
    ("else_clause", all ["@else", block]),
    ("while_statement", all ["@while", field "condition" value, block]),
    ("function_statement",
      all ["@function", field "name" identifier, opt (ref "parameters"), block]),
    ("return_statement", valueStatement "@return"),
    ("each_statement",
      all ["@each", opt (all [field "key" (ref "variable"), ","]),
        field "value" (ref "variable"), "in", value, block]),
    ("for_statement",
      all ["@for", ref "variable", "from", field "from" value, "through",
        field "through" value, block]),
    ("error_statement", valueStatement "@error"),
    ("warn_statement", valueStatement "@warn"),
    ("debug_statement", valueStatement "@debug"),
    ("at_root_statement", all ["@at-root", value, block]),
    ("interpolation", all ["#\x7b", value, "\x7d"]),
    ("list_value", all ["(", value, many (all [",", value]), ")"]),
    ("_concatenated_identifier",
      choice (all [identifier, many joinedParts])
        (all [ref "interpolation", star joinedParts])),
    ("variable", lexeme Lexemes.variableName)]

/-- The grammar of stylesheets. -/
def grammar : Grammar where
  rules := plainRules ++ selectorRules ++ declarationRules ++ valueRules ++ programRules
  scannerTokens := scannerTokens
  separators := .chars .spaces
  extras := ["comment", "js_comment"]
  inlined := ["_top_level_item", "_block_item"]

end GrammarAudit.Stylesheet
