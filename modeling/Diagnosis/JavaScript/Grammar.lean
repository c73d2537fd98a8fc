import Diagnosis.Grammar.Rule
import Diagnosis.JavaScript.Token

/-!
# The grammar of JavaScript

The constructs of the language, with the markup extension. A construct whose name begins with an
underscore does not appear in trees, and neither does one of the `supertypes`, which stand for
whichever of their alternatives is there.

The rules alone are ambiguous in two ways, and the grammar settles them differently.

* Operators bind as the chains of `precedences` say. This is settled once, in the automaton.
* Some beginnings fit two constructs: `(a, b)` may become a list of parameters, and `[a]` a pattern.
  Here the parser follows both ways until one of them fails.
-/

namespace Diagnosis.JavaScript

open Diagnosis.Grammar
open Diagnosis.Grammar.Rule

/-- The operations with two operands: the operator, its precedence, and whether it groups on the
right. -/
def binaryOperators : List (String × String × Bool) :=
  [("&&", "logical_and", false), ("||", "logical_or", false), (">>", "binary_shift", false),
    (">>>", "binary_shift", false), ("<<", "binary_shift", false), ("&", "bitwise_and", false),
    ("^", "bitwise_xor", false), ("|", "bitwise_or", false), ("+", "binary_plus", false),
    ("-", "binary_plus", false), ("*", "binary_times", false), ("/", "binary_times", false),
    ("%", "binary_times", false), ("**", "binary_exp", true), ("<", "binary_relation", false),
    ("<=", "binary_relation", false), ("==", "binary_equality", false),
    ("===", "binary_equality", false), ("!=", "binary_equality", false),
    ("!==", "binary_equality", false), (">=", "binary_relation", false),
    (">", "binary_relation", false), ("??", "ternary", false),
    ("instanceof", "binary_relation", false), ("in", "binary_relation", false)]

/-- The rules of the operations with two operands. Only `in` takes a private name on its left. -/
def binaryOperations : List (Rule String) :=
  binaryOperators.map fun (operator, precedence, groupsRight) =>
    let operand : Rule String :=
      if operator == "in" then choice [ref "expression", ref "private_property_identifier"]
      else ref "expression"
    let operation := seq [field "left" operand, field "operator" (.text operator),
      field "right" (ref "expression")]
    if groupsRight then right (.named precedence) operation
    else left (.named precedence) operation

/-- The whole text, imports and exports. -/
def moduleRules : List (String × Rule String) :=
  [("program", seq [optional (ref "hash_bang_line"), many (ref "statement")]),
    ("hash_bang_line", Token.hashBang),
    ("export_statement", choice [
      seq ["export",
        choice [seq ["*", ref "_from_clause"], seq [ref "namespace_export", ref "_from_clause"],
          seq [ref "export_clause", ref "_from_clause"], ref "export_clause"], ref "_semicolon"],
      seq [many (field "decorator" (ref "decorator")), "export",
        choice [field "declaration" (ref "declaration"),
          seq ["default",
            choice [field "declaration" (ref "declaration"),
              seq [field "value" (ref "expression"), ref "_semicolon"]]]]]]),
    ("namespace_export", seq ["*", "as", ref "_module_export_name"]),
    ("export_clause", seq ["\x7b", commaList (ref "export_specifier"), optional ",", "\x7d"]),
    ("export_specifier", seq [field "name" (ref "_module_export_name"),
      optional (seq ["as", field "alias" (ref "_module_export_name")])]),
    ("_module_export_name", choice [ref "identifier", ref "string", "default"]),
    ("declaration", choice [ref "function_declaration", ref "generator_function_declaration",
      ref "class_declaration", ref "lexical_declaration", ref "variable_declaration",
      ref "using_declaration"]),
    ("import", token "import"),
    ("import_statement", seq ["import",
      choice [seq [ref "import_clause", ref "_from_clause"], field "source" (ref "string")],
      optional (ref "import_attribute"), ref "_semicolon"]),
    ("import_clause", choice [ref "namespace_import", ref "named_imports",
      seq [ref "identifier",
        optional (seq [",", choice [ref "namespace_import", ref "named_imports"]])]]),
    ("_from_clause", seq ["from", field "source" (ref "string")]),
    ("namespace_import", seq ["*", "as", ref "identifier"]),
    ("named_imports", seq ["\x7b", commaList (ref "import_specifier"), optional ",", "\x7d"]),
    ("import_specifier", choice [field "name" (ref "identifier"),
      seq [field "name" (ref "_module_export_name"), "as", field "alias" (ref "identifier")]]),
    ("import_attribute", seq ["with", ref "object"])]

/-- Statements and the declarations of variables. -/
def statementRules : List (String × Rule String) :=
  [("statement", choice [ref "export_statement", ref "import_statement", ref "debugger_statement",
      ref "expression_statement", ref "declaration", ref "statement_block", ref "if_statement",
      ref "switch_statement", ref "for_statement", ref "for_in_statement", ref "while_statement",
      ref "do_statement", ref "try_statement", ref "with_statement", ref "break_statement",
      ref "continue_statement", ref "return_statement", ref "throw_statement",
      ref "empty_statement", ref "labeled_statement"]),
    ("expression_statement", seq [ref "_expressions", ref "_semicolon"]),
    ("variable_declaration", seq ["var", commaList1 (ref "variable_declarator"), ref "_semicolon"]),
    ("lexical_declaration", seq [field "kind" (choice ["let", "const"]),
      commaList1 (ref "variable_declarator"), ref "_semicolon"]),
    ("using_declaration", seq [field "kind" (choice ["using", seq ["await", "using"]]),
      commaList1 (ref "variable_declarator"), ref "_semicolon"]),
    ("variable_declarator", seq [
      field "name" (choice [ref "identifier", ref "_destructuring_pattern"]),
      optional (ref "_initializer")]),
    ("statement_block", right 0 (seq ["\x7b", many (ref "statement"), "\x7d",
      optional (ref "_automatic_semicolon")])),
    ("else_clause", seq ["else", ref "statement"]),
    ("if_statement", right 0 (seq ["if", field "condition" (ref "parenthesized_expression"),
      field "consequence" (ref "statement"), optional (field "alternative" (ref "else_clause"))])),
    ("switch_statement", seq ["switch", field "value" (ref "parenthesized_expression"),
      field "body" (ref "switch_body")]),
    ("for_statement", seq ["for", "(",
      choice [field "initializer" (choice [ref "lexical_declaration", ref "variable_declaration"]),
        seq [field "initializer" (ref "_expressions"), ";"],
        field "initializer" (ref "empty_statement")],
      field "condition" (choice [seq [ref "_expressions", ";"], ref "empty_statement"]),
      field "increment" (optional (ref "_expressions")), ")", field "body" (ref "statement")]),
    ("for_in_statement", seq ["for", optional "await", ref "_for_header",
      field "body" (ref "statement")]),
    ("_for_header", seq ["(",
      choice [field "left" (choice [ref "_lhs_expression", ref "parenthesized_expression"]),
        seq [field "kind" "var",
          field "left" (choice [ref "identifier", ref "_destructuring_pattern"]),
          optional (ref "_initializer")],
        seq [field "kind" (choice ["let", "const"]),
          field "left" (choice [ref "identifier", ref "_destructuring_pattern"]),
          optional (ref "_automatic_semicolon")]], field "operator" (choice ["in", "of"]),
      field "right" (ref "_expressions"), ")"]),
    ("while_statement", seq ["while", field "condition" (ref "parenthesized_expression"),
      field "body" (ref "statement")]),
    ("do_statement", right 0 (seq ["do", field "body" (ref "statement"), "while",
      field "condition" (ref "parenthesized_expression"), optional (ref "_semicolon")])),
    ("try_statement", seq ["try", field "body" (ref "statement_block"),
      optional (field "handler" (ref "catch_clause")),
      optional (field "finalizer" (ref "finally_clause"))]),
    ("with_statement", seq ["with", field "object" (ref "parenthesized_expression"),
      field "body" (ref "statement")]),
    ("break_statement", seq ["break",
      field "label" (optional (named "statement_identifier" (ref "identifier"))),
      ref "_semicolon"]),
    ("continue_statement", seq ["continue",
      field "label" (optional (named "statement_identifier" (ref "identifier"))),
      ref "_semicolon"]),
    ("debugger_statement", seq ["debugger", ref "_semicolon"]),
    ("return_statement", seq ["return", optional (ref "_expressions"), ref "_semicolon"]),
    ("throw_statement", seq ["throw", ref "_expressions", ref "_semicolon"]),
    ("empty_statement", ";"),
    ("labeled_statement", weighted (-1) (seq [
      field "label" (named "statement_identifier" (choice [ref "identifier",
        ref "_reserved_identifier"])), ":", field "body" (ref "statement")])),
    ("switch_body", seq ["\x7b", many (choice [ref "switch_case", ref "switch_default"]), "\x7d"]),
    ("switch_case", seq ["case", field "value" (ref "_expressions"), ":",
      field "body" (many (ref "statement"))]),
    ("switch_default", seq ["default", ":", field "body" (many (ref "statement"))]),
    ("catch_clause", seq ["catch",
      optional (seq ["(",
        field "parameter" (choice [ref "identifier", ref "_destructuring_pattern"]), ")"]),
      field "body" (ref "statement_block")]),
    ("finally_clause", seq ["finally", field "body" (ref "statement_block")])]

/-- What an expression may be, and the constructs that may be patterns. -/
def patternRules : List (String × Rule String) :=
  [("parenthesized_expression", seq ["(", ref "_expressions", ")"]),
    ("_expressions", choice [ref "expression", ref "sequence_expression"]),
    ("expression", choice [ref "primary_expression", ref "_jsx_element",
      ref "assignment_expression", ref "augmented_assignment_expression", ref "await_expression",
      ref "unary_expression", ref "binary_expression", ref "ternary_expression",
      ref "update_expression", ref "new_expression", ref "yield_expression"]),
    ("primary_expression", choice [ref "subscript_expression", ref "member_expression",
      ref "parenthesized_expression", ref "_identifier",
      named "identifier" (ref "_reserved_identifier"), ref "this", ref "super", ref "number",
      ref "string", ref "template_string", ref "regex", ref "true", ref "false", ref "null",
      ref "object", ref "array", ref "function_expression", ref "arrow_function",
      ref "generator_function", ref "class", ref "meta_property", ref "call_expression"]),
    ("yield_expression", right 0 (seq ["yield",
      choice [seq ["*", ref "expression"], optional (ref "expression")]])),
    ("object", prec "object" (seq ["\x7b",
      commaList (optional (choice [ref "pair", ref "spread_element", ref "method_definition",
        named "shorthand_property_identifier" (choice [ref "identifier",
          ref "_reserved_identifier"])])), "\x7d"])),
    ("object_pattern", prec "object" (seq ["\x7b",
      commaList (optional (choice [ref "pair_pattern", ref "rest_pattern",
        ref "object_assignment_pattern",
        named "shorthand_property_identifier_pattern" (choice [ref "identifier",
          ref "_reserved_identifier"])])), "\x7d"])),
    ("assignment_pattern", seq [field "left" (ref "pattern"), "=",
      field "right" (ref "expression")]),
    ("object_assignment_pattern", seq [
      field "left" (choice [
        named "shorthand_property_identifier_pattern" (choice [ref "_reserved_identifier",
          ref "identifier"]), ref "_destructuring_pattern"]), "=",
      field "right" (ref "expression")]),
    ("array", seq ["[", commaList (optional (choice [ref "expression", ref "spread_element"])),
      "]"]),
    ("array_pattern", seq ["[",
      commaList (optional (choice [ref "pattern", ref "assignment_pattern"])), "]"])]

/-- Markup inside expressions. -/
def markupRules : List (String × Rule String) :=
  [("_jsx_element", choice [ref "jsx_element", ref "jsx_self_closing_element"]),
    ("jsx_element", seq [field "open_tag" (ref "jsx_opening_element"), many (ref "_jsx_child"),
      field "close_tag" (ref "jsx_closing_element")]),
    ("html_character_reference", Token.characterReference),
    ("jsx_expression", seq ["\x7b",
      optional (choice [ref "expression", ref "sequence_expression", ref "spread_element"]),
      "\x7d"]),
    ("_jsx_child", choice [ref "jsx_text", ref "html_character_reference", ref "_jsx_element",
      ref "jsx_expression"]),
    ("jsx_opening_element", weighted (-1) (seq ["<",
      optional (seq [field "name" (ref "_jsx_element_name"),
        many (field "attribute" (ref "_jsx_attribute"))]), ">"])),
    ("jsx_identifier", Token.markupIdentifier),
    ("_jsx_identifier", choice [named "identifier" (ref "jsx_identifier"), ref "identifier"]),
    ("nested_identifier", prec "member" (seq [
      field "object" (choice [ref "identifier",
        named "member_expression" (ref "nested_identifier")]), ".",
      field "property" (named "property_identifier" (ref "identifier"))])),
    ("jsx_namespace_name", seq [ref "_jsx_identifier", ":", ref "_jsx_identifier"]),
    ("_jsx_element_name", choice [ref "_jsx_identifier",
      named "member_expression" (ref "nested_identifier"), ref "jsx_namespace_name"]),
    ("jsx_closing_element", seq ["</", optional (field "name" (ref "_jsx_element_name")), ">"]),
    ("jsx_self_closing_element", seq ["<", field "name" (ref "_jsx_element_name"),
      many (field "attribute" (ref "_jsx_attribute")), "/>"]),
    ("_jsx_attribute", choice [ref "jsx_attribute", ref "jsx_expression"]),
    ("_jsx_attribute_name", choice [named "property_identifier" (ref "_jsx_identifier"),
      ref "jsx_namespace_name"]),
    ("jsx_attribute", seq [ref "_jsx_attribute_name",
      optional (seq ["=", ref "_jsx_attribute_value"])]),
    ("_jsx_string", choice [
      seq ["\"",
        many (choice [named "string_fragment" (ref "unescaped_double_jsx_string_fragment"),
          ref "html_character_reference"]), "\""],
      seq ["'",
        many (choice [named "string_fragment" (ref "unescaped_single_jsx_string_fragment"),
          ref "html_character_reference"]), "'"]]),
    ("unescaped_double_jsx_string_fragment", Token.markupFragment "\""),
    ("unescaped_single_jsx_string_fragment", Token.markupFragment "'"),
    ("_jsx_attribute_value", choice [named "string" (ref "_jsx_string"), ref "jsx_expression",
      ref "_jsx_element"])]

/-- Classes and functions. -/
def functionRules : List (String × Rule String) :=
  [("class", prec "literal" (seq [many (field "decorator" (ref "decorator")), "class",
      field "name" (optional (ref "identifier")), optional (ref "class_heritage"),
      field "body" (ref "class_body")])),
    ("class_declaration", prec "declare" (seq [many (field "decorator" (ref "decorator")), "class",
      field "name" (ref "identifier"), optional (ref "class_heritage"),
      field "body" (ref "class_body"), optional (ref "_automatic_semicolon")])),
    ("class_heritage", seq ["extends", ref "expression"]),
    ("function_expression", prec "literal" (seq [optional "async", "function",
      field "name" (optional (ref "identifier")), ref "_call_signature",
      field "body" (ref "statement_block")])),
    ("function_declaration", right "declare" (seq [optional "async", "function",
      field "name" (ref "identifier"), ref "_call_signature", field "body" (ref "statement_block"),
      optional (ref "_automatic_semicolon")])),
    ("generator_function", prec "literal" (seq [optional "async", "function", "*",
      field "name" (optional (ref "identifier")), ref "_call_signature",
      field "body" (ref "statement_block")])),
    ("generator_function_declaration", right "declare" (seq [optional "async", "function", "*",
      field "name" (ref "identifier"), ref "_call_signature", field "body" (ref "statement_block"),
      optional (ref "_automatic_semicolon")])),
    ("arrow_function", seq [optional "async",
      choice [
        field "parameter" (choice [named "identifier" (ref "_reserved_identifier"),
          ref "identifier"]), ref "_call_signature"], "=>",
      field "body" (choice [ref "expression", ref "statement_block"])]),
    ("_call_signature", field "parameters" (ref "formal_parameters")),
    ("_formal_parameter", choice [ref "pattern", ref "assignment_pattern"])]

/-- Calls, accesses, assignments and operators. -/
def operationRules : List (String × Rule String) :=
  [("optional_chain", "?."),
    ("call_expression", choice [
      prec "call" (seq [field "function" (choice [ref "expression", ref "import"]),
        field "arguments" (ref "arguments")]),
      prec "template_call" (seq [
        field "function" (choice [ref "primary_expression", ref "new_expression"]),
        field "arguments" (ref "template_string")]),
      prec "member" (seq [field "function" (ref "primary_expression"),
        field "optional_chain" (ref "optional_chain"), field "arguments" (ref "arguments")])]),
    ("new_expression", right "new" (seq ["new",
      field "constructor" (choice [ref "primary_expression", ref "new_expression"]),
      field "arguments" (optional (weighted 1 (ref "arguments")))])),
    ("await_expression", prec "unary_void" (seq ["await", ref "expression"])),
    ("member_expression", prec "member" (seq [
      field "object" (choice [ref "expression", ref "primary_expression", ref "import"]),
      choice [".", field "optional_chain" (ref "optional_chain")],
      field "property" (choice [ref "private_property_identifier",
        reserved "properties" (named "property_identifier" (ref "identifier"))])])),
    ("subscript_expression", right "member" (seq [
      field "object" (choice [ref "expression", ref "primary_expression"]),
      optional (field "optional_chain" (ref "optional_chain")), "[",
      field "index" (ref "_expressions"), "]"])),
    ("_lhs_expression", choice [ref "member_expression", ref "subscript_expression",
      ref "_identifier", named "identifier" (ref "_reserved_identifier"),
      ref "_destructuring_pattern"]),
    ("assignment_expression", right "assign" (seq [
      field "left" (choice [ref "parenthesized_expression", ref "_lhs_expression"]), "=",
      field "right" (ref "expression")])),
    ("_augmented_assignment_lhs", choice [ref "member_expression", ref "subscript_expression",
      named "identifier" (ref "_reserved_identifier"), ref "identifier",
      ref "parenthesized_expression"]),
    ("augmented_assignment_expression", right "assign" (seq [
      field "left" (ref "_augmented_assignment_lhs"),
      field "operator" (choice ["+=", "-=", "*=", "/=", "%=", "^=", "&=", "|=", ">>=", ">>>=",
        "<<=", "**=", "&&=", "||=", "??="]), field "right" (ref "expression")])),
    ("_initializer", seq ["=", field "value" (ref "expression")]),
    ("_destructuring_pattern", choice [ref "object_pattern", ref "array_pattern"]),
    ("spread_element", seq ["...", ref "expression"]),
    ("ternary_expression", right "ternary" (seq [field "condition" (ref "expression"),
      anonymous "?" (ref "_ternary_qmark"), field "consequence" (ref "expression"), ":",
      field "alternative" (ref "expression")])),
    ("binary_expression", choice binaryOperations),
    ("unary_expression", left "unary_void" (seq [
      field "operator" (choice ["!", "~", "-", "+", "typeof", "void", "delete"]),
      field "argument" (ref "expression")])),
    ("update_expression", left 0 (choice [
      seq [field "argument" (ref "expression"), field "operator" (choice ["++", "--"])],
      seq [field "operator" (choice ["++", "--"]), field "argument" (ref "expression")]])),
    ("sequence_expression", right 0 (commaList1 (ref "expression")))]

/-- Literals, names and comments. -/
def literalRules : List (String × Rule String) :=
  [("string", choice [
      seq ["\"",
        many (choice [named "string_fragment" (ref "unescaped_double_string_fragment"),
          ref "escape_sequence"]), "\""],
      seq ["'",
        many (choice [named "string_fragment" (ref "unescaped_single_string_fragment"),
          ref "escape_sequence"]), "'"]]),
    ("unescaped_double_string_fragment", Token.stringFragment "\""),
    ("unescaped_single_string_fragment", Token.stringFragment "'"),
    ("escape_sequence", Token.escapeSequence),
    ("comment", Token.comment),
    ("template_string", seq ["`",
      many (choice [named "string_fragment" (ref "_template_chars"), ref "escape_sequence",
        ref "template_substitution"]), "`"]),
    ("template_substitution", seq ["$\x7b", ref "_expressions", "\x7d"]),
    ("regex", seq ["/", field "pattern" (ref "regex_pattern"), immediate (prec 1 "/"),
      optional (field "flags" (ref "regex_flags"))]),
    ("regex_pattern", Token.regexPattern),
    ("regex_flags", Token.regexFlags),
    ("number", Token.number),
    ("_identifier", choice [ref "undefined", ref "identifier"]),
    ("identifier", Token.identifier),
    ("private_property_identifier", Token.privateIdentifier),
    ("meta_property", choice [seq ["new", ".", "target"], seq ["import", ".", "meta"]]),
    ("this", "this"),
    ("super", "super"),
    ("true", "true"),
    ("false", "false"),
    ("null", "null"),
    ("undefined", "undefined")]

/-- Arguments, decorators and the members of classes and objects. -/
def memberRules : List (String × Rule String) :=
  [("arguments", seq ["(", commaList (optional (choice [ref "expression", ref "spread_element"])),
      ")"]),
    ("decorator", seq ["@",
      choice [ref "identifier", named "member_expression" (ref "decorator_member_expression"),
        named "call_expression" (ref "decorator_call_expression")]]),
    ("decorator_member_expression", prec "member" (seq [
      field "object" (choice [ref "identifier",
        named "member_expression" (ref "decorator_member_expression")]), ".",
      field "property" (named "property_identifier" (ref "identifier"))])),
    ("decorator_call_expression", prec "call" (seq [
      field "function" (choice [ref "identifier",
        named "member_expression" (ref "decorator_member_expression")]),
      field "arguments" (ref "arguments")])),
    ("class_body", seq ["\x7b",
      many (choice [seq [field "member" (ref "method_definition"), optional ";"],
        seq [field "member" (ref "field_definition"), ref "_semicolon"],
        field "member" (ref "class_static_block"), ";"]), "\x7d"]),
    ("field_definition", seq [many (field "decorator" (ref "decorator")), optional "static",
      field "property" (ref "_property_name"), optional (ref "_initializer")]),
    ("formal_parameters", seq ["(",
      optional (seq [commaList1 (ref "_formal_parameter"), optional ","]), ")"]),
    ("class_static_block", seq ["static", field "body" (ref "statement_block")]),
    ("pattern", weighted (-1) (choice [ref "_lhs_expression", ref "rest_pattern"])),
    ("rest_pattern", right 0 (seq ["...", ref "_lhs_expression"])),
    ("method_definition", seq [many (field "decorator" (ref "decorator")),
      optional (choice ["static", anonymous "static get" Token.staticGet]), optional "async",
      optional (choice ["get", "set", "*"]), field "name" (ref "_property_name"),
      field "parameters" (ref "formal_parameters"), field "body" (ref "statement_block")]),
    ("pair", seq [field "key" (ref "_property_name"), ":", field "value" (ref "expression")]),
    ("pair_pattern", seq [field "key" (ref "_property_name"), ":",
      field "value" (choice [ref "pattern", ref "assignment_pattern"])]),
    ("_property_name", reserved "properties" (choice [
      named "property_identifier" (choice [ref "identifier", ref "_reserved_identifier"]),
      ref "private_property_identifier", ref "string", ref "number",
      ref "computed_property_name"])),
    ("computed_property_name", seq ["[", ref "expression", "]"]),
    ("_reserved_identifier", choice ["get", "set", "async", "await", "static", "export", "let"]),
    ("_semicolon", choice [ref "_automatic_semicolon", ";"])]

/-- The words that are never names, and the empty list for the places where any word is a name. -/
def reservedWords : List (String × List String) :=
  [("global", ["break", "case", "catch", "class", "const", "continue", "debugger", "default",
      "delete", "do", "else", "export", "extends", "false", "finally", "for", "function", "if",
      "import", "in", "instanceof", "new", "null", "return", "super", "switch", "this", "throw",
      "true", "try", "typeof", "var", "void", "while", "with"]),
    ("properties", [])]

/-- A precedence in a chain. -/
def named (name : String) : String ⊕ String := .inl name

/-- A construct in a chain. -/
def construct (name : String) : String ⊕ String := .inr name

/-- What binds before what. -/
def precedences : List (List (String ⊕ String)) :=
  [["member", "template_call", "call"].map named ++ [construct "update_expression"]
      ++ ["unary_void", "binary_exp", "binary_times", "binary_plus", "binary_shift",
        "binary_compare", "binary_relation", "binary_equality", "bitwise_and", "bitwise_xor",
        "bitwise_or", "logical_and", "logical_or", "ternary"].map named
      ++ [construct "sequence_expression", construct "arrow_function"],
    [named "assign", construct "primary_expression"],
    ["member", "template_call", "new", "call"].map named ++ [construct "expression"],
    ["declare", "literal"].map named,
    [construct "primary_expression", construct "statement_block", named "object"],
    ["meta_property", "import"].map construct,
    ["import_statement", "import"].map construct,
    ["export_statement", "primary_expression"].map construct,
    ["lexical_declaration", "primary_expression"].map construct,
    ["await_expression", "primary_expression"].map construct]

/-- The grammar of JavaScript. -/
def grammar : Grammar.Definition :=
  { rules := moduleRules ++ statementRules ++ patternRules ++ markupRules ++ functionRules
      ++ operationRules ++ literalRules ++ memberRules
    externals := [ref "_automatic_semicolon", ref "_template_chars", ref "_ternary_qmark",
      ref "html_comment", "||", ref "escape_sequence", ref "regex_pattern", ref "jsx_text"]
    extras := [ref "comment", ref "html_comment", .chars Token.separator]
    reserved := reservedWords
    supertypes := ["statement", "declaration", "expression", "primary_expression", "pattern"]
    inlined := ["_call_signature", "_formal_parameter", "_expressions", "_semicolon",
      "_identifier", "_reserved_identifier", "_jsx_attribute", "_jsx_element_name", "_jsx_child",
      "_jsx_element", "_jsx_attribute_name", "_jsx_attribute_value", "_jsx_identifier",
      "_lhs_expression"]
    precedences
    word := "identifier" }

end Diagnosis.JavaScript
