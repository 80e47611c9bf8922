import Strata.Language.TypeScript.Lexeme

/-!
# The grammar of TypeScript

A grammar that accepts TypeScript and JavaScript sources, with or without elements (`<div/>`).  It
is used to tell whether a file is well formed and to find its import and export statements, so it
does not distinguish operators by precedence and records nothing but what those statements need:
where they are, which file they name, and which names they export.

Everything inside braces or inside another statement is recorded as a block.  What is recorded
directly inside an export statement is therefore what the statement itself declares, not what is
declared in a function body.
-/

namespace Strata.Language.TypeScript

/-- What a parse records. -/
inductive Kind where
  /-- An import statement. -/
  | importStatement
  /-- An export statement. -/
  | exportStatement
  /-- The literal that names another file. -/
  | source
  /-- The word `default` of an export. -/
  | defaultWord
  /-- The name of a declaration. -/
  | declared
  /-- The name under which a listed name is exported. -/
  | exported
  /-- A declaration of something that exists elsewhere. -/
  | ambient
  /-- The inside of braces or of another statement. -/
  | block
deriving DecidableEq, Repr

/-- The rules of the grammar. -/
inductive Rule where
  | program | statement | nested | declaration | block | semicolon
  | importStatement | importClause | importAlias | fromClause | attributes
  | exportStatement | exportSpecifier | exportName
  | lexicalDeclaration | declarator | functionDeclaration | classDeclaration | typeAlias
  | interfaceDeclaration | enumDeclaration | moduleDeclaration | ambientDeclaration
  | ifStatement | forStatement | whileStatement | doStatement | switchStatement | tryStatement
  | withStatement | returnStatement | throwStatement | jumpStatement | labeledStatement
  | expressionStatement
  | classHeritage | classBody | classMember | memberModifier | memberEnd | methodStart
  | decorator | propertyName | callSignature | parameters | parameter | returnType
  | typeClause | initializer
  | pattern | objectPattern | arrayPattern
  | expression | assignment | plainAssignment | operand | chain | primary | memberStart | access
  | arrow | plainArrow | arrowBody | operatorTail | condition | arguments
  | arrayLiteral | objectLiteral | objectMember | functionExpression | classExpression
  | newExpression | template | typeAssertion
  | element | elementTag | elementAttribute | elementChild | elementContainer
  | type | unionType | intersectionType | operatorType | postfixType | primaryType
  | functionType | predicate | typeParameters | typeParameter | typeArguments | typeReference
  | typeQuery | importType | tupleMember | objectType | objectTypeMember | templateType
deriving DecidableEq, Repr

/-- Expressions of this grammar. -/
abbrev Expr := Parsing Lexeme Rule Kind

namespace Expr

/-- A word. -/
def word (text : String) : Expr := .lexeme (.word text)

/-- One of several words. -/
def words (texts : List String) : Expr := .alt (texts.map word)

/-- Some characters. -/
def sign (text : String) : Expr := .lexeme (.sign text)

/-- One of several signs. -/
def signs (texts : List String) : Expr := .alt (texts.map sign)

/-- What a rule says. -/
def of (r : Rule) : Expr := .rule r

/-- An expression that may be left out. -/
def opt (e : Expr) : Expr := Parsing.opt e

/-- One or more, separated by commas, with a comma allowed at the end. -/
def list1 (e : Expr) : Expr :=
  .seq [e, .many (.seq [sign ",", e]), opt (sign ",")]

/-- Any number, separated by commas, with a comma allowed at the end. -/
def list (e : Expr) : Expr :=
  .seq [opt (.seq [e, .many (.seq [sign ",", e])]), opt (sign ",")]

/-- Any number, separated by commas, between which something may be left out; `close` ends them. -/
def sparse (e close : Expr) : Expr :=
  .seq [.many (sign ","),
    .many (.seq [e, .alt [.seq [sign ",", .many (sign ",")], .look close]]), close]

/-- An equals sign that is no part of a longer sign. -/
def equals : Expr := .seq [.avoid (signs ["==", "=>"]), sign "="]

/-- A question mark that is no part of a longer sign. -/
def question : Expr := .seq [.avoid (sign "??"), .avoid (sign "?."), sign "?"]

/-- Only if the next lexeme is on the same line. -/
def sameLine : Expr := .lexeme .sameLine

/-- An expression in round brackets. -/
def bracketed (e : Expr) : Expr := .seq [sign "(", e, sign ")"]

/-- The sign that opens a block. -/
def openBrace : String := "\x7b"

/-- The sign that closes a block. -/
def closeBrace : String := "\x7d"

/-- An expression in braces. -/
def braced (e : Expr) : Expr := .seq [sign openBrace, e, sign closeBrace]

/-- A list in braces in which something may be left out. -/
def bracedSparse (e : Expr) : Expr := .seq [sign openBrace, sparse e (sign closeBrace)]

/-- A name that is not reserved. -/
def identifier : Expr := .lexeme .identifier

/-- Any name. -/
def anyName : Expr := .lexeme .anyName

/-- A quoted literal. -/
def string : Expr := .lexeme .string

/-- A name that a declaration introduces. -/
def declaredName : Expr := .mark .declared anyName

end Expr

open Strata.Language.TypeScript.Expr

/-- What a statement can be. -/
def statementBody : Expr :=
  .alt [of .block, sign ";", of .importStatement, of .exportStatement, of .declaration,
    of .ifStatement, of .forStatement, of .whileStatement, of .doStatement, of .switchStatement,
    of .tryStatement, of .withStatement, of .returnStatement, of .throwStatement,
    of .jumpStatement, .seq [word "debugger", of .semicolon], of .labeledStatement,
    of .expressionStatement]

/-- What a declaration can be. -/
def declarationBody : Expr :=
  .alt [of .functionDeclaration, of .classDeclaration, of .enumDeclaration,
    of .lexicalDeclaration, of .typeAlias, of .interfaceDeclaration, of .moduleDeclaration,
    of .ambientDeclaration, of .importAlias]

/-- Import statements. -/
def importStatementBody : Expr :=
  let kind := words ["type", "typeof"]
  .mark .importStatement
    (.seq [word "import",
      .alt [.mark .source string,
        .seq [kind, of .importClause, of .fromClause],
        .seq [of .importClause, of .fromClause],
        .seq [opt (.seq [kind, .avoid equals]), anyName, equals, word "require",
          bracketed (.mark .source string)]],
      opt (of .attributes), of .semicolon])

/-- What an import statement imports. -/
def importClauseBody : Expr :=
  let space := .seq [sign "*", word "as", anyName]
  let name := .alt [string, anyName]
  let stop := .look (signs [",", closeBrace])
  let kind := words ["type", "typeof"]
  let specifier := .alt [.seq [name, word "as", anyName, stop],
    .seq [kind, name, word "as", anyName, stop], .seq [kind, anyName, stop], .seq [anyName, stop]]
  let named := braced (list specifier)
  .alt [space, named, .seq [anyName, opt (.seq [sign ",", .alt [space, named]])]]

/-- Export statements. -/
def exportStatementBody : Expr :=
  .mark .exportStatement
    (.alt [
      .seq [.many (of .decorator), word "export",
        .alt [
          .seq [.mark .defaultWord (word "default"),
            .alt [of .declaration, .seq [of .assignment, of .semicolon]]],
          of .declaration]],
      .seq [word "export", sign "*", opt (.seq [word "as", .alt [string, anyName]]),
        of .fromClause, of .semicolon],
      .seq [word "export", opt (word "type"), braced (list (of .exportSpecifier)),
        opt (of .fromClause), of .semicolon],
      .seq [word "export", equals, of .expression, of .semicolon],
      .seq [word "export", word "as", word "namespace", anyName, of .semicolon]])

/-- One name in the braces of an export statement. -/
def exportSpecifierBody : Expr :=
  let name := .alt [string, anyName]
  let stop := .look (signs [",", closeBrace])
  let kind := words ["type", "typeof"]
  .alt [.seq [name, word "as", of .exportName, stop],
    .seq [kind, name, word "as", of .exportName, stop], .seq [kind, of .exportName, stop],
    .seq [of .exportName, stop]]

/-- Variables. -/
def lexicalDeclarationBody : Expr :=
  .seq [words ["const", "let", "var"], of .declarator, .many (.seq [sign ",", of .declarator]),
    of .semicolon]

/-- Functions, with a body or as a signature. -/
def functionDeclarationBody : Expr :=
  .seq [opt (.seq [word "async", sameLine]), word "function", opt (sign "*"), declaredName,
    of .callSignature, .alt [of .block, of .semicolon]]

/-- Classes. -/
def classDeclarationBody : Expr :=
  .seq [.many (of .decorator), opt (word "abstract"), word "class",
    .avoid (words ["extends", "implements"]), declaredName, opt (of .typeParameters),
    opt (of .classHeritage), of .classBody]

/-- What a class extends and implements. -/
def classHeritageBody : Expr :=
  let implements := .seq [word "implements", of .type, .many (.seq [sign ",", of .type])]
  .alt [.seq [word "extends", of .chain, opt (of .typeArguments),
      .many (.seq [sign ",", of .chain, opt (of .typeArguments)]), opt implements],
    implements]

/-- Members of a class. -/
def classMemberBody : Expr :=
  .alt [sign ";",
    .seq [word "static", of .block],
    .seq [.many (of .decorator), .many (of .memberModifier),
      .alt [
        .seq [sign "[", identifier, sign ":", of .type, sign "]", of .typeClause,
          of .memberEnd],
        .seq [opt (of .methodStart), of .propertyName, opt (signs ["?", "!"]),
          of .callSignature, .alt [of .block, of .memberEnd]],
        .seq [of .propertyName, opt (.alt [question, .seq [.avoid (sign "!="), sign "!"]]),
          opt (of .typeClause), opt (of .initializer), of .memberEnd]]]]

/-- A word in front of a member, unless it is the name of the member itself. -/
def memberModifierBody : Expr :=
  .seq [words ["public", "private", "protected", "static", "readonly", "abstract", "override",
      "declare", "accessor", "export"],
    .avoid (signs ["(", ")", "?", "!", ":", "=", ";", ",", closeBrace, "<"])]

/-- Words that make a method an accessor, asynchronous or a generator. -/
def methodStartBody : Expr :=
  let notAlone := .avoid (signs ["(", ")", "?", "!", ":", "=", ";", ",", closeBrace, "<"])
  .alt [.seq [words ["get", "set"], notAlone],
    .seq [word "async", notAlone, opt (sign "*")], sign "*"]

/-- A decorator. -/
def decoratorBody : Expr :=
  .seq [sign "@",
    .alt [bracketed (of .expression),
      .seq [anyName, .many (.seq [sign ".", .alt [anyName, .lexeme .privateName]])]],
    .many (.alt [.seq [opt (of .typeArguments), of .arguments],
      .seq [sameLine, sign ".", anyName]])]

/-- The name of a property. -/
def propertyNameBody : Expr :=
  .alt [anyName, .lexeme .privateName, string, .lexeme .number,
    .seq [sign "[", of .assignment, sign "]"]]

/-- A parameter. -/
def parameterBody : Expr :=
  .seq [.many (of .decorator), .many (of .memberModifier), opt (sign "..."), of .pattern,
    opt (sign "?"), opt (of .typeClause), opt (of .initializer)]

/-- The cases of a `for` statement. -/
def forStatementBody : Expr :=
  let each := .seq [opt (words ["const", "let", "var"]),
    .alt [.seq [of .pattern, opt (of .typeClause), opt (of .initializer),
        .look (words ["of", "in"])],
      of .chain],
    words ["of", "in"], of .expression]
  let counted := .seq [
    .alt [.seq [words ["const", "let", "var"], of .declarator,
        .many (.seq [sign ",", of .declarator])],
      opt (of .expression)],
    sign ";", opt (of .expression), sign ";", opt (of .expression)]
  .seq [word "for", opt (word "await"), bracketed (.alt [each, counted]), of .nested]

/-- The `switch` statement. -/
def switchStatementBody : Expr :=
  .seq [word "switch", bracketed (of .expression),
    .mark .block (braced (.many (.seq [
      .alt [.seq [word "case", of .expression], word "default"], sign ":",
      .many (of .statement)])))]

/-- The `try` statement. -/
def tryStatementBody : Expr :=
  .seq [word "try", of .block,
    opt (.seq [word "catch", opt (bracketed (.seq [of .pattern, opt (of .typeClause)])),
      of .block]),
    opt (.seq [word "finally", of .block])]

/-- What a pattern on the left of an assignment can be. -/
def patternBody : Expr :=
  .alt [of .objectPattern, of .arrayPattern, .seq [anyName]]

/-- A pattern that takes an object apart. -/
def objectPatternBody : Expr :=
  bracedSparse (.alt [.seq [sign "...", of .pattern],
    .seq [of .propertyName, sign ":", of .pattern, opt (of .initializer)],
    .seq [anyName, opt (of .initializer)]])

/-- A pattern that takes an array apart. -/
def arrayPatternBody : Expr :=
  let item := .alt [.seq [sign "...", of .pattern], .seq [of .pattern, opt (of .initializer)]]
  .seq [sign "[", sparse item (sign "]")]

/-- An expression without commas; `function` says which arrow functions it may be. -/
def assignmentBody (function : Rule) : Expr :=
  let literal := .alt [.lexeme .number, string, signs ["!", "~", "+", "-", "`", "/"],
    words ["typeof", "void", "delete", "await"]]
  .alt [of function,
    .seq [word "yield", opt (.alt [.seq [sameLine, sign "*", of .assignment],
      .seq [sameLine, of .assignment]])],
    .seq [.avoid literal, of .chain,
      .alt [.seq [.lexeme .assignOperator, of .assignment], of .operatorTail]],
    .seq [of .operand, of .operatorTail]]

/-- What may follow the first operand of an expression. -/
def operatorTailBody : Expr :=
  .seq [
    .many (.alt [.seq [sameLine, word "as", .alt [word "const", of .type]],
      .seq [sameLine, word "satisfies", of .type],
      .seq [.lexeme .binaryOperator, of .operand]]),
    opt (of .condition)]

/-- A choice between two expressions.  Where the first one could be read as an arrow function with a
return type and the colon would then be missing, it is read without. -/
def conditionBody : Expr :=
  .alt [.seq [question, of .assignment, sign ":", of .assignment],
    .seq [question, of .plainAssignment, sign ":", of .assignment]]

/-- An operand with its operators in front. -/
def operandBody : Expr :=
  .alt [.seq [signs ["++", "--", "!", "~", "+", "-"], of .operand],
    .seq [words ["typeof", "void", "delete"], of .operand],
    .seq [word "await", of .operand],
    of .typeAssertion,
    .seq [.lexeme .privateName, .look (word "in")],
    of .chain]

/-- An operand with what is applied to it. -/
def chainBody : Expr :=
  .seq [of .primary, .many (of .access),
    opt (.seq [sameLine, signs ["++", "--"]])]

/-- A member, an index, a call, a template or a type applied to an operand. -/
def accessBody : Expr :=
  let index := .seq [sign "[", of .expression, sign "]"]
  let member := .alt [anyName, .lexeme .privateName]
  let followers := ["(", "`", ")", "]", ":", ";", ",", ".", "?.", "=", closeBrace]
  let applied := .alt [.look (signs followers), .lexeme .lineBreak, .lexeme .finish]
  .alt [
    .seq [sign "?.",
      .alt [of .arguments, index, .seq [of .typeArguments, of .arguments], of .template, member]],
    .seq [.avoid (sign ".."), sign ".", member],
    index,
    of .arguments,
    of .template,
    .seq [sameLine, .avoid (sign "!="), sign "!"],
    .seq [of .typeArguments, applied]]

/-- Operands. -/
def primaryBody : Expr :=
  .alt [bracketed (of .expression), of .arrayLiteral, of .objectLiteral, of .functionExpression,
    of .classExpression, of .newExpression, of .template, string, .lexeme .number,
    .lexeme .regex, of .element,
    .seq [word "import", .alt [.look (sign "("), .seq [sign ".", anyName]]],
    words ["this", "super"], .seq [.avoid (word "await"), identifier]]

/-- Arrow functions; `typed` if a return type is allowed. -/
def arrowForms (typed : Bool) : Expr :=
  let result := if typed then opt (of .returnType) else .seq []
  .alt [
    .seq [word "async", sameLine, identifier, sign "=>", of .arrowBody],
    .seq [identifier, sign "=>", of .arrowBody],
    .seq [opt (.seq [word "async", sameLine]), opt (of .typeParameters), of .parameters, result,
      sign "=>", of .arrowBody]]

/-- Members of an object literal. -/
def objectMemberBody : Expr :=
  .alt [.seq [sign "...", of .assignment],
    .seq [of .methodStart, of .propertyName, of .callSignature, of .block],
    .seq [of .propertyName, of .callSignature, of .block],
    .seq [of .propertyName, sign ":", of .assignment],
    .seq [anyName, opt (of .initializer)]]

/-- Array literals. -/
def arrayLiteralBody : Expr :=
  let item := .seq [opt (sign "..."), of .assignment]
  .seq [sign "[", sparse item (sign "]")]

/-- The operand of `new`. -/
def newExpressionBody : Expr :=
  .seq [word "new",
    .alt [.seq [sign ".", word "target"],
      .seq [of .memberStart,
        .many (.alt [.seq [.avoid (sign ".."), sign ".", .alt [anyName, .lexeme .privateName]],
          .seq [sign "[", of .expression, sign "]"]]),
        opt (of .typeArguments), opt (of .arguments)]]]

/-- Elements: a tag with children, or one that closes itself. -/
def elementBody : Expr :=
  .seq [sign "<", opt (of .elementTag), opt (of .typeArguments), .many (of .elementAttribute),
    .alt [.seq [sign "/", sign ">"],
      .seq [sign ">", .many (of .elementChild), sign "<", sign "/", opt (of .elementTag),
        sign ">"]]]

/-- The name of an element. -/
def elementTagBody : Expr :=
  let name := .lexeme .elementName
  .seq [name, .alt [.seq [sign ":", name], .many (.seq [sign ".", name])]]

/-- An attribute of an element. -/
def elementAttributeBody : Expr :=
  let name := .lexeme .elementName
  .alt [of .elementContainer,
    .seq [name, opt (.seq [sign ":", name]),
      opt (.seq [sign "=", .alt [.lexeme .attributeText, of .elementContainer, of .element]])]]

/-- An expression inside an element. -/
def elementContainerBody : Expr :=
  braced (opt (.alt [.seq [sign "...", of .assignment], of .expression]))

/-- Types. -/
def typeBody : Expr :=
  .alt [of .functionType,
    .seq [of .unionType,
      opt (.seq [sameLine, word "extends", of .type, question, of .type, sign ":", of .type])],
    of .predicate]

/-- Operators on types. -/
def operatorTypeBody : Expr :=
  .alt [.seq [words ["keyof", "unique", "readonly"], of .operatorType],
    .seq [word "infer", anyName,
      opt (.seq [word "extends", of .unionType, .avoid question])],
    of .functionType,
    .seq [.avoid (words ["keyof", "unique", "readonly", "infer"]), of .postfixType]]

/-- Function and constructor types. -/
def functionTypeBody : Expr :=
  .seq [opt (.seq [opt (word "abstract"), word "new"]), opt (of .typeParameters), of .parameters,
    sign "=>", .alt [of .predicate, of .type]]

/-- Claims about an argument: `x is T`, `asserts x`. -/
def predicateBody : Expr :=
  .alt [.seq [word "asserts", sameLine, anyName, opt (.seq [word "is", of .type])],
    .seq [anyName, sameLine, word "is", of .type]]

/-- Types without operators. -/
def primaryTypeBody : Expr :=
  .alt [bracketed (of .type),
    .seq [sign "[", list (of .tupleMember), sign "]"],
    of .objectType, of .templateType, string,
    .seq [opt (sign "-"), .lexeme .number], of .typeQuery, of .importType,
    words ["this", "void"], of .typeReference]

/-- A member of a tuple type. -/
def tupleMemberBody : Expr :=
  .alt [.seq [opt (sign "..."), anyName, opt (sign "?"), sign ":", of .type],
    .seq [opt (sign "..."), of .type, opt (sign "?")]]

/-- Object types, with members separated by commas, semicolons or line ends. -/
def objectTypeBody : Expr :=
  .mark .block (braced (.seq [opt (signs [",", ";"]),
    .many (.seq [of .objectTypeMember,
      .alt [signs [",", ";"], .look (sign closeBrace), .lexeme .lineBreak]])]))

/-- Members of an object type. -/
def objectTypeMemberBody : Expr :=
  let flag := opt (signs ["-", "+"])
  let readonly :=
    opt (.seq [flag, word "readonly", .avoid (signs ["?", ":", "(", ";", ",", closeBrace])])
  .alt [
    .seq [readonly, sign "[", anyName, word "in", of .type, opt (.seq [word "as", of .type]),
      sign "]", flag, opt (sign "?"), opt (of .typeClause)],
    .seq [readonly, sign "[", anyName, sign ":", of .type, sign "]", of .typeClause],
    .seq [opt (word "abstract"), word "new", of .callSignature],
    of .callSignature,
    .seq [words ["get", "set"], of .propertyName, of .callSignature],
    .seq [readonly, of .propertyName, opt (sign "?"), of .callSignature],
    .seq [readonly, of .propertyName, opt (sign "?"), opt (of .typeClause)],
    of .exportStatement]

/-- The expression of each rule; `elements` if `<` starts an element and not a type assertion. -/
def body (elements : Bool) : Rule → Expr
  | .program => .seq [.lexeme .preamble, .many (of .statement), .lexeme .finish]
  | .statement => statementBody
  | .nested => .mark .block (of .statement)
  | .declaration => declarationBody
  | .block => .mark .block (braced (.many (of .statement)))
  | .semicolon =>
    .alt [sign ";", .look (sign closeBrace), .lexeme .lineBreak, .lexeme .finish]
  | .importStatement => importStatementBody
  | .importClause => importClauseBody
  | .importAlias =>
    .seq [word "import", anyName, equals, identifier, .many (.seq [sign ".", anyName]),
      of .semicolon]
  | .fromClause => .seq [word "from", .mark .source string]
  | .attributes => .seq [words ["with", "assert"], of .objectLiteral]
  | .exportStatement => exportStatementBody
  | .exportSpecifier => exportSpecifierBody
  | .exportName => .mark .exported (.alt [string, anyName])
  | .lexicalDeclaration => lexicalDeclarationBody
  | .declarator =>
    .seq [.alt [of .objectPattern, of .arrayPattern, declaredName],
      opt (.seq [.avoid (sign "!="), sign "!"]), opt (of .typeClause), opt (of .initializer)]
  | .functionDeclaration => functionDeclarationBody
  | .classDeclaration => classDeclarationBody
  | .typeAlias =>
    .seq [word "type", declaredName, opt (of .typeParameters), equals, of .type, of .semicolon]
  | .interfaceDeclaration =>
    .seq [word "interface", declaredName, opt (of .typeParameters),
      opt (.seq [word "extends", of .type, .many (.seq [sign ",", of .type])]), of .objectType]
  | .enumDeclaration =>
    .seq [opt (word "const"), word "enum", declaredName,
      .mark .block (braced (opt (list1 (.seq [of .propertyName, opt (of .initializer)]))))]
  | .moduleDeclaration =>
    .seq [words ["namespace", "module"], sameLine,
      .alt [string, .seq [identifier, .many (.seq [sign ".", anyName])]],
      .alt [of .block, of .semicolon]]
  | .ambientDeclaration =>
    .mark .ambient (.seq [word "declare",
      .alt [of .declaration, .seq [word "global", of .block]]])
  | .ifStatement =>
    .seq [word "if", bracketed (of .expression), of .nested, opt (.seq [word "else", of .nested])]
  | .forStatement => forStatementBody
  | .whileStatement => .seq [word "while", bracketed (of .expression), of .nested]
  | .doStatement =>
    .seq [word "do", of .nested, word "while", bracketed (of .expression), opt (sign ";")]
  | .switchStatement => switchStatementBody
  | .tryStatement => tryStatementBody
  | .withStatement => .seq [word "with", bracketed (of .expression), of .nested]
  | .returnStatement =>
    .seq [word "return", opt (.seq [sameLine, of .expression]), of .semicolon]
  | .throwStatement => .seq [word "throw", of .expression, of .semicolon]
  | .jumpStatement =>
    .seq [words ["break", "continue"], opt (.seq [sameLine, identifier]), of .semicolon]
  | .labeledStatement => .seq [identifier, sign ":", of .nested]
  | .expressionStatement =>
    .seq [.avoid (words ["interface", "abstract"]), of .expression, of .semicolon]
  | .classHeritage => classHeritageBody
  | .classBody => .mark .block (braced (.many (of .classMember)))
  | .classMember => classMemberBody
  | .memberModifier => memberModifierBody
  | .memberEnd => .alt [signs [";", ","], .look (sign closeBrace), .lexeme .lineBreak]
  | .methodStart => methodStartBody
  | .decorator => decoratorBody
  | .propertyName => propertyNameBody
  | .callSignature =>
    .seq [opt (of .typeParameters), of .parameters, opt (of .returnType)]
  | .parameters => bracketed (opt (list1 (of .parameter)))
  | .parameter => parameterBody
  | .returnType => .seq [sign ":", .alt [of .predicate, of .type]]
  | .typeClause => .seq [sign ":", of .type]
  | .initializer => .seq [equals, of .assignment]
  | .pattern => patternBody
  | .objectPattern => objectPatternBody
  | .arrayPattern => arrayPatternBody
  | .expression => .seq [of .assignment, .many (.seq [sign ",", of .assignment])]
  | .assignment => assignmentBody .arrow
  | .plainAssignment => assignmentBody .plainArrow
  | .operand => operandBody
  | .chain => chainBody
  | .primary => primaryBody
  | .memberStart => .alt [of .newExpression, of .primary]
  | .access => accessBody
  | .arrow => arrowForms true
  | .plainArrow => arrowForms false
  | .arrowBody => .alt [of .block, of .assignment]
  | .operatorTail => operatorTailBody
  | .condition => conditionBody
  | .arguments =>
    .seq [sign "(", sparse (.seq [opt (sign "..."), of .assignment]) (sign ")")]
  | .arrayLiteral => arrayLiteralBody
  | .objectLiteral =>
    .mark .block (bracedSparse (of .objectMember))
  | .objectMember => objectMemberBody
  | .functionExpression =>
    .seq [opt (.seq [word "async", sameLine]), word "function", opt (sign "*"), opt anyName,
      of .callSignature, of .block]
  | .classExpression =>
    .seq [.many (of .decorator), word "class",
      opt (.seq [.avoid (words ["extends", "implements"]), anyName]), opt (of .typeParameters),
      opt (of .classHeritage), of .classBody]
  | .newExpression => newExpressionBody
  | .template =>
    .seq [sign "`",
      .many (.alt [.lexeme .templateText,
        .seq [.lexeme .substitution, of .expression, sign closeBrace]]),
      .lexeme .templateEnd]
  | .typeAssertion =>
    if elements then .alt [] else .seq [sign "<", of .type, sign ">", of .operand]
  | .element => if elements then elementBody else .alt []
  | .elementTag => elementTagBody
  | .elementAttribute => elementAttributeBody
  | .elementChild =>
    .alt [.lexeme .elementText, of .elementContainer,
      .seq [.avoid (.seq [sign "<", sign "/"]), of .element]]
  | .elementContainer => elementContainerBody
  | .type => typeBody
  | .unionType =>
    .seq [opt (.seq [.avoid (sign "||"), sign "|"]), of .intersectionType,
      .many (.seq [.avoid (sign "||"), sign "|", of .intersectionType])]
  | .intersectionType =>
    .seq [opt (sign "&"), of .operatorType,
      .many (.seq [.avoid (sign "&&"), sign "&", of .operatorType])]
  | .operatorType => operatorTypeBody
  | .postfixType =>
    .seq [of .primaryType,
      .many (.seq [sameLine, sign "[", opt (of .type), sign "]"])]
  | .primaryType => primaryTypeBody
  | .functionType => functionTypeBody
  | .predicate => predicateBody
  | .typeParameters => .seq [sign "<", list1 (of .typeParameter), sign ">"]
  | .typeParameter =>
    .seq [opt (.seq [word "const", .avoid (signs [",", ">", "="])]), anyName,
      opt (.seq [word "extends", of .type]), opt (.seq [sign "=", of .type])]
  | .typeArguments => .seq [sign "<", list1 (of .type), sign ">"]
  | .typeReference =>
    .seq [identifier, .many (.seq [sign ".", anyName]),
      opt (.seq [sameLine, of .typeArguments])]
  | .typeQuery =>
    .seq [word "typeof",
      .alt [of .importType,
        .seq [anyName, .many (.seq [sign ".", .alt [anyName, .lexeme .privateName]]),
          opt (.seq [sameLine, of .typeArguments])]]]
  | .importType =>
    .seq [word "import", bracketed (.seq [of .type, opt (.seq [sign ",", of .objectLiteral])]),
      .many (.seq [sign ".", anyName]), opt (of .typeArguments)]
  | .tupleMember => tupleMemberBody
  | .objectType => objectTypeBody
  | .objectTypeMember => objectTypeMemberBody
  | .templateType =>
    .seq [sign "`",
      .many (.alt [.lexeme .templateText, .seq [.lexeme .substitution, of .type, sign closeBrace]]),
      .lexeme .templateEnd]

/-- The grammar of files with elements or without. -/
def grammar (elements : Bool) : Grammar Lexeme Rule Kind :=
  { scan, skip, body := body elements }

end Strata.Language.TypeScript
