import DocSuite.Script.Grammar.Types
/-!
# The script grammars

`rule f c` is the rule of category `c` in the dialect flavour `f`. The shared categories
are written once; where the typed dialects extend one (type annotations on declarators
and parameters, type arguments on calls, modifiers on class members) the rule says so on
`f.typed`, and JSX expressions exist where `f.jsx` holds. The typed dialect without JSX
reads `<T>expr` as a type assertion instead.

The two flavours read `using` differently. The untyped one has `using` declarations, also as
the binding of a `for … in`/`for … of` head but not as the first clause of a three-clause
`for`. The typed one has no such declaration: there `using` is a word an assignment may
begin with, so `using x = 1` is an expression and `using x` alone is an error.
-/

namespace DocSuite.Script

open Rule

/-- The rule of a shared category in flavour `f`. -/
def sharedRule (f : Flavor) : NT → Rule NT
  | .program => .seq [.opt (t .hashBang), .many (n .statement)]
  | .exportStatement =>
    let plain : List (Rule NT) := [
      .seq [t .kExport,
        .alt [.seq [t .star, n .fromClause], .seq [n .namespaceExport, n .fromClause],
          .seq [n .exportClause, n .fromClause], n .exportClause],
        n .semicolon],
      .seq [.many (n .decorator), t .kExport,
        .alt [n .declaration,
          .seq [t .kDefault, .alt [n .declaration, .seq [n .expression, n .semicolon]]]]]]
    if f.typed then .alt (plain ++ [
      .seq [t .kExport, t .kType, n .exportClause, .opt (n .fromClause), n .semicolon],
      .seq [t .kExport, t .eq, n .expression, n .semicolon],
      .seq [t .kExport, t .kAs, t .kNamespace, t .identifier, n .semicolon]])
    else .alt plain
  | .namespaceExport => .seq [t .star, t .kAs, n .moduleExportName]
  | .exportClause => .seq [t .lBrace, commaSep (n .exportSpecifier), .opt (t .comma), t .rBrace]
  | .exportSpecifier =>
    let plain : Rule NT := .seq [n .moduleExportName, .opt (.seq [t .kAs, n .moduleExportName])]
    if f.typed then .seq [.opt (.alt [t .kType, t .kTypeof]), plain] else plain
  | .moduleExportName => .alt [t .identifier, n .string, t .kDefault]
  | .declaration =>
    let plain : List (Rule NT) := [n .functionDeclaration, n .generatorFunctionDeclaration,
      n .classDeclaration, n .lexicalDeclaration, n .variableDeclaration]
    if f.typed then .alt (plain ++ [n .functionSignature, n .abstractClassDeclaration,
      n .moduleDeclaration, n .internalModule, n .typeAliasDeclaration, n .enumDeclaration,
      n .interfaceDeclaration, n .importAlias, n .ambientDeclaration])
    else .alt (plain ++ [n .usingDeclaration])
  | .importStatement =>
    if f.typed then
      .seq [t .kImport, .opt (.alt [t .kType, t .kTypeof]),
        .alt [.seq [n .importClause, n .fromClause], n .importRequireClause, n .string],
        .opt (n .importAttribute), n .semicolon]
    else
      .seq [t .kImport, .alt [.seq [n .importClause, n .fromClause], n .string],
        .opt (n .importAttribute), n .semicolon]
  | .importClause => .alt [n .namespaceImport, n .namedImports,
      .seq [n .importIdentifier,
        .opt (.seq [t .comma, .alt [n .namespaceImport, n .namedImports]])]]
  | .fromClause => .seq [t .kFrom, n .string]
  | .namespaceImport => .seq [t .star, t .kAs, t .identifier]
  | .namedImports => .seq [t .lBrace, commaSep (n .importSpecifier), .opt (t .comma), t .rBrace]
  | .importSpecifier =>
    if f.typed then
      .seq [.opt (.alt [t .kType, t .kTypeof]),
        .alt [n .importIdentifier,
          .seq [.alt [n .moduleExportName, t .kType], t .kAs, n .importIdentifier]]]
    else .alt [t .identifier, .seq [n .moduleExportName, t .kAs, t .identifier]]
  | .importAttribute =>
    .seq [if f.typed then .alt [t .kWith, t .kAssert] else t .kWith, n .object]
  | .importIdentifier => if f.typed then .alt [t .identifier, t .kType] else t .identifier
  | .statement => .alt [
      n .exportStatement, n .importStatement, n .debuggerStatement, n .expressionStatement,
      n .declaration, n .statementBlock, n .ifStatement, n .switchStatement, n .forStatement,
      n .forInStatement, n .whileStatement, n .doStatement, n .tryStatement,
      n .withStatement, n .breakStatement, n .continueStatement, n .returnStatement,
      n .throwStatement, n .emptyStatement, n .labeledStatement]
  | .expressionStatement => .seq [n .expressions, n .semicolon]
  | .variableDeclaration => .seq [t .kVar, commaSep1 (n .variableDeclarator), n .semicolon]
  | .lexicalDeclaration =>
    .seq [.alt [t .kLet, t .kConst], commaSep1 (n .variableDeclarator), n .semicolon]
  | .usingDeclaration => .seq [.alt [t .kUsing, .seq [t .kAwait, t .kUsing]],
      commaSep1 (n .variableDeclarator), n .semicolon]
  | .variableDeclarator =>
    if f.typed then
      .alt [
        .seq [.alt [t .identifier, n .destructuringPattern], .opt (n .typeAscription),
          .opt (n .initializer)],
        .seq [t .identifier, t .bang, n .typeAscription]]
    else .seq [.alt [t .identifier, n .destructuringPattern], .opt (n .initializer)]
  | .statementBlock =>
    .seq [t .lBrace, .many (n .statement), t .rBrace, .opt (t .autoSemicolon)]
  | .elseClause => .seq [t .kElse, n .statement]
  | .ifStatement =>
    .seq [t .kIf, n .parenthesizedExpression, n .statement, .opt (n .elseClause)]
  | .switchStatement => .seq [t .kSwitch, n .parenthesizedExpression, n .switchBody]
  | .forStatement => .seq [t .kFor, t .lParen,
      .alt [n .lexicalDeclaration, n .variableDeclaration,
        .seq [n .expressions, t .semi], n .emptyStatement],
      .alt [.seq [n .expressions, t .semi], n .emptyStatement],
      .opt (n .expressions), t .rParen, n .statement]
  | .forInStatement => .seq [t .kFor, .opt (t .kAwait), n .forHeader, n .statement]
  | .forHeader =>
    let plain : List (Rule NT) := [n .lhsExpression, n .parenthesizedExpression,
      .seq [t .kVar, .alt [t .identifier, n .destructuringPattern], .opt (n .initializer)],
      .seq [.alt [t .kLet, t .kConst], .alt [t .identifier, n .destructuringPattern],
        .opt (t .autoSemicolon)]]
    let disposal : List (Rule NT) := if f.typed then [] else
      [.seq [.alt [t .kUsing, .seq [t .kAwait, t .kUsing]],
        .alt [t .identifier, n .destructuringPattern]]]
    .seq [t .lParen, .alt (plain ++ disposal), .alt [t .kIn, t .kOf], n .expressions, t .rParen]
  | .whileStatement => .seq [t .kWhile, n .parenthesizedExpression, n .statement]
  | .doStatement =>
    .seq [t .kDo, n .statement, t .kWhile, n .parenthesizedExpression, .opt (n .semicolon)]
  | .tryStatement =>
    .seq [t .kTry, n .statementBlock, .opt (n .catchClause), .opt (n .finallyClause)]
  | .withStatement => .seq [t .kWith, n .parenthesizedExpression, n .statement]
  | .breakStatement => .seq [t .kBreak, .opt (t .identifier), n .semicolon]
  | .continueStatement => .seq [t .kContinue, .opt (t .identifier), n .semicolon]
  | .debuggerStatement => .seq [t .kDebugger, n .semicolon]
  | .returnStatement => .seq [t .kReturn, .opt (n .expressions), n .semicolon]
  | .throwStatement => .seq [t .kThrow, n .expressions, n .semicolon]
  | .emptyStatement => t .semi
  | .labeledStatement =>
    .seq [.alt [t .identifier, n .reservedIdentifier], t .colon, n .statement]
  | .switchBody =>
    .seq [t .lBrace, .many (.alt [n .switchCase, n .switchDefault]), t .rBrace]
  | .switchCase => .seq [t .kCase, n .expressions, t .colon, .many (n .statement)]
  | .switchDefault => .seq [t .kDefault, t .colon, .many (n .statement)]
  | .catchClause =>
    let binding : Rule NT := .alt [t .identifier, n .destructuringPattern]
    let param : Rule NT := if f.typed then .seq [binding, .opt (n .typeAscription)] else binding
    .seq [t .kCatch, .opt (.seq [t .lParen, param, t .rParen]), n .statementBlock]
  | .finallyClause => .seq [t .kFinally, n .statementBlock]
  | .parenthesizedExpression =>
    if f.typed then
      .seq [t .lParen,
        .alt [.seq [n .expression, .opt (n .typeAscription)], n .sequenceExpression],
        t .rParen]
    else .seq [t .lParen, n .expressions, t .rParen]
  | .expressions => .alt [n .expression, n .sequenceExpression]
  | .expression =>
    let plain : List (Rule NT) := [n .primaryExpression, n .assignmentExpression,
      n .augmentedAssignmentExpression, n .awaitExpression, n .unaryExpression,
      n .binaryExpression, n .ternaryExpression, n .updateExpression, n .newExpression,
      n .yieldExpression]
    let jsx : List (Rule NT) := if f.jsx then [n .jsxAnyElement] else []
    let typed : List (Rule NT) := if f.typed then
        [n .asExpression, n .satisfiesExpression, n .instantiationExpression,
          n .internalModule] ++ (if f.jsx then [] else [n .typeAssertion])
      else []
    .alt (plain ++ jsx ++ typed)
  | .primaryExpression =>
    let plain : List (Rule NT) := [n .subscriptExpression, n .memberExpression, n .parenthesizedExpression,
      n .identifierReference, n .reservedIdentifier, t .kThis, t .kSuper, t .number,
      n .string, n .templateString, n .regex, t .kTrue, t .kFalse, t .kNull, n .object,
      n .array, n .functionExpression, n .arrowFunction, n .generatorFunction,
      n .classExpression, n .metaProperty, n .callExpression]
    .alt (if f.typed then plain ++ [n .nonNullExpression] else plain)
  | .yieldExpression =>
    .seq [t .kYield, .alt [.seq [t .star, n .expression], .opt (n .expression)]]
  | .object => .seq [t .lBrace,
      commaSep (.opt (.alt [n .pair, n .spreadElement, n .methodDefinition, t .identifier,
        n .reservedIdentifier])),
      t .rBrace]
  | .objectPattern => .seq [t .lBrace,
      commaSep (.opt (.alt [n .pairPattern, n .restPattern, n .objectAssignmentPattern,
        t .identifier, n .reservedIdentifier])),
      t .rBrace]
  | .assignmentPattern => .seq [n .pattern, t .eq, n .expression]
  | .objectAssignmentPattern =>
    .seq [.alt [n .reservedIdentifier, t .identifier, n .destructuringPattern], t .eq,
      n .expression]
  | .array =>
    .seq [t .lBracket, commaSep (.opt (.alt [n .expression, n .spreadElement])), t .rBracket]
  | .arrayPattern =>
    .seq [t .lBracket, commaSep (.opt (.alt [n .pattern, n .assignmentPattern])),
      t .rBracket]
  | .jsxAnyElement => .alt [n .jsxElement, n .jsxSelfClosingElement]
  | .jsxElement => .seq [n .jsxOpeningElement, .many (n .jsxChild), n .jsxClosingElement]
  | .jsxExpression => .seq [t .lBrace,
      .opt (.alt [n .expression, n .sequenceExpression, n .spreadElement]), t .rBrace]
  | .jsxChild => .alt [t .jsxText, t .charReference, n .jsxAnyElement, n .jsxExpression]
  | .jsxOpeningElement =>
    if f.typed then .seq [n .jsxStartOpeningElement, t .gt]
    else .seq [t .lt, .opt (.seq [n .jsxElementName, .many (n .jsxAnyAttribute)]), t .gt]
  | .jsxStartOpeningElement => .seq [t .lt,
      .opt (.seq [
        .alt [n .jsxName, n .jsxNamespaceName,
          .seq [.alt [t .identifier, n .nestedIdentifier], .opt (n .typeArguments)]],
        .many (n .jsxAnyAttribute)])]
  | .jsxName => .alt [t .jsxIdentifier, t .identifier]
  | .nestedIdentifier => .seq [.alt [t .identifier, n .nestedIdentifier], t .dot, t .identifier]
  | .jsxNamespaceName => .seq [n .jsxName, t .colon, n .jsxName]
  | .jsxElementName => .alt [n .jsxName, n .nestedIdentifier, n .jsxNamespaceName]
  | .jsxClosingElement => .seq [t .ltSlash, .opt (n .jsxElementName), t .gt]
  | .jsxSelfClosingElement =>
    if f.typed then .seq [n .jsxStartOpeningElement, t .slashGt]
    else .seq [t .lt, n .jsxElementName, .many (n .jsxAnyAttribute), t .slashGt]
  | .jsxAnyAttribute => .alt [n .jsxAttribute, n .jsxExpression]
  | .jsxAttribute => .seq [n .jsxAttributeName, .opt (.seq [t .eq, n .jsxAttributeValue])]
  | .jsxAttributeName => .alt [n .jsxName, n .jsxNamespaceName]
  | .jsxString => .alt [
      .seq [t .doubleQuote, .many (.alt [t .jsxDoubleFragment, t .charReference]),
        t .doubleQuote],
      .seq [t .singleQuote, .many (.alt [t .jsxSingleFragment, t .charReference]),
        t .singleQuote]]
  | .jsxAttributeValue => .alt [n .jsxString, n .jsxExpression, n .jsxAnyElement]
  | .classExpression =>
    if f.typed then
      .seq [.many (n .decorator), t .kClass, .opt (t .identifier), .opt (n .typeParameters),
        .opt (n .classHeritage), n .classBody]
    else
      .seq [.many (n .decorator), t .kClass, .opt (t .identifier), .opt (n .classHeritage),
        n .classBody]
  | .classDeclaration =>
    if f.typed then
      .seq [.many (n .decorator), t .kClass, t .identifier, .opt (n .typeParameters),
        .opt (n .classHeritage), n .classBody, .opt (t .autoSemicolon)]
    else
      .seq [.many (n .decorator), t .kClass, t .identifier, .opt (n .classHeritage),
        n .classBody, .opt (t .autoSemicolon)]
  | .classHeritage =>
    if f.typed then
      .alt [.seq [n .extendsClause, .opt (n .implementsClause)], n .implementsClause]
    else .seq [t .kExtends, n .expression]
  | .functionExpression => .seq [.opt (t .kAsync), t .kFunction, .opt (t .identifier),
      n .callSignature, n .statementBlock]
  | .functionDeclaration => .seq [.opt (t .kAsync), t .kFunction, t .identifier,
      n .callSignature, n .statementBlock, .opt (t .autoSemicolon)]
  | .generatorFunction => .seq [.opt (t .kAsync), t .kFunction, t .star,
      .opt (t .identifier), n .callSignature, n .statementBlock]
  | .generatorFunctionDeclaration => .seq [.opt (t .kAsync), t .kFunction, t .star,
      t .identifier, n .callSignature, n .statementBlock, .opt (t .autoSemicolon)]
  | .arrowFunction => .seq [.opt (t .kAsync),
      .alt [n .reservedIdentifier, t .identifier, n .callSignature], t .arrow,
      .alt [n .expression, n .statementBlock]]
  | .callSignature =>
    if f.typed then
      .seq [.opt (n .typeParameters), n .formalParameters,
        .opt (.alt [n .typeAscription, n .assertsAscription, n .typePredicateAscription])]
    else n .formalParameters
  | .formalParameter =>
    if f.typed then .alt [n .requiredParameter, n .optionalParameter]
    else .alt [n .pattern, n .assignmentPattern]
  | .callExpression =>
    if f.typed then
      .alt [
        .seq [.alt [n .expression, t .kImport], .opt (n .typeArguments), n .arguments],
        .seq [.alt [n .primaryExpression, n .newExpression], n .templateString],
        .seq [n .primaryExpression, t .optionalChain, .opt (n .typeArguments), n .arguments]]
    else
      .alt [
        .seq [.alt [n .expression, t .kImport], n .arguments],
        .seq [.alt [n .primaryExpression, n .newExpression], n .templateString],
        .seq [n .primaryExpression, t .optionalChain, n .arguments]]
  | .newExpression =>
    if f.typed then
      .seq [t .kNew, n .primaryExpression, .opt (n .typeArguments), .opt (n .arguments)]
    else .seq [t .kNew, .alt [n .primaryExpression, n .newExpression], .opt (n .arguments)]
  | .awaitExpression => .seq [t .kAwait, n .expression]
  | .memberExpression => .seq [.alt [n .expression, n .primaryExpression, t .kImport],
      .alt [t .dot, t .optionalChain], .alt [t .privateName, t .identifier]]
  | .subscriptExpression => .seq [.alt [n .expression, n .primaryExpression],
      .opt (t .optionalChain), t .lBracket, n .expressions, t .rBracket]
  | .lhsExpression =>
    let plain : List (Rule NT) := [n .memberExpression, n .subscriptExpression, n .identifierReference,
      n .reservedIdentifier, n .destructuringPattern]
    .alt (if f.typed then plain ++ [n .nonNullExpression] else plain)
  | .assignmentExpression =>
    let target : Rule NT := .alt [n .parenthesizedExpression, n .lhsExpression]
    if f.typed then .seq [.opt (t .kUsing), target, t .eq, n .expression]
    else .seq [target, t .eq, n .expression]
  | .augmentedAssignmentLhs =>
    let plain : List (Rule NT) := [n .memberExpression, n .subscriptExpression, n .reservedIdentifier,
      t .identifier, n .parenthesizedExpression]
    .alt (if f.typed then plain ++ [n .nonNullExpression] else plain)
  | .augmentedAssignmentExpression =>
    .seq [n .augmentedAssignmentLhs, n .assignmentOperator, n .expression]
  | .assignmentOperator => .alt [
      t .plusEq, t .minusEq, t .starEq, t .slashEq, t .percentEq, t .caretEq, t .ampEq,
      t .pipeEq, t .shrEq, t .ushrEq, t .shlEq, t .starStarEq, t .ampAmpEq, t .pipePipeEq,
      t .questionQuestionEq]
  | .initializer => .seq [t .eq, n .expression]
  | .destructuringPattern => .alt [n .objectPattern, n .arrayPattern]
  | .spreadElement => .seq [t .ellipsis, n .expression]
  | .ternaryExpression => .seq [n .expression, t .ternaryQuestion, n .expression, t .colon,
      n .expression]
  | .binaryExpression => .alt [
      .seq [n .expression, n .binaryOperator, n .expression],
      .seq [t .privateName, t .kIn, n .expression]]
  | .binaryOperator => .alt [
      t .ampAmp, t .pipePipe, t .shr, t .ushr, t .shl, t .amp, t .caret, t .pipe, t .plus,
      t .minus, t .star, t .slash, t .percent, t .starStar, t .lt, t .le, t .eqEq, t .eqEqEq,
      t .bangEq, t .bangEqEq, t .ge, t .gt, t .questionQuestion, t .kInstanceof, t .kIn]
  | .unaryExpression => .seq [n .unaryOperator, n .expression]
  | .unaryOperator => .alt [
      t .bang, t .tilde, t .minus, t .plus, t .kTypeof, t .kVoid, t .kDelete]
  | .updateExpression => .alt [
      .seq [n .expression, .alt [t .plusPlus, t .minusMinus]],
      .seq [.alt [t .plusPlus, t .minusMinus], n .expression]]
  | .sequenceExpression => .seq [n .expression, t .comma, commaSep1 (n .expression)]
  | .string => .alt [
      .seq [t .doubleQuote, .many (.alt [t .doubleFragment, t .escape]), t .doubleQuote],
      .seq [t .singleQuote, .many (.alt [t .singleFragment, t .escape]), t .singleQuote]]
  | .templateString => .seq [t .backtick,
      .many (.alt [t .templateChars, t .escape, n .templateSubstitution]), t .backtick]
  | .templateSubstitution => .seq [t .dollarBrace, n .expressions, t .rBrace]
  | .regex => .seq [t .slash, t .regexPattern, t .regexClose, .opt (t .regexFlags)]
  | .identifierReference => .alt [t .kUndefined, t .identifier]
  | .metaProperty => .alt [
      .seq [t .kNew, t .dot, t .kTarget], .seq [t .kImport, t .dot, t .kMeta]]
  | .arguments => .seq [t .lParen,
      commaSep (.opt (.alt [n .expression, n .spreadElement])), t .rParen]
  | .decorator =>
    let plain : List (Rule NT) :=
      [t .identifier, n .decoratorMemberExpression, n .decoratorCallExpression]
    .seq [t .at, .alt (if f.typed then plain ++ [n .decoratorParenthesizedExpression] else plain)]
  | .decoratorMemberExpression =>
    .seq [.alt [t .identifier, n .decoratorMemberExpression], t .dot, t .identifier]
  | .decoratorCallExpression =>
    let callee : Rule NT := .alt [t .identifier, n .decoratorMemberExpression]
    if f.typed then .seq [callee, .opt (n .typeArguments), n .arguments]
    else .seq [callee, n .arguments]
  | .decoratorParenthesizedExpression => .seq [t .lParen,
      .alt [t .identifier, n .decoratorMemberExpression, n .decoratorCallExpression],
      t .rParen]
  | .classBody =>
    if f.typed then
      .seq [t .lBrace,
        .many (.alt [
          .seq [.many (n .decorator), n .methodDefinition, .opt (n .semicolon)],
          .seq [n .methodSignature, .alt [t .signatureSemicolon, t .comma]],
          n .classStaticBlock,
          .seq [.alt [n .abstractMethodSignature, n .indexSignature, n .methodSignature,
            n .publicFieldDefinition], .alt [n .semicolon, t .comma]],
          t .semi]),
        t .rBrace]
    else
      .seq [t .lBrace,
        .many (.alt [
          .seq [n .methodDefinition, .opt (t .semi)],
          .seq [n .fieldDefinition, n .semicolon],
          n .classStaticBlock,
          t .semi]),
        t .rBrace]
  | .fieldDefinition => .seq [.many (n .decorator), .opt (t .kStatic), n .propertyName,
      .opt (n .initializer)]
  | .formalParameters => .seq [t .lParen,
      .opt (.seq [commaSep1 (n .formalParameter), .opt (t .comma)]), t .rParen]
  | .classStaticBlock => .seq [t .kStatic, .opt (t .autoSemicolon), n .statementBlock]
  | .pattern => .alt [n .lhsExpression, n .restPattern]
  | .restPattern => .seq [t .ellipsis, n .lhsExpression]
  | .methodDefinition =>
    if f.typed then
      .seq [.opt (n .accessibilityModifier),
        .opt (t .kStatic), .opt (t .kOverride), .opt (t .kReadonly),
        .opt (t .kAsync), .opt (.alt [t .kGet, t .kSet, t .star]), n .propertyName,
        .opt (t .question), n .callSignature, n .statementBlock]
    else
      .seq [.many (n .decorator), .opt (.alt [t .kStatic, t .staticGet]), .opt (t .kAsync),
        .opt (.alt [t .kGet, t .kSet, t .star]), n .propertyName, n .formalParameters,
        n .statementBlock]
  | .pair => .seq [n .propertyName, t .colon, n .expression]
  | .pairPattern =>
    .seq [n .propertyName, t .colon, .alt [n .pattern, n .assignmentPattern]]
  | .propertyName => .alt [t .identifier, n .reservedIdentifier, t .privateName, n .string,
      t .number, n .computedPropertyName]
  | .computedPropertyName => .seq [t .lBracket, n .expression, t .rBracket]
  | .reservedIdentifier =>
    let plain : List (Rule NT) := [t .kGet, t .kSet, t .kAsync, t .kStatic, t .kExport, t .kLet]
    .alt (if f.typed then plain ++ [t .kDeclare, t .kNamespace, t .kType, t .kPublic,
      t .kPrivate, t .kProtected, t .kOverride, t .kReadonly, t .kModule, t .kAny,
      t .kNumber, t .kBoolean, t .kString, t .kSymbol, t .kObject, t .kNew]
      else plain ++ [t .kAwait])
  | .semicolon => .alt [t .autoSemicolon, t .semi]
  | _ => .alt []

/-- The rule of category `c` in flavour `f`: its type syntax when the flavour is typed and
`c` belongs to it, else the shared rule. Categories of the type syntax have no rule in an
untyped flavour. -/
def rule (f : Flavor) (c : NT) : Rule NT :=
  match typeSyntax c with
  | some r => if f.typed then r else .alt []
  | none => sharedRule f c

end DocSuite.Script
