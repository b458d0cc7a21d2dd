/-!
# Nonterminals

The named nonterminals of the script grammars: one constructor per syntactic category of
the language (statements, expressions, patterns, JSX, and the type syntax of the typed
dialects). Helper categories that only group tokens (`binaryOperator`,
`assignmentOperator`, `unaryOperator`) keep the grammar small without changing what it
accepts.
-/

namespace DocSuite.Script

/-- A syntactic category of the script grammars. -/
inductive NT where
  | program
  | exportStatement
  | namespaceExport
  | exportClause
  | exportSpecifier
  | moduleExportName
  | declaration
  | importStatement
  | importClause
  | fromClause
  | namespaceImport
  | namedImports
  | importSpecifier
  | importAttribute
  | importIdentifier
  | statement
  | expressionStatement
  | variableDeclaration
  | lexicalDeclaration
  | usingDeclaration
  | variableDeclarator
  | statementBlock
  | elseClause
  | ifStatement
  | switchStatement
  | forStatement
  | forInStatement
  | forHeader
  | whileStatement
  | doStatement
  | tryStatement
  | withStatement
  | breakStatement
  | continueStatement
  | debuggerStatement
  | returnStatement
  | throwStatement
  | emptyStatement
  | labeledStatement
  | switchBody
  | switchCase
  | switchDefault
  | catchClause
  | finallyClause
  | parenthesizedExpression
  | expressions
  | expression
  | primaryExpression
  | yieldExpression
  | object
  | objectPattern
  | assignmentPattern
  | objectAssignmentPattern
  | array
  | arrayPattern
  | jsxAnyElement
  | jsxElement
  | jsxExpression
  | jsxChild
  | jsxOpeningElement
  | jsxStartOpeningElement
  | jsxName
  | nestedIdentifier
  | jsxNamespaceName
  | jsxElementName
  | jsxClosingElement
  | jsxSelfClosingElement
  | jsxAnyAttribute
  | jsxAttribute
  | jsxAttributeName
  | jsxString
  | jsxAttributeValue
  | classExpression
  | classDeclaration
  | classHeritage
  | functionExpression
  | functionDeclaration
  | generatorFunction
  | generatorFunctionDeclaration
  | arrowFunction
  | callSignature
  | formalParameter
  | callExpression
  | newExpression
  | awaitExpression
  | memberExpression
  | subscriptExpression
  | lhsExpression
  | assignmentExpression
  | augmentedAssignmentLhs
  | augmentedAssignmentExpression
  | assignmentOperator
  | initializer
  | destructuringPattern
  | spreadElement
  | ternaryExpression
  | binaryExpression
  | binaryOperator
  | unaryExpression
  | unaryOperator
  | updateExpression
  | sequenceExpression
  | string
  | templateString
  | templateSubstitution
  | regex
  | identifierReference
  | metaProperty
  | arguments
  | decorator
  | decoratorMemberExpression
  | decoratorCallExpression
  | decoratorParenthesizedExpression
  | classBody
  | fieldDefinition
  | formalParameters
  | classStaticBlock
  | pattern
  | restPattern
  | methodDefinition
  | pair
  | pairPattern
  | propertyName
  | computedPropertyName
  | reservedIdentifier
  | semicolon
  -- the typed dialects
  | publicFieldDefinition
  | nonNullExpression
  | methodSignature
  | abstractMethodSignature
  | functionSignature
  | typeAssertion
  | asExpression
  | satisfiesExpression
  | instantiationExpression
  | importRequireClause
  | extendsClause
  | extendsClauseSingle
  | implementsClause
  | ambientDeclaration
  | abstractClassDeclaration
  | moduleDeclaration
  | internalModule
  | moduleBody
  | importAlias
  | nestedTypeIdentifier
  | interfaceDeclaration
  | extendsTypeClause
  | enumDeclaration
  | enumBody
  | enumAssignment
  | typeAliasDeclaration
  | accessibilityModifier
  | requiredParameter
  | optionalParameter
  | parameterName
  | omittingTypeAscription
  | addingTypeAscription
  | optingTypeAscription
  | typeAscription
  | asserts
  | assertsAscription
  | type
  | tupleParameter
  | optionalTupleParameter
  | optionalType
  | restType
  | tupleTypeMember
  | constructorType
  | primaryType
  | templateType
  | templateLiteralType
  | inferType
  | conditionalType
  | genericType
  | typePredicate
  | typePredicateAscription
  | typeQuery
  | typeQueryMember
  | typeQuerySubscript
  | typeQueryCall
  | typeQueryInstantiation
  | typeQueryMemberInAscription
  | typeQueryCallInAscription
  | indexTypeQuery
  | lookupType
  | mappedTypeClause
  | literalType
  | signedNumber
  | flowMaybeType
  | parenthesizedType
  | predefinedType
  | typeArguments
  | objectType
  | callSignatureMember
  | propertySignature
  | typeParameters
  | typeParameter
  | defaultType
  | constraint
  | constructSignature
  | indexSignature
  | arrayType
  | tupleType
  | readonlyType
  | unionType
  | intersectionType
  | functionType
  deriving DecidableEq, Repr, Inhabited

namespace NT

/-- The number of nonterminals. -/
def count : Nat := NT.ctorIdx .functionType + 1

/-- Every nonterminal, in declaration order. -/
def all : List NT := (List.range count).map NT.ofNat

end NT

end DocSuite.Script
