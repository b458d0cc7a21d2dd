import DocSuite.Script.Grammar.Rule
import DocSuite.Script.Grammar.Symbol
/-!
# Type syntax

The categories that only the typed dialects have: type expressions, type parameters and
arguments, signatures, and the declarations built from them (interfaces, enums, type
aliases, namespaces, ambient declarations). `typeSyntax` gives the rule of such a category
and `none` for the categories both dialects share.
-/

namespace DocSuite.Script

open Rule

/-- The rule of a category of the type syntax, or `none` for a shared category. -/
def typeSyntax : NT → Option (Rule NT)
  | .publicFieldDefinition => some <| .seq [
      .many (n .decorator),
      .opt (.alt [.seq [t .kDeclare, .opt (n .accessibilityModifier)],
        .seq [n .accessibilityModifier, .opt (t .kDeclare)]]),
      .alt [.seq [.opt (t .kStatic), .opt (t .kOverride), .opt (t .kReadonly)],
        .seq [.opt (t .kAbstract), .opt (t .kReadonly)],
        .seq [.opt (t .kReadonly), .opt (t .kAbstract)],
        .opt (t .kAccessor)],
      n .propertyName, .opt (.alt [t .question, t .bang]), .opt (n .typeAscription),
      .opt (n .initializer)]
  | .nonNullExpression => some <| .seq [n .expression, t .bang]
  | .methodSignature => some <| .seq [
      .opt (n .accessibilityModifier), .opt (t .kStatic), .opt (t .kOverride),
      .opt (t .kReadonly), .opt (t .kAsync), .opt (.alt [t .kGet, t .kSet, t .star]),
      n .propertyName, .opt (t .question), n .callSignature]
  | .abstractMethodSignature => some <| .seq [
      .opt (n .accessibilityModifier), t .kAbstract, .opt (t .kOverride),
      .opt (.alt [t .kGet, t .kSet, t .star]), n .propertyName, .opt (t .question),
      n .callSignature]
  | .functionSignature => some <| .seq [
      .opt (t .kAsync), t .kFunction, t .identifier, n .callSignature,
      .alt [n .semicolon, t .signatureSemicolon]]
  | .typeAssertion => some <| .seq [n .typeArguments, n .expression]
  | .asExpression => some <| .seq [n .expression, t .kAs, .alt [t .kConst, n .type]]
  | .satisfiesExpression => some <| .seq [n .expression, t .kSatisfies, n .type]
  | .instantiationExpression => some <| .seq [n .expression, n .typeArguments]
  | .importRequireClause => some <| .seq [
      t .identifier, t .eq, t .kRequire, t .lParen, n .string, t .rParen]
  | .extendsClause => some <| .seq [t .kExtends, commaSep1 (n .extendsClauseSingle)]
  | .extendsClauseSingle => some <| .seq [n .expression, .opt (n .typeArguments)]
  | .implementsClause => some <| .seq [t .kImplements, commaSep1 (n .type)]
  | .ambientDeclaration => some <| .seq [t .kDeclare, .alt [
      n .declaration,
      .seq [t .kGlobal, n .statementBlock],
      .seq [t .kModule, t .dot, t .identifier, t .colon, n .type, n .semicolon]]]
  | .abstractClassDeclaration => some <| .seq [
      .many (n .decorator), t .kAbstract, t .kClass, t .identifier,
      .opt (n .typeParameters), .opt (n .classHeritage), n .classBody]
  | .moduleDeclaration => some <| .seq [t .kModule, n .moduleBody]
  | .internalModule => some <| .seq [t .kNamespace, n .moduleBody]
  | .moduleBody => some <| .seq [
      .alt [n .string, t .identifier, n .nestedIdentifier], .opt (n .statementBlock)]
  | .importAlias => some <| .seq [
      t .kImport, t .identifier, t .eq, .alt [t .identifier, n .nestedIdentifier],
      n .semicolon]
  | .nestedTypeIdentifier => some <| .seq [
      .alt [t .identifier, n .nestedIdentifier], t .dot, t .identifier]
  | .interfaceDeclaration => some <| .seq [
      t .kInterface, t .identifier, .opt (n .typeParameters), .opt (n .extendsTypeClause),
      n .objectType]
  | .extendsTypeClause => some <| .seq [
      t .kExtends, commaSep1 (.alt [t .identifier, n .nestedTypeIdentifier, n .genericType])]
  | .enumDeclaration => some <| .seq [
      .opt (t .kConst), t .kEnum, t .identifier, n .enumBody]
  | .enumBody => some <| .seq [
      t .lBrace,
      .opt (.seq [sepBy1 (t .comma) (.alt [n .propertyName, n .enumAssignment]),
        .opt (t .comma)]),
      t .rBrace]
  | .enumAssignment => some <| .seq [n .propertyName, n .initializer]
  | .typeAliasDeclaration => some <| .seq [
      t .kType, t .identifier, .opt (n .typeParameters), t .eq, n .type, n .semicolon]
  | .accessibilityModifier => some <| .alt [t .kPublic, t .kPrivate, t .kProtected]
  | .requiredParameter => some <| .seq [
      n .parameterName, .opt (n .typeAscription), .opt (n .initializer)]
  | .optionalParameter => some <| .seq [
      n .parameterName, t .question, .opt (n .typeAscription), .opt (n .initializer)]
  | .parameterName => some <| .seq [
      .many (n .decorator), .opt (n .accessibilityModifier), .opt (t .kOverride),
      .opt (t .kReadonly), .alt [n .pattern, t .kThis]]
  | .omittingTypeAscription => some <| .seq [t .minusQuestion, t .colon, n .type]
  | .addingTypeAscription => some <| .seq [t .plusQuestion, t .colon, n .type]
  | .optingTypeAscription => some <| .seq [t .questionColon, n .type]
  | .typeAscription => some <| .seq [t .colon, n .type]
  | .asserts => some <| .seq [t .kAsserts, .alt [n .typePredicate, t .identifier, t .kThis]]
  | .assertsAscription => some <| .seq [t .colon, n .asserts]
  | .type => some <| .alt [
      n .primaryType, n .functionType, n .readonlyType, n .constructorType, n .inferType,
      n .typeQueryMemberInAscription, n .typeQueryCallInAscription]
  | .tupleParameter => some <| .seq [.alt [t .identifier, n .restPattern], n .typeAscription]
  | .optionalTupleParameter => some <| .seq [t .identifier, t .question, n .typeAscription]
  | .optionalType => some <| .seq [n .type, t .question]
  | .restType => some <| .seq [t .ellipsis, n .type]
  | .tupleTypeMember => some <| .alt [
      n .tupleParameter, n .optionalTupleParameter, n .optionalType, n .restType, n .type]
  | .constructorType => some <| .seq [
      .opt (t .kAbstract), t .kNew, .opt (n .typeParameters), n .formalParameters,
      t .arrow, n .type]
  | .primaryType => some <| .alt [
      n .parenthesizedType, n .predefinedType, t .identifier, n .nestedTypeIdentifier,
      n .genericType, n .objectType, n .arrayType, n .tupleType, n .flowMaybeType,
      n .typeQuery, n .indexTypeQuery, t .kThis, t .star, n .literalType, n .lookupType,
      n .conditionalType, n .templateLiteralType, n .intersectionType, n .unionType,
      t .kConst]
  | .templateType => some <| .seq [
      t .dollarBrace, .alt [n .primaryType, n .inferType], t .rBrace]
  | .templateLiteralType => some <| .seq [
      t .backtick, .many (.alt [t .templateChars, n .templateType]), t .backtick]
  | .inferType => some <| .seq [
      t .kInfer, t .identifier, .opt (.seq [t .kExtends, n .type])]
  | .conditionalType => some <| .seq [
      n .type, t .kExtends, n .type, t .question, n .type, t .colon, n .type]
  | .genericType => some <| .seq [
      .alt [t .identifier, n .nestedTypeIdentifier], n .typeArguments]
  | .typePredicate => some <| .seq [
      .alt [t .identifier, t .kThis, n .predefinedType], t .kIs, n .type]
  | .typePredicateAscription => some <| .seq [t .colon, n .typePredicate]
  | .typeQuery => some <| .seq [t .kTypeof, .alt [
      n .typeQuerySubscript, n .typeQueryMember, n .typeQueryCall,
      n .typeQueryInstantiation, t .identifier, t .kThis]]
  | .typeQueryMember => some <| .seq [
      .alt [t .identifier, t .kThis, n .typeQuerySubscript, n .typeQueryMember,
        n .typeQueryCall],
      .alt [t .dot, t .optionalChain], .alt [t .privateName, t .identifier]]
  | .typeQuerySubscript => some <| .seq [
      .alt [t .identifier, t .kThis, n .typeQuerySubscript, n .typeQueryMember,
        n .typeQueryCall],
      .opt (t .optionalChain), t .lBracket,
      .alt [n .predefinedType, n .string, t .number], t .rBracket]
  | .typeQueryCall => some <| .seq [
      .alt [t .kImport, t .identifier, n .typeQueryMember, n .typeQuerySubscript],
      n .arguments]
  | .typeQueryInstantiation => some <| .seq [
      .alt [t .kImport, t .identifier, n .typeQueryMember, n .typeQuerySubscript],
      n .typeArguments]
  | .typeQueryMemberInAscription => some <| .seq [
      .alt [t .kImport, n .typeQueryMemberInAscription, n .typeQueryCallInAscription],
      t .dot, .alt [t .privateName, t .identifier]]
  | .typeQueryCallInAscription => some <| .seq [
      .alt [t .kImport, n .typeQueryMemberInAscription], n .arguments]
  | .indexTypeQuery => some <| .seq [t .kKeyof, n .primaryType]
  | .lookupType => some <| .seq [n .primaryType, t .lBracket, n .type, t .rBracket]
  | .mappedTypeClause => some <| .seq [
      t .identifier, t .kIn, n .type, .opt (.seq [t .kAs, n .type])]
  | .literalType => some <| .alt [
      n .signedNumber, t .number, n .string, t .kTrue, t .kFalse, t .kNull, t .kUndefined]
  | .signedNumber => some <| .seq [.alt [t .minus, t .plus], t .number]
  | .flowMaybeType => some <| .seq [t .question, n .primaryType]
  | .parenthesizedType => some <| .seq [t .lParen, n .type, t .rParen]
  | .predefinedType => some <| .alt [
      t .kAny, t .kNumber, t .kBoolean, t .kString, t .kSymbol,
      .seq [t .kUnique, t .kSymbol], t .kVoid, t .kUnknown, t .kNever, t .kObject]
  | .typeArguments => some <| .seq [t .lt, commaSep1 (n .type), .opt (t .comma), t .gt]
  | .objectType => some <| .seq [
      .alt [t .lBrace, t .lBracePipe],
      .opt (.seq [
        .opt (.alt [t .comma, t .semi]),
        sepBy1 (.alt [t .comma, n .semicolon]) (.alt [
          n .exportStatement, n .propertySignature, n .callSignatureMember,
          n .constructSignature, n .indexSignature, n .methodSignature]),
        .opt (.alt [t .comma, n .semicolon])]),
      .alt [t .rBrace, t .pipeRBrace]]
  | .callSignatureMember => some <| n .callSignature
  | .propertySignature => some <| .seq [
      .opt (n .accessibilityModifier), .opt (t .kStatic), .opt (t .kOverride),
      .opt (t .kReadonly), n .propertyName, .opt (t .question), .opt (n .typeAscription)]
  | .typeParameters => some <| .seq [
      t .lt, commaSep1 (n .typeParameter), .opt (t .comma), t .gt]
  | .typeParameter => some <| .seq [
      .opt (t .kConst), t .identifier, .opt (n .constraint), .opt (n .defaultType)]
  | .defaultType => some <| .seq [t .eq, n .type]
  | .constraint => some <| .seq [.alt [t .kExtends, t .colon], n .type]
  | .constructSignature => some <| .seq [
      .opt (t .kAbstract), t .kNew, .opt (n .typeParameters), n .formalParameters,
      .opt (n .typeAscription)]
  | .indexSignature => some <| .seq [
      .opt (.seq [.opt (.alt [t .minus, t .plus]), t .kReadonly]),
      t .lBracket,
      .alt [.seq [.alt [t .identifier, n .reservedIdentifier], t .colon, n .type],
        n .mappedTypeClause],
      t .rBracket,
      .alt [n .typeAscription, n .omittingTypeAscription, n .addingTypeAscription,
        n .optingTypeAscription]]
  | .arrayType => some <| .seq [n .primaryType, t .lBracket, t .rBracket]
  | .tupleType => some <| .seq [
      t .lBracket, commaSep (n .tupleTypeMember), .opt (t .comma), t .rBracket]
  | .readonlyType => some <| .seq [t .kReadonly, n .type]
  | .unionType => some <| .seq [.opt (n .type), t .pipe, n .type]
  | .intersectionType => some <| .seq [.opt (n .type), t .amp, n .type]
  | .functionType => some <| .seq [
      .opt (n .typeParameters), n .formalParameters, t .arrow,
      .alt [n .type, n .asserts, n .typePredicate]]
  | _ => none

end DocSuite.Script
