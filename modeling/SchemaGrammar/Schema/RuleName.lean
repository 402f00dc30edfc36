/-!
# The rule names of a schema grammar

The names that the rules of the grammar of schema documents carry.  Rendering recognises
rules by these names, whatever grammar they stand in.
-/

namespace SchemaGrammar.RuleName

abbrev document : String := "Document"

abbrev definition : String := "Definition"

abbrev schemaDefinition : String := "SchemaDefinition"

abbrev rootOperationTypeDefinition : String := "RootOperationTypeDefinition"

abbrev operationType : String := "OperationType"

abbrev typeDefinition : String := "TypeDefinition"

abbrev objectTypeDefinition : String := "ObjectTypeDefinition"

abbrev interfaceTypeDefinition : String := "InterfaceTypeDefinition"

abbrev unionTypeDefinition : String := "UnionTypeDefinition"

abbrev enumTypeDefinition : String := "EnumTypeDefinition"

abbrev inputObjectTypeDefinition : String := "InputObjectTypeDefinition"

abbrev scalarTypeDefinition : String := "ScalarTypeDefinition"

abbrev implementsInterfaces : String := "ImplementsInterfaces"

abbrev fieldsDefinition : String := "FieldsDefinition"

abbrev fieldDefinition : String := "FieldDefinition"

abbrev argumentsDefinition : String := "ArgumentsDefinition"

abbrev inputValueDefinition : String := "InputValueDefinition"

abbrev inputFieldsDefinition : String := "InputFieldsDefinition"

abbrev unionMemberTypes : String := "UnionMemberTypes"

abbrev enumValuesDefinition : String := "EnumValuesDefinition"

abbrev enumValueDefinition : String := "EnumValueDefinition"

abbrev enumValue : String := "EnumValue"

abbrev defaultValue : String := "DefaultValue"

abbrev value : String := "Value"

abbrev listValue : String := "ListValue"

abbrev objectValue : String := "ObjectValue"

abbrev objectField : String := "ObjectField"

abbrev type : String := "Type"

abbrev namedType : String := "NamedType"

abbrev listType : String := "ListType"

abbrev nonNullType : String := "NonNullType"

abbrev directives : String := "Directives"

abbrev directive : String := "Directive"

abbrev arguments : String := "Arguments"

abbrev argument : String := "Argument"

abbrev directiveDefinition : String := "DirectiveDefinition"

abbrev directiveLocations : String := "DirectiveLocations"

abbrev directiveLocation : String := "DirectiveLocation"

abbrev description : String := "Description"

end SchemaGrammar.RuleName
