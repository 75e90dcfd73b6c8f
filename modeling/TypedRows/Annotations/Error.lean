import TypedRows.Annotations.Block

/-!
What can be wrong with annotations.
-/

namespace TypedRows

inductive AnnotationsError where
  | openBlock (text : String)
  | badBlock (fault : BlockFault) (text : String)
  | twoIdentities (block : String)
  | noIdentity (block : String)
  | emptyIdentity (key : String)
  | untypedDynamicField (field : String)
  | adapterValue (field : String) (value : Value)
  | adapterName (field name : String)
  | mappingTypeName (name : String)
  | mappingOfColumn (field : String)
  | mappingWithoutSource (field : String)
  | notSingle (key owner : String)
  | notBoolean (key field : String)
  | notList (key statement : String)
  | nameStyle (name : String)
  | noQueryResult (statement : String)
  deriving DecidableEq

namespace AnnotationsError

def message : AnnotationsError → String
  | openBlock text => "unterminated annotation block `@@" ++ Text.trimEnd text ++ "`"
  | badBlock fault text => fault.message ++ " in `@@" ++ Text.trim text ++ "`"
  | twoIdentities block =>
    "annotation block " ++ Text.trim block ++
      " declares both `field` and `dynamicField`; exactly one is allowed"
  | noIdentity block =>
    "annotation block " ++ Text.trim block ++
      " must declare exactly one of `field` or `dynamicField`"
  | emptyIdentity key => s!"`{key}` must have a non-empty value"
  | untypedDynamicField field => s!"dynamic field `{field}` must declare `propertyType`"
  | adapterValue field value =>
    s!"field `{field}` has invalid adapter value " ++ value.shown ++
      "; expected `custom` or `default`"
  | adapterName field name => s!"field `{field}` has invalid adapter value `{name}`"
  | mappingTypeName name =>
    s!"unsupported mappingType `{name}`; expected one of perRow, collection, entity"
  | mappingOfColumn field => s!"`mappingType` on `{field}` requires `dynamicField`"
  | mappingWithoutSource field =>
    s!"dynamic field `{field}` with `mappingType` must declare `sourceTable`"
  | notSingle key owner => s!"`{key}` on `{owner}` must be a single value, not a list"
  | notBoolean key field => s!"`{key}` on `{field}` must be true or false"
  | notList key statement => s!"`{key}` on `{statement}` must be a string or a list of strings"
  | nameStyle name =>
    s!"unsupported propertyNameGenerator `{name}`; " ++
      "expected snake_case, lowerCamelCase or plain"
  | noQueryResult statement => s!"statement `{statement}` has no queryResult to register"

end AnnotationsError

end TypedRows
