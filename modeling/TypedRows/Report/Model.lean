import TypedRows.Project
import TypedRows.Report.Json

/-!
The analysed project as JSON.
-/

namespace TypedRows

open Sql

namespace Json

def ofText? : Option String → Json := ofOption .text

def ofBool? : Option Bool → Json := ofOption .bool

def ofMap {α : Type} (encode : α → Json) (map : OrderedMap String α) : Json :=
  ofMembers (map.entries.map fun (key, value) => (key, encode value))

end Json

def Value.json : Value → Json
  | null => .null
  | bool b => .bool b
  | text s => .text s
  | list items => .texts items

def Annotations.json (map : Annotations) : Json := Json.ofMap Value.json map

def Origin.json (origin : Origin) : Json :=
  .ofMembers [("object", .text origin.object), ("column", .text origin.column)]

def ResultColumn.json (c : ResultColumn) : Json :=
  .ofMembers [
    ("name", .text c.name),
    ("table_alias", .ofText? c.tableAlias),
    ("alias_path", .texts c.aliasPath),
    ("origin", .ofOption Origin.json c.origin),
    ("sql_type", .ofText? c.sqlType),
    ("not_null", .bool c.notNull),
    ("declared_not_null", .bool c.declaredNotNull),
    ("joined_nullable", .bool c.joinedNullable),
    ("expression", .ofText? c.expression)]

def Sql.ColumnDecl.json (c : ColumnDecl) : Json :=
  .ofMembers [
    ("name", .text c.name),
    ("data_type", .ofText? c.type),
    ("not_null", .bool c.notNull),
    ("primary_key", .bool c.primaryKey),
    ("default", .ofText? c.default)]

def Table.json (t : Table) : Json :=
  .ofMembers [
    ("name", .text t.name),
    ("columns", .list (t.columns.map ColumnDecl.json)),
    ("without_rowid", .bool t.withoutRowid),
    ("annotations", t.annotations.json),
    ("field_annotations", .ofMap Annotations.json t.fieldAnnotations),
    ("sql", .text t.sql)]

def View.json (v : View) : Json :=
  .ofMembers [
    ("name", .text v.name),
    ("explicit_columns", .texts v.explicitColumns),
    ("columns", .list (v.columns.map ResultColumn.json)),
    ("cyclic", .bool v.cyclic),
    ("annotations", v.annotations.json),
    ("field_annotations", .ofMap Annotations.json v.fieldAnnotations),
    ("sql", .text v.sql)]

def Catalog.json (catalog : Catalog) : Json :=
  .ofMembers [
    ("tables", .ofMap Table.json catalog.tables),
    ("views", .ofMap View.json catalog.views)]

def Mapping.json (m : Mapping) : Json :=
  .ofMembers [
    ("mapping_type", .text m.kind.toString),
    ("source_table", .text m.sourceTable),
    ("alias_prefix", .ofText? m.aliasPrefix),
    ("collection_key", .ofText? m.collectionKey)]

def FieldOverrides.json (o : FieldOverrides) : Json :=
  .ofMembers [
    ("property_name", .ofText? o.propertyName),
    ("property_type", .ofText? o.propertyType),
    ("not_null", .ofBool? o.notNull),
    ("adapter", .bool o.adapter),
    ("sql_type_hint", .ofText? o.sqlTypeHint),
    ("default_value", .ofText? o.defaultValue),
    ("is_dynamic_field", .bool o.isDynamicField),
    ("mapping", .ofOption Mapping.json o.mapping)]

def NameStyle.toString : NameStyle → String
  | snake => "SnakeCase"
  | lowerCamel => "LowerCamelCase"
  | plain => "Plain"

def StatementOverrides.json (o : StatementOverrides) : Json :=
  .ofMembers [
    ("query_result", .ofText? o.queryResult),
    ("collection_key", .ofText? o.collectionKey),
    ("implements", .texts o.implements),
    ("exclude_override_fields", .texts o.excludeOverrideFields),
    ("property_name_generator", .text o.nameStyle.toString),
    ("extra", o.extra.json)]

def Field.json (f : Field) : Json :=
  .ofMembers [
    ("name", .text f.name),
    ("source", f.source.json),
    ("annotations", f.annotations.json),
    ("overrides", f.overrides.json),
    ("property_name", .text f.propertyName),
    ("property_type", .text f.propertyType),
    ("sql_type", .ofText? f.sqlType),
    ("not_null", .bool f.notNull),
    ("adapter", .bool f.adapter)]

def Parameter.json (p : Parameter) : Json :=
  .ofMembers [
    ("name", .text p.name),
    ("property_name", .text p.propertyName),
    ("property_type", .text p.propertyType),
    ("sql_type", .ofText? p.sqlType),
    ("not_null", .bool p.notNull),
    ("adapter", .bool p.adapter),
    ("column", .ofOption Origin.json p.column)]

def NestedColumn.json (c : NestedColumn) : Json :=
  .ofMembers [
    ("column", .text c.column),
    ("property_name", .text c.propertyName),
    ("property_type", .text c.propertyType),
    ("not_null", .bool c.notNull),
    ("adapter", .bool c.adapter)]

def NestedField.json (n : NestedField) : Json :=
  .ofMembers [
    ("field_name", .text n.fieldName),
    ("property_name", .text n.propertyName),
    ("property_type", .text n.propertyType),
    ("kind", .text n.kind.toString),
    ("source_table", .text n.sourceTable),
    ("alias_prefix", .ofText? n.aliasPrefix),
    ("columns", .list (n.columns.map NestedColumn.json)),
    ("not_null", .bool n.notNull),
    ("parent_key", .ofText? n.parentKey),
    ("item_key", .ofText? n.itemKey)]

def StatementKind.toString : StatementKind → String
  | select => "Select"
  | insert => "Insert"
  | update => "Update"
  | delete => "Delete"

def TypedStatement.json (s : TypedStatement) : Json :=
  .ofMembers [
    ("name", .text s.name),
    ("namespace", .text s.namespace),
    ("source_file", .text s.sourceFile),
    ("sql", .text s.sql),
    ("kind", .text s.kind.toString),
    ("annotations", s.overrides.json),
    ("fields", .list (s.fields.map Field.json)),
    ("parameters", .list (s.parameters.map Parameter.json)),
    ("binding_order", .texts s.bindings),
    ("table_aliases", .ofMap .text s.aliases),
    ("dynamic_mappings", .list (s.nested.map NestedField.json)),
    ("target_table", .ofText? s.target)]

def SharedResult.json (r : SharedResult) : Json :=
  .ofMembers [
    ("id", .text r.id),
    ("name", .text r.name),
    ("namespace", .text r.namespace),
    ("fields", .list (r.fields.map Field.json)),
    ("statement", .text r.statement),
    ("source_file", .text r.sourceFile),
    ("implements", .texts r.implements),
    ("collection_key", .ofText? r.collectionKey),
    ("dynamic_mappings", .list (r.nested.map NestedField.json))]

def Migration.json (m : Migration) : Json :=
  .ofMembers [
    ("version", .number m.version),
    ("description", .ofText? m.description),
    ("file_name", .text m.fileName),
    ("path", .text m.path),
    ("statements", .texts m.statements),
    ("checksum", .text m.checksum)]

def MigrationSet.json (set : MigrationSet) : Json :=
  .ofMembers [("migrations", .ofMembers (set.migrations.map fun migration =>
    (toString migration.version, migration.json)))]

def Project.json (project : Project) : Json :=
  .ofMembers [
    ("catalog", project.catalog.json),
    ("namespaces", .ofMembers (project.namespaces.map fun (name, statements) =>
      (name, .list (statements.map TypedStatement.json)))),
    ("shared", .list (project.shared.all.map SharedResult.json)),
    ("migrations", project.migrations.json)]

end TypedRows
