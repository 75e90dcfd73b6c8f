import TypedRows.Schema.Build
import TypedRows.Schema.Inheritance
import TypedRows.TypeMap

/-!
What every statement of a project is analysed against.
-/

namespace TypedRows

structure Context where
  catalog : Catalog
  inheritance : Inheritance
  types : TypeMap

namespace Context

def ofCatalog (catalog : Catalog) (types : TypeMap) : Context :=
  ⟨catalog, .ofCatalog catalog, types⟩

def ofText (schema : String) (types : TypeMap) : Except Error Context := do
  return ofCatalog (← Catalog.ofText schema) types

end Context

end TypedRows
