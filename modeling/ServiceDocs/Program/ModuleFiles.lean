import ServiceDocs.Program.Importing

namespace ServiceDocs.Program

/-!
# Files of modules

Modules are files, so a path may lead to one.  Such a file is neither a document nor a configuration
file, unless nothing is in it.

* `ModuleSource.text` — what the file of a module starts with;
* `Listing.files` — the files of modules, with their texts.
-/

/-- The first line of the file of a module, its imports. -/
def ModuleSource.text (m : ModuleSource) : String :=
  if m.hasImports then "import " ++ String.intercalate ", " Running.startingImports ++ "\n" else ""

/-- The path of the file of module `name`; that of a package is `__init__.py` in a directory. -/
def fileOf (name : String) (isPackage : Bool) : String :=
  let names := Listing.directory :: Text.segments name
  "/".intercalate names ++ if isPackage then "/__init__.py" else ".py"

/-- The path and text of the file of each module. -/
def Listing.files (listing : Listing) : List (String × String) :=
  listing.map fun m => (fileOf m.name (listing.isPackage m.name), m.text)

example : fileOf "shop.api" false = "mods/shop/api.py" ∧
    fileOf "shop" true = "mods/shop/__init__.py" := by
  decide +kernel

end ServiceDocs.Program
