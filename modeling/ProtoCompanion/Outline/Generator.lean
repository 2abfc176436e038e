/-
Module: ProtoCompanion.Outline.Generator
Purpose: The plugin that writes outlines, with its options and its index of all messages.
Main exports: Outline.Options, Outline.generator
-/
import ProtoCompanion.Generation.Generator
import ProtoCompanion.Outline.Code

namespace ProtoCompanion.Outline

/-- The options of the plugin: what is appended to the outer class, which files are skipped, and
whether an index is written. -/
structure Options where
  suffix : String := "Outline"
  skip : List String := []
  index : Bool := true
deriving Repr, DecidableEq, Inhabited

/-- The options among the parameters of a run: `suffix`, any number of `skip`, and `no_index`. -/
def Options.ofParameters (parameters : Parameters) : Options where
  suffix := ((parameters.get? "suffix").filter (· ≠ "")).getD "Outline"
  skip := parameters.getAll "skip"
  index := !parameters.contains "no_index"

/-! ## The index of all messages -/

/-- The row of a message: its name in the schema and its companion class. -/
def indexRow (name : String) (descriptor : Descriptor) : String :=
  "new String[] \x7b" ++ Text.quote name ++ ", " ++ Text.quote (descriptor.companionName id) ++
    "\x7d"

/-- The rows of all registered messages, in the order of their names in the schema. -/
def indexRows (registry : Registry) : List String :=
  (registry.entries.filter fun (_, descriptor) => descriptor.kind = .message).map
    fun (name, descriptor) => indexRow name descriptor

/-- The text of the index. -/
def indexContent (registry : Registry) (package : String) : String :=
  (if package = "" then "" else "package " ++ package ++ ";\n\n") ++
    "import java.util.Arrays;\nimport java.util.List;\n\n" ++
    classBlock "public final class" "OutlineIndex"
      ("public static final List<String[]> MESSAGES = Arrays.asList(\n" ++
        nest (",\n".intercalate (indexRows registry)) ++ ");\n") ++ "\n"

/-- The file that holds the index, in the directory of its package. -/
def indexFile (registry : Registry) (package : String) : OutputFile where
  name? := some (if package = "" then "OutlineIndex.java"
    else Naming.directory package ++ "/OutlineIndex.java")
  content? := some (indexContent registry package)

/-! ## The generator -/

/-- The name of the plugin in the head of an outline. -/
def pluginName : String := "protoc-gen-outline"

/-- The imports of an outline. -/
def imports : String := "import java.util.Arrays;\nimport java.util.List;"

/-- Take up the outcome of a computation without state. -/
def lift {α : Type} : Except Error α → Generating Unit α
  | .ok value => pure value
  | .error error => throw error

/-- The generator of outlines. -/
def generator (options : Options) : Generator Unit where
  pluginName := pure pluginName
  imports := pure imports
  companionClass := fun javaClass => pure (javaClass ++ options.suffix)
  skips := fun file => pure (options.skip.contains file.name)
  code := fun view descriptor => lift (some <$> code view.registry descriptor)
  extraFiles := fun view => pure
    (if options.index then [indexFile view.registry (view.sharedPackage?.getD "")] else [])

end ProtoCompanion.Outline
