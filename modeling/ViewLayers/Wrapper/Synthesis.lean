import ViewLayers.FileTree.Resolve
import ViewLayers.Script.Exports
import ViewLayers.Wrapper.Assembly
import ViewLayers.Wrapper.Printer

/-!
The text of a component's wrapper, from the files that its component names.
-/

namespace ViewLayers

/-- The names that a file exports; a file that cannot be read exports none. -/
def FileTree.exportsOf (t : FileTree) (file : Path) : List String :=
  match t.read? file with
  | some text => Script.exportNames (Script.Dialect.ofExtension file.extension?) text
  | none => []

/-- The wrapper of a component in a project, under a prefix. -/
def Component.wrapper (c : Component) (t : FileTree) (root : Path) (o : Options)
    (p : HygienePrefix) : String :=
  (Wrapper.Source.module ⟨c, root, o, t.exportsOf⟩).text p

end ViewLayers
