import FlatMessage.Compiler.CompiledModel
import FlatMessage.Files.Tree

/-!
# Standalone documents

A schema document that imports nothing is compiled on its own: it is read, checked and
compiled with an empty registry.
-/

namespace FlatMessage.Compiler

open Files (Tree)
open Schema (Model)

/-- Compile the text of a document.  `identity` sets its containers apart from those of
other documents. -/
def compileText (identity space text : String) : Except CompileError CompiledModel :=
  match Model.parse identity text with
  | .error error => .error (.parse error)
  | .ok model =>
      match model.validate with
      | .error fault => .error (.load (.invalid fault))
      | .ok () => (compile ⟨space, .standalone⟩ model []).1

/-- Compile the document at a path. -/
def compileFile (tree : Tree) (space path : String) : Except CompileError CompiledModel :=
  match tree.readText path with
  | .error failure => .error (.files failure)
  | .ok text =>
      (compileText path space text).map fun model => { model with source := some path }

end FlatMessage.Compiler
