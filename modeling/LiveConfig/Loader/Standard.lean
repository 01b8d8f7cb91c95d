import LiveConfig.Loader.File
import LiveConfig.Loader.Memory
import LiveConfig.Loader.Selection

/-!
The loaders that a configuration has unless it is told otherwise: for files, variables and system
properties, with whole names and without secrets in the log.
-/
namespace LiveConfig

def LoaderChain.standard {π : Type} : LoaderChain π :=
  ⟨[FileLoader.loader none, Selection.ofVariables false false, Selection.ofSystem false]⟩

end LiveConfig
