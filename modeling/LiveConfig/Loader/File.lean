import LiveConfig.Document.Format
import LiveConfig.Loader.Basic

/-!
The file loader: properties from files of the supported formats.

A file locator names a path, below a base directory if there is one and the path is relative.  A
resource locator names the first file of that path in the resource roots.  The extension decides the
format before any file is looked at.
-/
namespace LiveConfig.FileLoader

def pathOf (base : Option String) (roots : List String) (files : FileTree) (l : Locator) :
    Except SourceFault String :=
  match l.scheme with
  | .file => .ok (match base with
    | some directory => FileTree.join directory l.path
    | none => l.path)
  | .resource =>
    match (roots.map fun root => FileTree.join root l.path).find? files.isFile with
    | some path => .ok path
    | none => .error .notInRoots
  | other => .error (.notFileBased other.name)

def loadFrom (base : Option String) (roots : List String) (files : FileTree) (l : Locator) :
    Except SourceFault PropertyMap := do
  let extension := l.extension?
  match FileFormat.ofExtension? extension with
  | none => throw (.unsupportedFormat (extension.getD ""))
  | some format =>
    let path ← pathOf base roots files l
    match files.read path with
    | .error fault => throw (.unreadable path fault)
    | .ok content =>
      match format.read? content with
      | some m => return m
      | none => throw (.malformed format.notationNames.1 format.notationNames.2)

def accepts (l : Locator) : Bool := l.scheme = .file || l.scheme = .resource

def pauses {π : Type} (l : Locator) : List (Pause π) :=
  if (FileFormat.ofExtension? l.extension?).isSome then [⟨id, some 0⟩] else []

def loader {π : Type} (base : Option String) : Loader π where
  accepts := accepts
  load cx l :=
    let result (outside : Outside) : Except ConfigError PropertyMap :=
      (loadFrom base cx.roots outside.files l).mapError (.sourceUnavailable l.text)
    { Load.ofResult result with pauses := pauses l }

end LiveConfig.FileLoader
