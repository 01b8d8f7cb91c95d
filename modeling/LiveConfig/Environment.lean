import LiveConfig.TextMap
import LiveConfig.Text.Raw

/-!
The environment of a resolution: variables of the process and system properties, taken together at one
time so that a pass sees one state of both.
-/
namespace LiveConfig

structure Environment where
  vars : TextMap String
  system : TextMap String
  deriving DecidableEq

namespace Environment

def empty : Environment := ⟨.empty, .empty⟩

def var? (e : Environment) (key : String) : Option String := e.vars.get? key

def systemProperty? (e : Environment) (key : String) : Option String := e.system.get? key

def home? (e : Environment) : Option String :=
  let found := (e.systemProperty? "user.home").or ((e.var? "HOME").or (e.var? "USERPROFILE"))
  found.filter fun home => !home.isEmpty

structure Process where
  vars : TextMap Text.Raw
  directory : String
  architecture : String
  deriving DecidableEq

def textVars (p : Process) : TextMap String :=
  TextMap.ofList (p.vars.entries.filterMap fun (k, v) => v.text?.map (k, ·))

def systemProperties (p : Process) : TextMap String :=
  let var? (key : String) : Option String := (textVars p).get? key
  let found := [
    ("user.home", (var? "HOME").or (var? "USERPROFILE")),
    ("user.name", (var? "USER").or (var? "USERNAME")),
    ("user.dir", some p.directory),
    ("tmp.dir", some (((p.vars.get? "TMPDIR").map Text.Raw.lossyText).getD "/tmp")),
    ("os.name", some "linux"),
    ("os.arch", some p.architecture),
    ("file.separator", some "/"),
    ("path.separator", some ":"),
    ("line.separator", some "\n")]
  TextMap.ofList (found.filterMap fun (key, value) => value.map (key, ·))

def capture (p : Process) : Environment := ⟨textVars p, systemProperties p⟩

end Environment
end LiveConfig
