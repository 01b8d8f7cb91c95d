import LiveConfig.Loader.Basic
import LiveConfig.Text.Case
import LiveConfig.Text.Cut

/-!
Selections: the variables or system properties whose names begin alike.

The path of the locator is the beginning to look for, and `*` selects all.  Names may be taken without
the beginning; a name of which nothing is left is not taken.  Each entry is logged, and the log leaves
out the values of names that look like secrets, unless it is told to show them.
-/
namespace LiveConfig.Selection

def everything : String := "*"

def leadOf (path : String) : String := if path = everything then "" else path

def entriesWhile (lead : String) (strip : Bool) : List (String × String) → List (String × String)
  | [] => []
  | (name, value) :: rest =>
    match Text.afterLead? lead.toList name.toList with
    | none => []
    | some ending =>
      let key := if strip then String.ofList ending else name
      if key.isEmpty then entriesWhile lead strip rest
      else (key, value) :: entriesWhile lead strip rest

def entries (source : TextMap String) (lead : String) (strip : Bool) : List (String × String) :=
  -- Names with the same beginning are neighbours, and the beginning itself is the least of them.
  entriesWhile lead strip (source.entries.dropWhile fun e => e.1 < lead)

def secretMarks : List String :=
  ["password", "secret", "token", "api_key", "private", "credential"]

def isSecret (key : String) : Bool :=
  let letters := key.toList.flatMap Text.lower
  secretMarks.any fun mark => Text.occursIn mark.toList letters

def logLine (showSecrets : Bool) (key value : String) : LogLine :=
  if isSecret key && !showSecrets then
    ⟨.trace, "loading env property = [REDACTED]", [("key", .text key)]⟩
  else ⟨.trace, "loading env property", [("key", .text key), ("value", .text value)]⟩

def loadFrom {π : Type} (source : TextMap String) (path : String) (strip showSecrets : Bool) :
    Load π :=
  let found := entries source (leadOf path) strip
  ⟨[], fun _ plugins =>
    ⟨.ok (TextMap.ofList found), found.map fun (key, value) => logLine showSecrets key value, plugins⟩⟩

def ofVariables {π : Type} (strip showSecrets : Bool) : Loader π where
  accepts l := l.scheme = .env
  load cx l := loadFrom cx.environment.vars l.path strip showSecrets

def ofSystem {π : Type} (strip : Bool) : Loader π where
  accepts l := l.scheme = .system
  load cx l := loadFrom cx.environment.system l.path strip true

end LiveConfig.Selection
