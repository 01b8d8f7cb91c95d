import LiveConfig.Declaration.Basic
import LiveConfig.Environment
import LiveConfig.Locator

/-!
Resolution: locators from the templates of a declaration.

A template is expanded with the imports, the system properties and the variables.  Then a path that
begins at the home directory is completed, and a class path becomes a resource.
-/
namespace LiveConfig.Resolution

structure Setting (σ : Type) where
  environment : Environment
  imports : PropertyMap
  substitutors : SubstitutorRegistry σ

structure Resolved (σ α : Type) where
  result : Except ConfigError α
  log : List LogLine
  plugins : σ

def fileLead : List Char := "file:".toList

def classPathLead : List Char := "classpath:".toList

def resourceLead : List Char := "resource:".toList

def isSlash (c : Char) : Bool := c = '/' || c = '\\'

def expandHome (home : List Char) (cs : List Char) : List Char :=
  let home := Text.dropEndWhile isSlash home
  match (Text.afterLead? fileLead cs).getD cs with
  | ['~'] => fileLead ++ home
  | '~' :: '/' :: tail => fileLead ++ home ++ '/' :: tail
  | _ => cs

def mapClassPath (cs : List Char) : List Char :=
  let length := classPathLead.length
  if (cs.take length).map Char.toLower = classPathLead then
    resourceLead ++ (cs.drop length).dropWhile (· = '/')
  else cs

def complete (e : Environment) (expanded : String) : String :=
  let cs := Text.trim expanded.toList
  let cs :=
    match e.home? with
    | some home => expandHome home.toList cs
    | none => cs
  String.ofList (mapClassPath cs)

variable {σ : Type}

def Setting.expander (s : Setting σ) : Expander σ :=
  ⟨[s.imports, s.environment.system, s.environment.vars], s.substitutors⟩

def resolveOne (s : Setting σ) (template : String) (plugins : σ) : Resolved σ Locator :=
  let expanded := s.expander.expand template plugins
  ⟨Locator.parse (complete s.environment expanded.text), expanded.log, expanded.plugins⟩

def resolveAll (s : Setting σ) : List String → σ → Resolved σ (List Locator)
  | [], plugins => ⟨.ok [], [], plugins⟩
  | template :: rest, plugins =>
    let one := resolveOne s template plugins
    match one.result with
    | .error e => ⟨.error e, one.log, one.plugins⟩
    | .ok l =>
      let more := resolveAll s rest one.plugins
      ⟨more.result.map (l :: ·), one.log ++ more.log, more.plugins⟩

def defaultTemplate (name : String) : String :=
  let path := Text.replaceAll [':', ':'] ['/'] name.toList
  String.ofList (classPathLead ++ (path.map fun c => if c = '.' then '/' else c)
    ++ ".properties".toList)

def defaultLine (name template : String) : LogLine :=
  ⟨.debug, "no sources declared, using default locator",
    [("config", .text name), ("locator", .text template)]⟩

def resolve (s : Setting σ) (d : Declaration σ) (plugins : σ) : Resolved σ (List Locator) :=
  if d.sources.locators.isEmpty then
    let template := defaultTemplate d.name
    let all := resolveAll s [template] plugins
    { all with log := defaultLine d.name template :: all.log }
  else resolveAll s d.sources.locators plugins

end LiveConfig.Resolution
