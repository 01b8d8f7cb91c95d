import LiveConfig.Error

/-!
Substitutors: named functions that placeholders of the form `${name:argument}` call.

A substitutor may keep a state from call to call; `σ` is the state of all plugins together.
-/
namespace LiveConfig

structure Substitutor (σ : Type) where
  name : String
  apply : String → σ → String × σ

structure SubstitutorRegistry (σ : Type) where
  entries : List (Substitutor σ)

namespace SubstitutorRegistry

variable {σ : Type}

def empty : SubstitutorRegistry σ := ⟨[]⟩

def get? (r : SubstitutorRegistry σ) (name : String) : Option (Substitutor σ) :=
  r.entries.find? fun s => s.name = name

def names (r : SubstitutorRegistry σ) : List String := r.entries.map (·.name)

def isValidName (name : String) : Bool :=
  !name.isEmpty && name.toList.all fun c =>
    !(Text.isBlank c || c = ':' || c = '\x7b' || c = '\x7d')

def register (r : SubstitutorRegistry σ) (s : Substitutor σ) :
    Except DefinitionFault (SubstitutorRegistry σ) :=
  if !isValidName s.name then .error (.invalidSubstitutor s.name)
  else if (r.get? s.name).isSome then .error (.duplicateSubstitutor s.name)
  else .ok ⟨r.entries ++ [s]⟩

def ofList (substitutors : List (Substitutor σ)) :
    Except DefinitionFault (SubstitutorRegistry σ) :=
  substitutors.foldlM register empty

def listing (r : SubstitutorRegistry σ) : String := Text.listingOfList (r.names.map Text.quoted)

end SubstitutorRegistry
end LiveConfig
