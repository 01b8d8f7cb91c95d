/-!
Turns: what a session does at one time, one thing or several side by side.

Turns can be nested.  `Turn.traverse` visits what is in a turn from left to right and keeps its shape,
so the answers of a turn stand where its steps stood.
-/
namespace LiveConfig.Session

inductive Turn (α : Type) where
  | single (a : α)
  | together (turns : List (Turn α))

namespace Turn

variable {α β : Type}

instance : Inhabited (Turn α) := ⟨.together []⟩

mutual
def toList : Turn α → List α
  | .single a => [a]
  | .together turns => allOf turns

def allOf : List (Turn α) → List α
  | [] => []
  | turn :: rest => turn.toList ++ allOf rest
end

mutual
def traverse {m : Type → Type} [Monad m] (f : α → m β) : Turn α → m (Turn β)
  | .single a => return .single (← f a)
  | .together turns => return .together (← traverseAll f turns)

def traverseAll {m : Type → Type} [Monad m] (f : α → m β) : List (Turn α) → m (List (Turn β))
  | [] => return []
  | turn :: rest => do
    let first ← traverse f turn
    return first :: (← traverseAll f rest)
end

def map (f : α → β) (turn : Turn α) : Turn β := (turn.traverse fun a => (pure (f a) : Id β)).run

end Turn
end LiveConfig.Session
