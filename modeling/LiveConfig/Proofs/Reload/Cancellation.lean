import LiveConfig.Proofs.Reload.Coalescing

/-!
Stopping the timer is final, but for a tick that is taken late.

Cancelling disturbs nothing but the timer: requests do not look at it, and a timer that waits for its
reload neither.  When the timer waits for a tick again, it stops.  It looks for its two signals in any
order, though, so a tick that fell due before (while its last reload went on, for example) may still be
taken for one more reload.  Once the configuration is dropped, such a tick leads to nothing.
-/
namespace LiveConfig

variable {L π : Type}

namespace ReloadState

end ReloadState

namespace Config

variable {c d next : Config L π} {m : Move L π} {moves : List (Move L π)} {id : Nat}

def ending : List (Move (String × Bool) Unit) := [.step 0, .step 0, .tick []]

private def trigger? (c : Config (String × Bool) Unit) (id : Nat) : Option Trigger :=
  (c.phase? id).bind Phase.trigger?

end Config
end LiveConfig
