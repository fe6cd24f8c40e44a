import Transparency.Client.Basic
import Transparency.FileSystem

/-!
# Machines

What a run of the program works on: files, a network with a state of its own, the notes that were made, and whether
the last check failed.
-/

namespace Transparency

/-- What a run of the program works on. -/
structure Machine (ν : Type) where
  files : FileSystem
  network : ν
  /-- the last one first -/
  notes : List Note := []
  isFailing : Bool := false

namespace Machine

variable {ν : Type}

instance : Journal (Machine ν) where
  record entry machine := { machine with notes := entry :: machine.notes }

/-- Whether the last check failed, as a part of the machine. -/
def streak : Cell (Machine ν) Bool where
  get machine := machine.isFailing
  set isFailing machine := { machine with isFailing }
  get_set _ _ := rfl
  set_get _ := rfl

/-- A network as it works on the machine that it is a part of. -/
def transport (network : Transport ν) : Transport (Machine ν) := fun request machine =>
  let (result, network) := network request machine.network
  (result, { machine with network })

end Machine

end Transparency
