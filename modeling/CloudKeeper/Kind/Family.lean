import CloudKeeper.Kind.FloatingIp
import CloudKeeper.Kind.VirtualMachine
import CloudKeeper.Kind.Volume
/-!
One thing for each kind of resource: a store, a service, a scheduler.
-/
namespace CloudKeeper

/-- One thing for each kind. -/
structure Family (F : Type → Type) where
  volumes : F VolumeSpec
  floatingIps : F FloatingIpSpec
  virtualMachines : F VirtualMachineSpec

namespace Family

variable {F G : Type → Type} {α : Type}

/-- The things made of the things of a family. -/
def map (f : {S : Type} → [Spec S] → F S → G S) (k : Family F) : Family G :=
  ⟨f k.volumes, f k.floatingIps, f k.virtualMachines⟩

/-- A value for each kind, with the kind's name. -/
def named (f : {S : Type} → [Spec S] → F S → α) (k : Family F) : List (String × α) :=
  [(Volume.kindName, f k.volumes), (FloatingIp.kindName, f k.floatingIps),
    (VirtualMachine.kindName, f k.virtualMachines)]

/-- The family with the thing of one kind changed, and what that gives; nothing for a name that is no
kind's. -/
def update? (kind : String) (f : {S : Type} → [Spec S] → F S → F S × α) (k : Family F) :
    Option (Family F × α) :=
  if kind = Volume.kindName then
    let (x, a) := f k.volumes
    some ({ k with volumes := x }, a)
  else if kind = FloatingIp.kindName then
    let (x, a) := f k.floatingIps
    some ({ k with floatingIps := x }, a)
  else if kind = VirtualMachine.kindName then
    let (x, a) := f k.virtualMachines
    some ({ k with virtualMachines := x }, a)
  else none

end Family

/-- The services of all kinds, for a deployment. -/
def services (deployment : String) : Family Service :=
  ⟨Volume.service deployment, FloatingIp.service, VirtualMachine.service⟩

end CloudKeeper
