import FusionAccess.Controller.Provisioning

/-!
# The admission webhook

`FileSystemClaimValidator` decides about updates of claims before they are
stored. It looks at nothing but the two versions of the claim.
-/

namespace FusionAccess

open Kubernetes

/-- `ValidateUpdate`: the devices may change as long as the first condition
about the LocalDisks is missing or not true. -/
def validateUpdate (oldFSC newFSC : FileSystemClaim) : Except Failure Unit :=
  if oldFSC.devices = newFSC.devices then .ok ()
  else
    match findStatusCondition oldFSC.conditions .localDiskCreated with
    | none => .ok ()
    | some localDiskCreatedCond =>
        if localDiskCreatedCond.status ≠ .isTrue then .ok ()
        else
          let timestamp := formatTime localDiskCreatedCond.lastTransitionTime
          .error (errorf
            ("spec.devices cannot be modified after LocalDisks are successfully created. " ++
              s!"Current devices: {printSlice oldFSC.devices}. " ++
              s!"LocalDisks were created at {timestamp}. " ++
              "To use different devices, delete this FileSystemClaim and create a new one."))

end FusionAccess
