import Bbsim.Flows.Spec
import Bbsim.Devices.Lifecycle

/-!
# The device, one step at a time

A step of the device is a request run to its end, `Enable` up to its sends, the dispatch loop
handling one message, or a reboot run to its end; a run is `CreateOLT` followed by steps, none of
which panics. The dispatch loop may handle any message at any time: the states reached that way
include those of the simulator, so an invariant of them holds of it.

What a step does to the ledgers depends only on what it asks of them (`Op.ledgerAct`): nothing,
an ONU's reset, a flow to add, a flow ID to free, or a reboot. `Op.step_ledgers` says it once for
every step; the invariants of the ledgers are proved from it alone.
-/

namespace Bbsim

/-- A step of the device. -/
inductive Op
  | rpc (req : Rpc)
  | enable
  | dispatch (m : Message)
  | restart (signature : UInt32)

/-- The reply of a step; `none` is a panic or a `Fatal` exit. The indications the dispatch loop
writes are its effects. -/
def Op.step (c : Collaborators) (o : OltDevice) : Op → Option Reply
  | .rpc req => req.handle c o
  | .enable => some (Bbsim.enable o)
  | .dispatch m => (processMessage c o m).map fun p => ⟨p.1, p.2.map Effect.write, .ok ()⟩
  | .restart signature => (restartOLT c signature o).map fun o' => ⟨o', [], .ok ()⟩

/-- The states the device reaches from `CreateOLT` by steps that do not panic: the states between
two whole steps. A reboot is one step here; the states inside its window are `InRebootWindow`. -/
inductive Reachable (c : Collaborators) : OltDevice → Prop
  | create {cfg : GlobalConfig} {nni : Option NniPort} {signature : UInt32} {o : OltDevice} :
      createOLT c cfg nni signature = some o → Reachable c o
  | step {o : OltDevice} {op : Op} {r : Reply} : Reachable c o → op.step c o = some r →
      Reachable c r.dev

/-- The steps run one after another from a state; `none` when one of them panics. -/
def runOps (c : Collaborators) : OltDevice → List Op → Option OltDevice
  | o, [] => some o
  | o, op :: ops => (op.step c o).bind fun r => runOps c r.dev ops

theorem Reachable.runOps {c : Collaborators} {o o' : OltDevice} (h : Reachable c o) :
    ∀ {ops : List Op}, Bbsim.runOps c o ops = some o' → Reachable c o'
  | [], hr => by cases hr; exact h
  | op :: ops, hr => by
    obtain ⟨r, hs, hr⟩ := Option.bind_eq_some.mp hr
    exact (h.step hs).runOps hr

/-- The states of `RestartOLT`'s reboot window, which `Reachable` runs as one step. From the accepted
`delete` event until the server stops, the reboot disables the ONUs and sleeps a second "to give the
OLT the time to respond to all the pending gRPC request before stopping the server", so requests,
the channel's messages and `Enable` still run on the device that `clearAllResources` left. -/
inductive InRebootWindow (c : Collaborators) : OltDevice → Prop
  | delete {o o' : OltDevice} : Reachable c o →
      internalEvent c { o with previouslyConnected := false } .delete = some (some o') →
      InRebootWindow c o'
  | disableOnus {o : OltDevice} : InRebootWindow c o → InRebootWindow c (o.disableOnus c)
  | step {o : OltDevice} {op : Op} {r : Reply} : InRebootWindow c o → (∀ s, op ≠ .restart s) →
      op.step c o = some r → InRebootWindow c r.dev

/-! ## What a step asks of the ledgers -/

/-- What a step asks of the ledgers. -/
inductive LedgerAct
  | none
  | activate (p o : UInt32)
  | add (flow : Flow)
  | remove (flowId : UInt64)
  | reboot

/-- What a step asks of the ledgers. -/
def Op.ledgerAct : Op → LedgerAct
  | .rpc (.activateOnu intfId onuId _) => .activate intfId onuId
  | .rpc (.flowAdd flow) => .add flow
  | .rpc (.flowRemove flow) => .remove flow.flowId
  | .restart _ => .reboot
  | _ => .none

/-- The ledgers before and after a step, by what it asks of them: untouched; an ONU's maps reset;
the outcome of `FlowAdd`; a flow ID freed; or, for a reboot, cleared when the OLT can be deleted
and untouched otherwise. -/
def LedgerEffect (c : Collaborators) (o : OltDevice) (r : Reply) : LedgerAct → Prop
  | .none => r.dev.allocIDs = o.allocIDs ∧ r.dev.gemPortIDs = o.gemPortIDs
  | .activate p q =>
    o.allocIDs.resetOnu p q = some r.dev.allocIDs ∧ o.gemPortIDs.resetOnu p q = some r.dev.gemPortIDs
  | .add flow => flowAdd c o flow = some r
  | .remove fid =>
    r.dev.allocIDs = freeResource o.allocIDs fid ∧ r.dev.gemPortIDs = freeResource o.gemPortIDs fid
  | .reboot =>
    ((o.internalState.fire .delete).isSome ∧ r.dev.allocIDs.Clear ∧ r.dev.gemPortIDs.Clear) ∨
    (o.internalState.fire .delete = none ∧ r.dev.allocIDs = o.allocIDs ∧
      r.dev.gemPortIDs = o.gemPortIDs)

/-! ## The handlers and the ledgers -/

section Handlers

variable {c : Collaborators} {o : OltDevice} {r : Reply}

theorem activateOnu_ledgers {p q : UInt32} {sn : SerialNumber}
    (h : activateOnu c o p q sn = some r) :
    o.allocIDs.resetOnu p q = some r.dev.allocIDs ∧ o.gemPortIDs.resetOnu p q = some r.dev.gemPortIDs := by
  unfold activateOnu at h
  obtain ⟨A, hA, h⟩ := Option.bind_eq_some.mp h
  obtain ⟨G, hG, h⟩ := Option.bind_eq_some.mp h
  dsimp only at h
  split at h
  · cases h
  · obtain ⟨_, -, h⟩ := Option.bind_eq_some.mp h
    cases h
    exact ⟨hA, hG⟩

theorem deleteOnu_ledgers {p q : UInt32} (h : deleteOnu c o p q = some r) :
    r.dev.allocIDs = o.allocIDs ∧ r.dev.gemPortIDs = o.gemPortIDs := by
  unfold deleteOnu at h
  repeat' split at h
  all_goals cases h <;> exact ⟨rfl, rfl⟩

theorem setPonIf_ledgers {p : UInt32} {s : OperState} (h : setPonIf o p s = some r) :
    r.dev.allocIDs = o.allocIDs ∧ r.dev.gemPortIDs = o.gemPortIDs := by
  unfold setPonIf at h
  split at h
  · cases h
  · cases h; exact ⟨rfl, rfl⟩

theorem onuPacketOut_ledgers {p q n : UInt32} {pkt : List UInt8}
    (h : onuPacketOut c o p q n pkt = some r) :
    r.dev.allocIDs = o.allocIDs ∧ r.dev.gemPortIDs = o.gemPortIDs := by
  unfold onuPacketOut at h
  repeat' split at h
  all_goals cases h <;> exact ⟨rfl, rfl⟩

theorem omciMsgOut_ledgers (p q : UInt32) (pkt : List UInt8) :
    (omciMsgOut c o p q pkt).dev = o := by
  unfold omciMsgOut
  repeat' split
  all_goals rfl

theorem setTrafficSchedulers_ledgers (ts : TrafficSchedulers) (v : Option TrafficSchedulers) :
    (setTrafficSchedulers c o ts v).dev.allocIDs = o.allocIDs ∧
      (setTrafficSchedulers c o ts v).dev.gemPortIDs = o.gemPortIDs := by
  unfold setTrafficSchedulers
  repeat' split
  all_goals exact ⟨rfl, rfl⟩

theorem setAlarm_dev (id : UInt32) (t s : String) : (setAlarm c o id t s).dev = o := by
  unfold setAlarm
  split_ifs <;> rfl

end Handlers

/-! ## The lifecycle and the ledgers -/

section Lifecycle

variable {c : Collaborators} {o o' : OltDevice}

/-- The `enable` and `disable` events of `InternalState` have no callbacks: the state moves when
the machine allows it, and nothing else changes. -/
theorem internalEvent_getD {tx : OltInternalTx} (htx : tx = .enable ∨ tx = .disable) :
    (internalEvent c o tx).getD (some o) =
      some { o with internalState := (o.internalState.fire tx).getD o.internalState } := by
  rcases htx with rfl | rfl <;> rcases o with ⟨_, _ | _ | _ | _ | _⟩ <;> rfl

theorem processMessage_ledgers {m : Message} {inds : List Indication}
    (h : processMessage c o m = some (o', inds)) :
    o'.allocIDs = o.allocIDs ∧ o'.gemPortIDs = o.gemPortIDs := by
  cases m with
  | oltIndication s =>
    cases s <;> simp [processMessage, internalEvent_getD] at h <;> exact h.1 ▸ ⟨rfl, rfl⟩
  | nniIndication s id =>
    simp only [processMessage, Option.bind_eq_bind, Option.bind_eq_some, Option.some.injEq,
      Prod.mk.injEq] at h
    obtain ⟨_, -, h, -⟩ := h
    rw [← h]
    exact ⟨rfl, rfl⟩
  | ponIndication s id =>
    simp only [processMessage] at h
    split at h
    · cases h
    · cases h; exact ⟨rfl, rfl⟩
  | _ => cases h; exact ⟨rfl, rfl⟩

/-- `InitOlt` returns exactly when no server runs, `net.Listen` succeeds and there is an NNI port;
it then starts the server, opens the channel, sets the first NNI port down and makes the PON-level
maps of both ledgers. -/
theorem initOlt_cases (h : initOlt c o = some o') :
    o.oltServer = false ∧ c.listens = true ∧ ∃ nni nnis, o.nnis = nni :: nnis ∧
      o' = { o with
        oltServer := true, channelOpen := true, nnis := { nni with operState := .down } :: nnis,
        allocIDs := o.allocIDs.initPons o.pons.length,
        gemPortIDs := o.gemPortIDs.initPons o.pons.length } := by
  unfold initOlt at h
  split_ifs at h with hsrv hl
  split at h
  · cases h
  · cases h
    exact ⟨by simpa using hsrv, by simpa using hl, _, _, ‹_›, rfl⟩

theorem initOlt_ledgers (h : initOlt c o = some o') :
    o'.allocIDs = o.allocIDs.initPons o.pons.length ∧
      o'.gemPortIDs = o.gemPortIDs.initPons o.pons.length := by
  obtain ⟨-, -, _, _, -, rfl⟩ := initOlt_cases h
  exact ⟨rfl, rfl⟩

/-- The `initialize` event on a `created` device runs `InitOlt`. -/
theorem internalEvent_init_of_created (hs : o.internalState = .created) :
    (internalEvent c o .init).getD none = initOlt c { o with internalState := .initialized } := by
  simp only [internalEvent, hs, OltInternalState.fire, Option.map_some', enterInternal,
    Option.getD_some]

theorem fire_delete {s s' : OltInternalState} (h : s.fire .delete = some s') : s' = .deleted := by
  cases s <;> simp [OltInternalState.fire] at h <;> exact h.symm

/-- A reboot clears both ledgers when the OLT can be deleted, and otherwise returns at once. -/
theorem restartOLT_ledgers {signature : UInt32} (h : restartOLT c signature o = some o') :
    ((o.internalState.fire .delete).isSome ∧ o'.allocIDs.Clear ∧ o'.gemPortIDs.Clear) ∨
    (o.internalState.fire .delete = none ∧ o'.allocIDs = o.allocIDs ∧
      o'.gemPortIDs = o.gemPortIDs) := by
  unfold restartOLT internalEvent at h
  cases hs : o.internalState.fire .delete with
  | none =>
    simp only [hs, Option.map_none'] at h
    cases h
    exact .inr ⟨rfl, rfl, rfl⟩
  | some s =>
    cases fire_delete hs
    simp only [hs, Option.map_some', enterInternal, clearAllResources] at h
    refine .inl ⟨rfl, ?_⟩
    split_ifs at h
    simp only [OltInternalState.fire, Option.map_some', enterInternal, Option.getD_some] at h
    obtain ⟨hA, hG⟩ := initOlt_ledgers h
    rw [hA, hG]
    exact ⟨Ledger.clear_empty.initPons _, Ledger.clear_empty.initPons _⟩

/-- A round of the PON loop of `CreateOLT` that does not exit: the PON's configuration is found,
the PON-level maps of both ledgers are made, and the port is appended, `created` and down, with
`NumOnuPerPon` ONUs numbered from 1. -/
theorem createPon_cases {cfg : GlobalConfig} {i : Nat} (h : createPon c cfg o i = some o') :
    ∃ ponConf, cfg.ponConfig (UInt32.ofNat i) = some ponConf ∧
      o' = { o with
        allocIDs := o.allocIDs.set (UInt32.ofNat i) ∅,
        gemPortIDs := o.gemPortIDs.set (UInt32.ofNat i) ∅,
        pons := o.pons ++ [⟨UInt32.ofNat i, .created, .down,
          (List.range cfg.onusPonPort.toNat).map fun j =>
            createOnu c o.id (UInt32.ofNat i) (UInt32.ofNat (j + 1))⟩] } := by
  unfold createPon at h
  obtain ⟨ponConf, hc, h⟩ := Option.bind_eq_some.mp h
  split_ifs at h
  cases h
  exact ⟨ponConf, hc, rfl⟩

/-- A property that every round of `CreateOLT`'s PON loop keeps holds after the loop. -/
theorem foldlM_createPon {cfg : GlobalConfig} (P : OltDevice → Prop)
    (hP : ∀ {o o' : OltDevice} {i : Nat}, createPon c cfg o i = some o' → P o → P o') :
    ∀ (l : List Nat) {o o' : OltDevice}, l.foldlM (createPon c cfg) o = some o' → P o → P o'
  | [], _, _, h, ho => by cases h; exact ho
  | i :: l, _, _, h, ho => by
    obtain ⟨o₁, h₁, h⟩ := Option.bind_eq_some.mp h
    exact foldlM_createPon P hP l h (hP h₁ ho)

/-- The PON loop of `CreateOLT` appends, for each index `i` it runs over, the PON port `i`,
`created` and down, with `NumOnuPerPon` ONUs numbered from 1, and keeps every field but the ports
and the ledgers. -/
theorem foldlM_createPon_eq_some {cfg : GlobalConfig} :
    ∀ (l : List Nat) {o o' : OltDevice}, l.foldlM (createPon c cfg) o = some o' →
      o'.pons = o.pons ++ l.map (fun i => ⟨UInt32.ofNat i, .created, .down,
        (List.range cfg.onusPonPort.toNat).map fun j =>
          createOnu c o.id (UInt32.ofNat i) (UInt32.ofNat (j + 1))⟩) ∧
      o' = { o with pons := o'.pons, allocIDs := o'.allocIDs, gemPortIDs := o'.gemPortIDs }
  | [], _, _, h => by cases h; simp
  | i :: l, o, o', h => by
    obtain ⟨o₁, h₁, h⟩ := Option.bind_eq_some.mp h
    obtain ⟨_, -, rfl⟩ := createPon_cases h₁
    obtain ⟨hp, ho⟩ := foldlM_createPon_eq_some l h
    exact ⟨by simp [hp], ho⟩

/-- What a `CreateOLT` that returns has done: made its NNI port, run its PON loop on the new device
with that port, and run `InitOlt` on the device the loop left, which the `initialize` event moved
to `initialized`. -/
theorem createOLT_cases {cfg : GlobalConfig} {nni : Option NniPort} {signature : UInt32}
    (h : createOLT c cfg nni signature = some o) :
    ∃ nniPort o₁, nni = some nniPort ∧
      (List.range cfg.ponPorts.toNat).foldlM (createPon c cfg)
        { OltDevice.create cfg signature with nnis := [nniPort] } = some o₁ ∧
      initOlt c { o₁ with internalState := .initialized } = some o := by
  simp only [createOLT, Option.bind_eq_bind, Option.bind_eq_some] at h
  obtain ⟨nniPort, rfl, o₁, h₁, o₂, h₂, _, -, h⟩ := h
  cases h
  rw [internalEvent_init_of_created (by rw [(foldlM_createPon_eq_some _ h₁).2]; rfl)] at h₂
  exact ⟨nniPort, o₁, rfl, h₁, h₂⟩

/-- `CreateOLT` records no resource. -/
theorem createOLT_clear {cfg : GlobalConfig} {nni : Option NniPort} {signature : UInt32}
    (h : createOLT c cfg nni signature = some o) : o.allocIDs.Clear ∧ o.gemPortIDs.Clear := by
  obtain ⟨_, o₁, -, h₁, h⟩ := createOLT_cases h
  obtain ⟨hA, hG⟩ := foldlM_createPon (fun o => o.allocIDs.Clear ∧ o.gemPortIDs.Clear)
    (fun h ⟨hA, hG⟩ => by
      obtain ⟨_, -, rfl⟩ := createPon_cases h
      exact ⟨hA.set_empty _, hG.set_empty _⟩)
    _ h₁ ⟨Ledger.clear_empty, Ledger.clear_empty⟩
  obtain ⟨hA', hG'⟩ := initOlt_ledgers h
  rw [hA', hG']
  exact ⟨hA.initPons _, hG.initPons _⟩

/-- `Enable` makes the enable context unless the OLT is `deleted`; the rest it does are sends. -/
theorem enable_dev : (enable o).dev = if o.internalState = .deleted then o
    else { o with enableContext := true } := by
  unfold enable; split_ifs <;> rfl

/-- `CreateOLT` returns only when `net.Listen` succeeds. -/
theorem createOLT_listens {cfg : GlobalConfig} {nni : Option NniPort} {signature : UInt32}
    (h : createOLT c cfg nni signature = some o) : c.listens = true := by
  obtain ⟨_, _, -, -, h₁⟩ := createOLT_cases h
  exact (initOlt_cases h₁).2.1

end Lifecycle

/-- The simulator runs only where `net.Listen` succeeds. -/
theorem Reachable.listens {c : Collaborators} {o : OltDevice} (h : Reachable c o) :
    c.listens = true := by
  induction h with
  | create hc => exact createOLT_listens hc
  | step _ _ ih => exact ih

/-- What every step does to the ledgers, by what it asks of them. -/
theorem Op.step_ledgers {c : Collaborators} {o : OltDevice} {op : Op} {r : Reply}
    (h : op.step c o = some r) : LedgerEffect c o r op.ledgerAct := by
  cases op with
  | rpc req =>
    cases req with
    | activateOnu p q sn => exact activateOnu_ledgers h
    | deleteOnu p q => exact deleteOnu_ledgers h
    | disableOlt => cases h; exact ⟨rfl, rfl⟩
    | reenableOlt => cases h; exact ⟨rfl, rfl⟩
    | disablePonIf p => exact setPonIf_ledgers h
    | enablePonIf p => exact setPonIf_ledgers h
    | flowAdd f => exact h
    | flowRemove f => cases h; exact flowRemove_ledgers
    | omciMsgOut p q pkt =>
      cases h
      exact ⟨by rw [omciMsgOut_ledgers], by rw [omciMsgOut_ledgers]⟩
    | onuPacketOut p q n pkt => exact onuPacketOut_ledgers h
    | createTrafficSchedulers ts => cases h; exact setTrafficSchedulers_ledgers ts _
    | removeTrafficSchedulers ts => cases h; exact setTrafficSchedulers_ledgers ts _
    | setAlarm id t s =>
      cases h
      exact ⟨by rw [setAlarm_dev], by rw [setAlarm_dev]⟩
  | enable =>
    cases h
    unfold Bbsim.enable
    split_ifs <;> exact ⟨rfl, rfl⟩
  | dispatch m =>
    obtain ⟨⟨o', inds⟩, hp, rfl⟩ := Option.map_eq_some'.mp h
    exact processMessage_ledgers hp
  | restart signature =>
    obtain ⟨o', hr, rfl⟩ := Option.map_eq_some'.mp h
    exact restartOLT_ledgers hr

/-- The induction over runs that every invariant of the ledgers uses: a property of the two ledgers
that clear ledgers have, and that an ONU's reset, a `FlowAdd` and a `free` keep, holds in every
reachable state. -/
theorem Reachable.ledgers {c : Collaborators} (P : Ledger → Ledger → Prop)
    (clear : ∀ {A G : Ledger}, A.Clear → G.Clear → P A G)
    (activate : ∀ {A G A' G' : Ledger} {p q : UInt32}, P A G → A.resetOnu p q = some A' →
      G.resetOnu p q = some G' → P A' G')
    (add : ∀ {o : OltDevice} {f : Flow} {r : Reply}, P o.allocIDs o.gemPortIDs →
      flowAdd c o f = some r → P r.dev.allocIDs r.dev.gemPortIDs)
    (remove : ∀ {A G : Ledger} (fid : UInt64), P A G → P (freeResource A fid) (freeResource G fid))
    {o : OltDevice} (h : Reachable c o) : P o.allocIDs o.gemPortIDs := by
  induction h with
  | create hc => exact clear (createOLT_clear hc).1 (createOLT_clear hc).2
  | @step o op r _ hs ih =>
    have he := Op.step_ledgers hs
    generalize op.ledgerAct = a at he
    cases a with
    | none => exact he.1 ▸ he.2 ▸ ih
    | activate p q => exact activate ih he.1 he.2
    | add f => exact add ih he
    | remove fid => exact he.1 ▸ he.2 ▸ remove fid ih
    | reboot =>
      rcases he with ⟨-, hA, hG⟩ | ⟨-, hA, hG⟩
      · exact clear hA hG
      · exact hA ▸ hG ▸ ih

/-! ## A sample configuration -/

/-- One PON port with one ONU, whose ONU range holds IDs 1 to 64; `enablePerf` off. -/
def sampleConfig : GlobalConfig where
  id := 0
  ponPorts := 1
  onusPonPort := 1
  enablePerf := false
  controlledActivation := some .default
  ponConfig _ := some ⟨⟨1, 64⟩⟩

/-- The simulator right after `CreateOLT` of the sample configuration. -/
def createdOlt : Option OltDevice := createOLT sampleCollaborators sampleConfig (some ⟨0, .up⟩) 0

/-- The sample configuration with two ONUs, IDs 1 and 2, on its PON port. -/
def twoOnuConfig : GlobalConfig := { sampleConfig with onusPonPort := 2 }

/-- The simulator after `CreateOLT` of `twoOnuConfig` and `ActivateOnu` of both ONUs. -/
def twoOnuOlt : Option OltDevice :=
  (createOLT sampleCollaborators twoOnuConfig (some ⟨0, .up⟩) 0).bind fun o =>
    runOps sampleCollaborators o [.rpc (.activateOnu 0 1 ⟨"BBSM", [0, 1]⟩),
      .rpc (.activateOnu 0 2 ⟨"BBSM", [0, 2]⟩)]

theorem reachable_twoOnuOlt {o : OltDevice} (h : twoOnuOlt = some o) :
    Reachable sampleCollaborators o :=
  have ⟨_, h₀, h⟩ := Option.bind_eq_some.mp h
  (Reachable.create h₀).runOps h

end Bbsim
