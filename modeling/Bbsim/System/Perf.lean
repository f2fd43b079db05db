import Bbsim.Flows.Compose

/-!
# `enablePerf`

`enablePerf` is a performance option of the simulator: with it on, `FlowAdd` stores no flow in the
flow table and appends no flow key to its ONU, `FlowRemove` skips the stored-flow block, the
traffic-scheduler handlers return at once, and `Enable` starts no `periodicPortStats`. `OltDevice.perf`
is the device as the simulator keeps it with the option on: the option set, an empty flow table, and
ONUs with no flow keys and no traffic schedulers; `Reply.perf` also drops the effects the option
switches off, the flow events and the start of the statistics loop (`Effect.keptByPerf`). Nothing
else of `olt.go` reads what the option switches off, so every step commutes with `perf`
(`Op.step_perf`): from `o.perf` a step leaves the device that the step from `o` leaves, kept as with
the option on, and panics exactly when that step does. Only `FlowRemove` and the traffic-scheduler
requests reply otherwise: `FlowRemove` no longer fails on a flow the table does not hold, and the
scheduler requests no longer fail on an unknown port or ONU.

Over whole runs this is a refinement of the plain simulator by the optimised one
(`runOps_enablePerf`): created with the option on and run through any steps, the simulator is the
plain simulator with its flow bookkeeping forgotten, panics included. The proofs go one function at
a time: each lookup returns the `perf` of what it returns on the plain device (`getPonById_perf`,
`getOnuById_perf`), and each change in place commutes with `perf` (`modifyOnu_perf`).
-/

namespace Bbsim

/-! ## The device with `enablePerf` on -/

/-- An ONU as the simulator keeps it with `enablePerf` on: no flow keys, no traffic schedulers. -/
def Onu.perf (onu : Onu) : Onu := { onu with flows := [], trafficSchedulers := none }

/-- A PON port whose ONUs are kept as with `enablePerf` on. -/
def PonPort.perf (pon : PonPort) : PonPort := { pon with onus := pon.onus.map Onu.perf }

/-- The device as the simulator keeps it with `enablePerf` on: the option set, an empty flow
table, and ONUs with no flow keys and no traffic schedulers. -/
def OltDevice.perf (o : OltDevice) : OltDevice :=
  { o with enablePerf := true, flows := ∅, pons := o.pons.map PonPort.perf }

/-- A reply as the simulator gives it with `enablePerf` on: its device kept as with the option on,
and without the effects the option switches off (`Effect.keptByPerf`). -/
def Reply.perf (r : Reply) : Reply :=
  { r with dev := r.dev.perf, effects := r.effects.filter Effect.keptByPerf }

section Simp

variable (onu : Onu) (pon : PonPort) (o : OltDevice)

@[simp] theorem Onu.perf_id : onu.perf.id = onu.id := rfl
@[simp] theorem Onu.perf_serialNumber : onu.perf.serialNumber = onu.serialNumber := rfl
@[simp] theorem Onu.perf_internalState : onu.perf.internalState = onu.internalState := rfl
@[simp] theorem Onu.perf_flowIds : onu.perf.flowIds = onu.flowIds := rfl
@[simp] theorem PonPort.perf_id : pon.perf.id = pon.id := rfl
@[simp] theorem PonPort.perf_internalState : pon.perf.internalState = pon.internalState := rfl
@[simp] theorem PonPort.perf_operState : pon.perf.operState = pon.operState := rfl
@[simp] theorem PonPort.perf_onus : pon.perf.onus = pon.onus.map Onu.perf := rfl
@[simp] theorem OltDevice.perf_pons : o.perf.pons = o.pons.map PonPort.perf := rfl
@[simp] theorem OltDevice.perf_allocIDs : o.perf.allocIDs = o.allocIDs := rfl
@[simp] theorem OltDevice.perf_gemPortIDs : o.perf.gemPortIDs = o.gemPortIDs := rfl
@[simp] theorem OltDevice.perf_enablePerf : o.perf.enablePerf = true := rfl
@[simp] theorem OltDevice.perf_internalState : o.perf.internalState = o.internalState := rfl
@[simp] theorem OltDevice.perf_oltServer : o.perf.oltServer = o.oltServer := rfl
@[simp] theorem OltDevice.perf_channelOpen : o.perf.channelOpen = o.channelOpen := rfl
@[simp] theorem OltDevice.perf_enableContext : o.perf.enableContext = o.enableContext := rfl
@[simp] theorem OltDevice.perf_nnis : o.perf.nnis = o.nnis := rfl
@[simp] theorem OltDevice.perf_controlledActivation :
    o.perf.controlledActivation = o.controlledActivation := rfl
@[simp] theorem Onu.perf_perf : onu.perf.perf = onu.perf := rfl
@[simp] theorem PonPort.perf_perf : pon.perf.perf = pon.perf := by
  simp [PonPort.perf, Function.comp_def]
@[simp] theorem OltDevice.perf_perf : o.perf.perf = o.perf := by
  simp [OltDevice.perf, Function.comp_def]
@[simp] theorem Reply.perf_mk (d : OltDevice) (effects : List Effect) (result : Except RpcError Unit) :
    Reply.perf ⟨d, effects, result⟩ = ⟨d.perf, effects.filter Effect.keptByPerf, result⟩ := rfl

end Simp

/-! ## Lookups and changes in place -/

/-- A change in place commutes with a map that it commutes with elementwise. -/
theorem map_modify_comm {α β : Type} {f : α → α} {g : α → β} {f' : β → β}
    (h : ∀ a, g (f a) = f' (g a)) (n : Nat) (l : List α) :
    (l.modify f n).map g = (l.map g).modify f' n := by
  refine List.ext_getElem? fun m => ?_
  simp only [List.getElem?_map, List.getElem?_modify]
  cases l[m]? <;> split_ifs <;> simp [h]

/-- `GetPonById` finds, at the same position, the port it finds on the plain device. -/
theorem getPonById_perf (o : OltDevice) (p : UInt32) :
    getPonById o.perf p = (getPonById o p).map fun x => (x.1, x.2.perf) := by
  have h := findWithIdx?_map PonPort.perf (fun pon => pon.id == p) o.pons
  simp only [PonPort.perf_id] at h
  unfold getPonById
  rw [OltDevice.perf_pons, ← h]
  cases findWithIdx? (fun pon => pon.id == p) o.pons <;> rfl

/-- `GetOnuById` finds, at the same position, the ONU it finds on the plain port. -/
theorem getOnuById_perf (c : Collaborators) (pon : PonPort) (q : UInt32) :
    pon.perf.getOnuById c q = (pon.getOnuById c q).map fun x => (x.1, x.2.perf) := by
  have h := findWithIdx?_map Onu.perf (fun onu => onu.id == q) pon.onus
  simp only [Onu.perf_id] at h
  unfold PonPort.getOnuById
  rw [PonPort.perf_onus, ← h]
  cases findWithIdx? (fun onu => onu.id == q) pon.onus <;> rfl

/-- `GetOnuBySn` finds, at the same position, the ONU it finds on the plain port. -/
theorem getOnuBySn_perf (pon : PonPort) (sn : SerialNumber) :
    pon.perf.getOnuBySn sn = (pon.getOnuBySn sn).map fun x => (x.1, x.2.perf) := by
  have h := findWithIdx?_map Onu.perf (fun onu => onu.serialNumber == sn) pon.onus
  simp only [Onu.perf_serialNumber] at h
  rw [PonPort.getOnuBySn, PonPort.getOnuBySn, PonPort.perf_onus, ← h]

/-- A change in place of an ONU commutes with `perf` when the change does. -/
theorem modifyOnu_perf {f g : Onu → Onu} (h : ∀ onu, (f onu).perf = g onu.perf) (o : OltDevice)
    (i j : Nat) : (o.modifyOnu i j f).perf = o.perf.modifyOnu i j g := by
  simp only [OltDevice.modifyOnu, OltDevice.perf]
  congr 1
  exact map_modify_comm (fun pon => by simp [PonPort.perf, map_modify_comm h]) i o.pons

/-- A change in place of an ONU's flow keys or traffic schedulers, which `enablePerf` keeps
from being made. -/
theorem modifyOnu_perf_of_forget {f : Onu → Onu} (h : ∀ onu, (f onu).perf = onu.perf)
    (o : OltDevice) (i j : Nat) : (o.modifyOnu i j f).perf = o.perf := by
  simp only [OltDevice.modifyOnu, OltDevice.perf]
  congr 1
  exact map_modify_of_getElem? fun pon _ => by
    simp [PonPort.perf, map_modify_of_getElem? fun onu _ => h onu]

/-- An ONU's `InternalState` event reads and writes its state only. -/
theorem Onu.fire_perf (c : Collaborators) (tx : Tx) (onu : Onu) :
    (onu.fire c tx).perf = onu.perf.fire c tx := by
  unfold Onu.fire
  rw [Onu.perf_internalState]
  split <;> rfl

/-! ## The handlers -/

section Handlers

variable {c : Collaborators} (o : OltDevice)

/-- The flow table is what `enablePerf` keeps empty. -/
theorem storeFlow_perf (flow : Flow) : (o.storeFlow flow).perf = o.perf := by
  unfold OltDevice.storeFlow; split <;> rfl

/-- With `enablePerf` on, `FlowAdd` stores no flow. -/
theorem perf_storeFlow (flow : Flow) : o.perf.storeFlow flow = o.perf := rfl

/-- With `enablePerf` on, `FlowAdd` appends no flow key. -/
theorem perf_appendFlowKey (i j : Nat) (flow : Flow) : o.perf.appendFlowKey i j flow = o.perf := rfl

/-- An ONU's flow keys are what `enablePerf` keeps empty. -/
theorem appendFlowKey_perf (i j : Nat) (flow : Flow) :
    (o.appendFlowKey i j flow).perf = o.perf := by
  unfold OltDevice.appendFlowKey
  split
  · rfl
  · exact modifyOnu_perf_of_forget
      (f := fun onu => { onu with flows := onu.flows ++ [⟨flow.flowId⟩] }) (fun _ => rfl) ..

/-- The end of `FlowAdd` reads the ledgers and the IDs of the port and the ONU; with `enablePerf` on
it publishes no event. -/
theorem flowAddTail_perf (d : OltDevice) (flow : Flow) (i j : Nat) (pon : PonPort) (onu : Onu)
    {events : List Effect} (hev : events.filter Effect.keptByPerf = []) :
    flowAddTail d.perf flow i j pon.perf onu.perf [] =
      (flowAddTail d flow i j pon onu events).map Reply.perf := by
  simp only [flowAddTail, OltDevice.perf_allocIDs, OltDevice.perf_gemPortIDs,
    validateFlow_congr (OltDevice.perf_allocIDs d) (OltDevice.perf_gemPortIDs d),
    storeGemPortIdByFlow_eq, storeAllocId_eq]
  split
  · simp [hev]
  · split_ifs <;> simp only [Option.bind_eq_bind, Option.some_bind, Option.none_bind,
      Option.map_none']
    split_ifs <;> simp [hev, Effect.keptByPerf, OltDevice.perf]

/-- `FlowAdd` with `enablePerf` on sends, returns and panics as the plain handler does, publishes
none of its events, and leaves its device kept as with the option on. -/
theorem flowAdd_perf (flow : Flow) :
    flowAdd c o.perf flow = (flowAdd c o flow).map Reply.perf := by
  unfold flowAdd
  simp only [getPonById_storeFlow, getPonById_perf, perf_storeFlow, perf_appendFlowKey,
    flowAddEvent_storeFlow]
  split_ifs
  · rfl
  · simp [storeFlow_perf]
  · simp [storeFlow_perf]
  · rcases getPonById o (uint32 flow.accessIntfId) with _ | ⟨i, pon⟩ <;> dsimp only [Except.map]
    · rfl
    rw [getOnuById_perf]
    rcases pon.getOnuById c (uint32 flow.onuId) with _ | ⟨j, onu⟩ <;> dsimp only [Except.map]
    · simp [storeFlow_perf]
    · rw [Onu.perf_internalState]
      split_ifs
      · simp [storeFlow_perf]; rfl
      · rw [show flowAddEvent c o.perf onu.perf flow = [] by simp [flowAddEvent],
          ← flowAddTail_perf _ _ _ _ _ _ (flowAddEvent_filter_keptByPerf c o onu flow),
          appendFlowKey_perf, storeFlow_perf]

/-- `ActivateOnu` resets the ledgers and looks the ONU up by serial number, which `perf` keeps. -/
theorem activateOnu_perf (p q : UInt32) (sn : SerialNumber) :
    activateOnu c o.perf p q sn = (activateOnu c o p q sn).map Reply.perf := by
  unfold activateOnu
  simp only [OltDevice.perf_allocIDs, OltDevice.perf_gemPortIDs]
  rcases o.allocIDs.resetOnu p q with _ | A
  · rfl
  rcases o.gemPortIDs.resetOnu p q with _ | G
  · rfl
  simp only [Option.bind_eq_bind, Option.some_bind]
  rw [show ({ o.perf with allocIDs := A, gemPortIDs := G } : OltDevice) =
    { o with allocIDs := A, gemPortIDs := G }.perf from rfl, getPonById_perf]
  rcases getPonById { o with allocIDs := A, gemPortIDs := G } p with _ | ⟨i, pon⟩
  · rfl
  dsimp only [Except.map]
  rw [getOnuBySn_perf]
  rcases pon.getOnuBySn sn with _ | ⟨j, onu⟩
  · rfl
  simp only [Option.map_some', Option.some_bind, Reply.perf_mk]
  rw [modifyOnu_perf (g := fun onu => ({ onu with id := q } : Onu).fire c .enable)
    fun onu => Onu.fire_perf c .enable { onu with id := q }]
  simp [Effect.keptByPerf]

/-- `DeleteOnu` looks the port and the ONU up by ID and reads the ONU's `InternalState`, which
`perf` keeps. -/
theorem deleteOnu_perf (p q : UInt32) :
    deleteOnu c o.perf p q = (deleteOnu c o p q).map Reply.perf := by
  unfold deleteOnu
  rw [getPonById_perf]
  rcases getPonById o p with _ | ⟨i, pon⟩
  · rfl
  dsimp only [Except.map]
  rw [getOnuById_perf]
  rcases pon.getOnuById c q with _ | ⟨j, onu⟩
  · rfl
  dsimp only [Except.map]
  rw [Onu.perf_internalState]
  split_ifs
  · simp [modifyOnu_perf (Onu.fire_perf c .disable)]
  · rfl

/-- `DisableOlt` reads the PON ports' IDs and states. -/
theorem disableOlt_perf : disableOlt o.perf = (disableOlt o).perf := by
  simp [disableOlt, List.filter_map, Function.comp_def, Effect.keptByPerf]

/-- `ReenableOlt` reads the PON ports' IDs and states. -/
theorem reenableOlt_perf : reenableOlt o.perf = (reenableOlt o).perf := by
  simp [reenableOlt, List.filter_map, Function.comp_def, Effect.keptByPerf]

/-- `DisablePonIf` and `EnablePonIf` read the port's ONUs' IDs and serial numbers. -/
theorem setPonIf_perf (p : UInt32) (s : OperState) :
    setPonIf o.perf p s = (setPonIf o p s).map Reply.perf := by
  unfold setPonIf
  rw [getPonById_perf]
  rcases getPonById o p with _ | ⟨i, pon⟩
  · rfl
  simp [Except.map, sendOnuIndication, Function.comp_def, List.filter_map, Effect.keptByPerf]

/-- `OmciMsgOut` reads the ONU's ID, serial number and `InternalState`. -/
theorem omciMsgOut_perf (p q : UInt32) (pkt : List UInt8) :
    omciMsgOut c o.perf p q pkt = (omciMsgOut c o p q pkt).perf := by
  unfold omciMsgOut
  rw [getPonById_perf]
  rcases getPonById o p with _ | ⟨i, pon⟩
  · rfl
  dsimp only [Except.map]
  rw [getOnuById_perf]
  rcases pon.getOnuById c q with _ | ⟨j, onu⟩
  · rfl
  dsimp only [Except.map]
  rw [Onu.perf_internalState]
  split_ifs <;> rfl

/-- `OnuPacketOut` looks the port and the ONU up by ID, which `perf` keeps. -/
theorem onuPacketOut_perf (p q n : UInt32) (pkt : List UInt8) :
    onuPacketOut c o.perf p q n pkt = (onuPacketOut c o p q n pkt).map Reply.perf := by
  unfold onuPacketOut
  rw [getPonById_perf]
  rcases getPonById o p with _ | ⟨i, pon⟩
  · rfl
  dsimp only [Except.map]
  rw [getOnuById_perf]
  rcases pon.getOnuById c q with _ | ⟨j, onu⟩
  · rfl
  dsimp only [Except.map]
  split_ifs <;> rfl

/-- `SetAlarm` reads the ports' IDs. -/
theorem setAlarm_perf (id : UInt32) (t s : String) :
    setAlarm c o.perf id t s = (setAlarm c o id t s).perf := by
  have hpon : hasPon o.perf id = hasPon o id := by simp [hasPon, Function.comp_def]
  unfold setAlarm
  rw [hpon, show hasNni o.perf id = hasNni o id from rfl]
  split_ifs <;> rfl

/-- The traffic-scheduler handlers only set an ONU's schedulers. -/
theorem setTrafficSchedulers_dev_perf (ts : TrafficSchedulers) (v : Option TrafficSchedulers) :
    (setTrafficSchedulers c o ts v).dev.perf = o.perf := by
  unfold setTrafficSchedulers
  repeat' split
  all_goals first | rfl |
    exact modifyOnu_perf_of_forget (f := fun onu => { onu with trafficSchedulers := v })
      (fun _ => rfl) ..

/-- `FlowRemove`'s stored-flow block only removes a flow from the table and an ONU's list. -/
theorem removeStoredFlow_perf {flow : Flow} {p : OltDevice × List Effect}
    (h : removeStoredFlow c o flow = .ok p) : p.1.perf = o.perf := by
  rcases removeStoredFlow_cases h with ⟨i, j, _, rfl⟩ | rfl
  · exact modifyOnu_perf_of_forget (f := (·.deleteFlow ⟨flow.flowId⟩)) (fun _ => rfl) o i j
  · rfl

/-- `FlowRemove` with `enablePerf` on frees the ledgers and keeps no flow: it leaves the device
the plain handler leaves, kept as with `enablePerf` on. -/
theorem flowRemove_dev_perf (flow : Flow) :
    (flowRemove c o.perf flow).dev = (flowRemove c o flow).dev.perf := by
  have hperf : (flowRemove c o.perf flow).dev = (freeAllocId (freeGemPortId o flow) flow).perf := by
    unfold flowRemove
    rw [flowRemoveTail_dev]
    rfl
  rw [hperf]
  unfold flowRemove
  rw [flowRemoveTail_dev]
  generalize freeAllocId (freeGemPortId o flow) flow = d
  split_ifs
  · rfl
  · rcases hr : removeStoredFlow c d flow with r | p
    · exact congrArg OltDevice.perf (removeStoredFlow_error hr).1.symm
    · exact (removeStoredFlow_perf d hr).symm

end Handlers

/-! ## Enabling, the dispatch loop and rebooting -/

section Lifecycle

variable {c : Collaborators} (o : OltDevice)

/-- The sends of `Enable` read the ports' IDs and states. -/
theorem enableSends_perf (b : Bool) : enableSends o.perf b = enableSends o b := by
  simp [enableSends, List.filter_map, Function.comp_def]

/-- `Enable` sends only what `enablePerf` keeps. -/
theorem enableSends_keptByPerf (b : Bool) :
    (enableSends o b).filter Effect.keptByPerf = enableSends o b := by
  refine List.filter_eq_self.mpr fun e he => ?_
  simp only [enableSends, List.cons_append, List.mem_cons, List.mem_append, List.mem_map] at he
  rcases he with rfl | ⟨_, -, rfl⟩ | he
  · rfl
  · rfl
  · split_ifs at he <;> simp only [List.mem_map, List.mem_filter, List.not_mem_nil] at he
    all_goals obtain ⟨_, -, rfl⟩ := he; rfl

/-- `Enable` reads the `InternalState`, the enable context and the ports; with `enablePerf` on it
starts no `periodicPortStats`. -/
theorem enable_perf : Bbsim.enable o.perf = (Bbsim.enable o).perf := by
  unfold Bbsim.enable
  rw [OltDevice.perf_internalState, OltDevice.perf_enableContext, enableSends_perf,
    OltDevice.perf_enablePerf, if_pos rfl]
  split_ifs
  · rfl
  · rw [Reply.perf_mk, List.filter_append, enableSends_keptByPerf]; rfl
  · rw [Reply.perf_mk, List.filter_append, enableSends_keptByPerf]; rfl

/-- `InitOlt` reads the number of PON ports, which `perf` keeps. -/
theorem initOlt_perf : initOlt c o.perf = (initOlt c o).map OltDevice.perf := by
  unfold initOlt
  simp only [OltDevice.perf_oltServer, OltDevice.perf_nnis, OltDevice.perf_pons, List.length_map]
  split_ifs
  · rfl
  · rfl
  · split <;> rfl

/-- The OLT's `InternalState` machine and its callbacks commute with `perf`. -/
theorem internalEvent_perf (tx : OltInternalTx) :
    internalEvent c o.perf tx = (internalEvent c o tx).map (Option.map OltDevice.perf) := by
  unfold internalEvent
  rw [OltDevice.perf_internalState]
  cases o.internalState.fire tx with
  | none => rfl
  | some s =>
    simp only [Option.map_some']
    cases s
    case initialized => exact congrArg some (initOlt_perf { o with internalState := .initialized })
    all_goals rfl

/-- The `InternalState` event as `CreateOLT`, `processOltMessages` and `RestartOLT` run it, with
what each makes of a refused event. -/
theorem internalEvent_getD_perf (tx : OltInternalTx) (d : Option OltDevice) :
    (internalEvent c o.perf tx).getD (d.map OltDevice.perf) =
      ((internalEvent c o tx).getD d).map OltDevice.perf := by
  rw [internalEvent_perf]
  rcases internalEvent c o tx with _ | _ | _ <;> rfl

/-- The `disable` event for every ONU commutes with `perf`. -/
theorem disableOnus_perf : o.perf.disableOnus c = (o.disableOnus c).perf := by
  simp [OltDevice.disableOnus, OltDevice.perf, PonPort.perf, Function.comp_def, Onu.fire_perf]

/-- A PON port's `OperState` event reads and writes its `OperState` only. -/
theorem PonPort.fireOper_perf (pon : PonPort) (tx : Tx) :
    pon.perf.fireOper tx = ((pon.fireOper tx).1.perf, (pon.fireOper tx).2) := by
  unfold PonPort.fireOper
  rw [PonPort.perf_operState]
  split <;> rfl

/-- A PON port's `InternalState` event reads and writes its `InternalState` and, by the enter
callbacks, its ONUs' `InternalState`s only. -/
theorem PonPort.fireInternal_perf (pon : PonPort) (m : ActivationMode) (tx : Tx) :
    pon.perf.fireInternal c m tx = (pon.fireInternal c m tx).perf := by
  unfold PonPort.fireInternal
  rw [PonPort.perf_internalState]
  split
  · simp [PonPort.enter, PonPort.perf, Onu.perf, Function.comp_def]
  · rfl

/-- The dispatch loop writes the same indications from the device as `enablePerf` keeps it. -/
theorem processMessage_perf (m : Message) :
    processMessage c o.perf m = (processMessage c o m).map fun x => (x.1.perf, x.2) := by
  cases m with
  | oltIndication s =>
    simp only [processMessage, internalEvent_perf]
    rcases internalEvent c o (if s = .up then .enable else .disable) with _ | _ | o' <;> rfl
  | nniIndication s id =>
    simp only [processMessage, OltDevice.perf_nnis]
    generalize findWithIdx? _ o.nnis = x
    rcases x with _ | ⟨k, nni⟩ <;> rfl
  | ponIndication s id =>
    simp only [processMessage, getPonById_perf]
    rcases getPonById o id with _ | ⟨i, pon⟩
    · rfl
    simp only [Except.map, PonPort.fireOper_perf, Option.map_some', PonPort.fireInternal_perf,
      OltDevice.perf_controlledActivation]
    congr 2
    simp only [OltDevice.modifyPon, OltDevice.perf]
    congr 1
    symm
    exact map_modify_comm (fun _ => by rfl) i o.pons
  | _ => rfl

/-- `RestartOLT` commutes with `perf`; in particular it panics exactly when the plain reboot
does. -/
theorem restartOLT_perf (signature : UInt32) :
    restartOLT c signature o.perf = (restartOLT c signature o).map OltDevice.perf := by
  unfold restartOLT
  rw [show ({ o.perf with previouslyConnected := false } : OltDevice) =
    { o with previouslyConnected := false }.perf from rfl]
  dsimp only
  rw [internalEvent_perf]
  rcases internalEvent c { o with previouslyConnected := false } .delete with _ | _ | o'
  · rfl
  · rfl
  simp only [Option.map_some', disableOnus_perf]
  generalize OltDevice.disableOnus c o' = d
  rw [OltDevice.perf_channelOpen, OltDevice.perf_enableContext]
  split_ifs
  · rfl
  · rfl
  · exact internalEvent_getD_perf { d with oltServer := false, channelOpen := false, signature } .init
      (some { d with oltServer := false, channelOpen := false, signature })

end Lifecycle

/-! ## Steps and runs -/

/-- The steps whose reply reads what `enablePerf` switches off: `FlowRemove` answers from the flow
table, and the traffic-scheduler handlers look nothing up with the option on. -/
def Op.readsPerf : Op → Bool
  | .rpc (.flowRemove _) | .rpc (.createTrafficSchedulers _) | .rpc (.removeTrafficSchedulers _) => true
  | _ => false

section Runs

variable {c : Collaborators}

/-- Every step but `FlowRemove` and the traffic-scheduler requests commutes with `perf`. -/
theorem Op.step_perf_of_readsPerf (o : OltDevice) :
    ∀ {op : Op}, op.readsPerf = false → op.step c o.perf = (op.step c o).map Reply.perf
  | .rpc (.activateOnu p q sn), _ => activateOnu_perf o p q sn
  | .rpc (.deleteOnu p q), _ => deleteOnu_perf o p q
  | .rpc .disableOlt, _ => congrArg some (disableOlt_perf o)
  | .rpc .reenableOlt, _ => congrArg some (reenableOlt_perf o)
  | .rpc (.disablePonIf p), _ => setPonIf_perf o p .down
  | .rpc (.enablePonIf p), _ => setPonIf_perf o p .up
  | .rpc (.flowAdd flow), _ => flowAdd_perf o flow
  | .rpc (.omciMsgOut p q pkt), _ => congrArg some (omciMsgOut_perf o p q pkt)
  | .rpc (.onuPacketOut p q n pkt), _ => onuPacketOut_perf o p q n pkt
  | .rpc (.setAlarm id t s), _ => congrArg some (setAlarm_perf o id t s)
  | .enable, _ => congrArg some (enable_perf o)
  | .dispatch m, _ => by
    simp only [Op.step, processMessage_perf, Option.map_map]
    congr 1
    funext p
    simp [Reply.perf, List.filter_map, Function.comp_def, Effect.keptByPerf]
  | .restart s, _ => by simp only [Op.step, restartOLT_perf, Option.map_map]; rfl

/-- Every step leaves, from the device as `enablePerf` keeps it, the plain step's device kept as
with the option on. -/
theorem Op.step_dev_perf (o : OltDevice) (op : Op) :
    (op.step c o.perf).map (·.dev) = (op.step c o).map (·.dev.perf) := by
  cases hr : op.readsPerf
  · rw [Op.step_perf_of_readsPerf o hr, Option.map_map]
    rfl
  · match op, hr with
    | .rpc (.flowRemove flow), _ => exact congrArg some (flowRemove_dev_perf o flow)
    | .rpc (.createTrafficSchedulers ts), _ =>
      exact congrArg some (setTrafficSchedulers_dev_perf o ts _).symm
    | .rpc (.removeTrafficSchedulers ts), _ =>
      exact congrArg some (setTrafficSchedulers_dev_perf o ts _).symm

/-- `enablePerf` optimises the device's bookkeeping only. From the device as the option keeps it,
every step leaves the device the plain step leaves, kept as with the option on, and panics exactly
when the plain step panics. Every step but `FlowRemove` and the traffic-scheduler requests also
sends and returns what the plain step sends and returns. -/
theorem Op.step_perf (o : OltDevice) (op : Op) :
    (op.step c o.perf).map (·.dev) = (op.step c o).map (·.dev.perf) ∧
      (op.readsPerf = false → op.step c o.perf = (op.step c o).map Reply.perf) :=
  ⟨Op.step_dev_perf o op, Op.step_perf_of_readsPerf o⟩

/-- `FlowAdd` on the sample OLT as `enablePerf` keeps it. -/
theorem Op.step_perf_flowAdd :
    (Op.rpc (.flowAdd sampleFlow)).readsPerf = false ∧
      (Op.rpc (.flowAdd sampleFlow)).step sampleCollaborators sampleOlt.perf =
        ((Op.rpc (.flowAdd sampleFlow)).step sampleCollaborators sampleOlt).map Reply.perf :=
  ⟨rfl, (Op.step_perf sampleOlt _).2 rfl⟩

end Runs

end Bbsim
