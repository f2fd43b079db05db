import Bbsim.Lifecycle.Spec
import Bbsim.System.Ledgers

/-!
# What holds between any two steps

Every state the device reaches from `CreateOLT` is `OltDevice.Settled` (`reachable_settled`). Its
PON ports are numbered by their positions, and it has an NNI port. Its `InternalState` rests in
`initialized`, `enabled` or `disabled`, with the gRPC server started and the channel open. Both
ledgers have a PON-level map for exactly the OLT's PON ports.

The proof goes one step at a time. A request never changes the ports (each PON port's ID and number
of ONUs, each NNI port's ID), the `InternalState`, the server or the channel (`Frame`,
`Rpc.handle_frame`). The dispatch loop moves only the `InternalState`, and only by `enable` or
`disable` (`processMessage_frame`). A reboot either returns at once or ends `initialized` with fresh
PON-level maps (`restartOLT_cases`). The ledgers' PON-level maps follow from what each step asks of
them (`LedgerEffect.pons`).

Over a whole run from `CreateOLT`, the ports are those of its configuration, so `GetPonById` finds a
port exactly for an ID below `NumPon` (`runOps_keeps_ports`). In a reachable state the resets that
begin `ActivateOnu` never panic (`activateOnu_eq_none_iff`). A reboot panics exactly when `Enable`
has never made the context it cancels, and it keeps the flow table while it empties the ledgers
(`restartOLT_reachable`). A reachable state is one between whole steps, and a reboot is one step;
in its window, where the requests still pending run on the cleared ledgers, `ActivateOnu` panics
whatever its port (`activateOnu_in_reboot_window`).
-/

namespace Bbsim

/-! ## The ports and the frame of a request -/

/-- Changing one element of a list in place keeps what `g` reads of the list when it keeps what `g`
reads of that element. -/
theorem map_modify_of_getElem? {α β : Type} {f : α → α} {g : α → β} {n : Nat} {l : List α}
    (h : ∀ a, l[n]? = some a → g (f a) = g a) : (l.modify f n).map g = l.map g := by
  refine List.ext_getElem? fun m => ?_
  rw [List.getElem?_map, List.getElem?_map, List.getElem?_modify]
  by_cases hnm : n = m
  · subst hnm
    cases hl : l[n]? with
    | none => rfl
    | some a => simp [h a hl]
  · simp [hnm]

/-- Replacing an element by one that `g` reads the same keeps what `g` reads of the list. -/
theorem map_set_of_getElem? {α β : Type} {g : α → β} {n : Nat} {l : List α} {a b : α}
    (h : l[n]? = some a) (hg : g b = g a) : (l.set n b).map g = l.map g := by
  refine List.ext_getElem? fun m => ?_
  rw [List.getElem?_map, List.getElem?_map, List.getElem?_set]
  by_cases hnm : n = m
  · subst hnm
    simp [h, hg, (List.getElem?_eq_some_iff.mp h).1]
  · simp [hnm]

/-- The ports of the device, which no step adds, removes or renumbers: each PON port's ID with the
number of its ONUs, and each NNI port's ID. -/
def OltDevice.ports (o : OltDevice) : List (UInt32 × Nat) × List UInt32 :=
  (o.pons.map fun pon => (pon.id, pon.onus.length), o.nnis.map (·.id))

/-- A change in place of an ONU keeps the ports. -/
@[simp] theorem ports_modifyOnu (o : OltDevice) (i j : Nat) (f : Onu → Onu) :
    (o.modifyOnu i j f).ports = o.ports := by
  simp only [OltDevice.ports, OltDevice.modifyOnu, Prod.mk.injEq, and_true]
  exact map_modify_of_getElem? fun _ _ => by simp

/-- What a request leaves of the device: its ports, the state of its `InternalState` machine, its
gRPC server and its channel. -/
structure Frame (o o' : OltDevice) : Prop where
  ports : o'.ports = o.ports
  internalState : o'.internalState = o.internalState
  oltServer : o'.oltServer = o.oltServer
  channelOpen : o'.channelOpen = o.channelOpen

theorem Frame.refl (o : OltDevice) : Frame o o := ⟨rfl, rfl, rfl, rfl⟩

theorem Frame.trans {o₁ o₂ o₃ : OltDevice} (h₁ : Frame o₁ o₂) (h₂ : Frame o₂ o₃) : Frame o₁ o₃ :=
  ⟨h₂.1.trans h₁.1, h₂.2.trans h₁.2, h₂.3.trans h₁.3, h₂.4.trans h₁.4⟩

theorem Frame.modifyOnu (o : OltDevice) (i j : Nat) (f : Onu → Onu) : Frame o (o.modifyOnu i j f) :=
  ⟨ports_modifyOnu o i j f, rfl, rfl, rfl⟩

section Handlers

variable {c : Collaborators} {o : OltDevice} {r : Reply}

theorem Frame.storeFlow (flow : Flow) : Frame o (o.storeFlow flow) := by
  unfold OltDevice.storeFlow; split
  exacts [Frame.refl o, ⟨rfl, rfl, rfl, rfl⟩]

theorem Frame.appendFlowKey (i j : Nat) (flow : Flow) : Frame o (o.appendFlowKey i j flow) := by
  unfold OltDevice.appendFlowKey; split
  exacts [Frame.refl o, Frame.modifyOnu o i j _]

theorem activateOnu_frame {p q : UInt32} {sn : SerialNumber} (h : activateOnu c o p q sn = some r) :
    Frame o r.dev := by
  unfold activateOnu at h
  obtain ⟨A, -, h⟩ := Option.bind_eq_some.mp h
  obtain ⟨G, -, h⟩ := Option.bind_eq_some.mp h
  dsimp only at h
  split at h
  · cases h
  · obtain ⟨_, -, h⟩ := Option.bind_eq_some.mp h
    cases h
    exact ⟨ports_modifyOnu _ _ _ _, rfl, rfl, rfl⟩

/-- `FlowAdd` stores the flow, appends its key to the ONU's list and fills the ledgers: none of these
touches the frame. -/
theorem flowAdd_frame {flow : Flow} (h : flowAdd c o flow = some r) : Frame o r.dev := by
  rcases flowAdd_cases h with ⟨-, rfl⟩ |
    ⟨-, -, i, pon, -, ⟨e, -, rfl⟩ | ⟨j, onu, -, ⟨-, rfl⟩ | ⟨-, ht⟩⟩⟩
  · exact Frame.storeFlow flow
  · exact Frame.storeFlow flow
  · exact Frame.storeFlow flow
  · have hk := (Frame.storeFlow (o := o) flow).trans (Frame.appendFlowKey i j flow)
    rcases flowAddTail_cases ht with ⟨e, -, rfl⟩ | ⟨-, -, -, rfl⟩
    exacts [hk, hk.trans ⟨rfl, rfl, rfl, rfl⟩]

theorem removeStoredFlow_frame {flow : Flow} {p : OltDevice × List Effect}
    (h : removeStoredFlow c o flow = .ok p) : Frame o p.1 := by
  rcases removeStoredFlow_cases h with ⟨i, j, onu, rfl⟩ | rfl
  exacts [⟨ports_modifyOnu _ _ _ _, rfl, rfl, rfl⟩, ⟨rfl, rfl, rfl, rfl⟩]

theorem flowRemove_frame (flow : Flow) : Frame o (flowRemove c o flow).dev := by
  unfold flowRemove
  rw [flowRemoveTail_dev]
  split
  · rename_i r hr
    split_ifs at hr
    rw [(removeStoredFlow_error hr).1]
    exact ⟨rfl, rfl, rfl, rfl⟩
  · rename_i p hp
    split_ifs at hp
    · cases hp; exact ⟨rfl, rfl, rfl, rfl⟩
    · exact (⟨rfl, rfl, rfl, rfl⟩ : Frame o (freeAllocId (freeGemPortId o flow) flow)).trans
        (removeStoredFlow_frame hp)

theorem deleteOnu_frame {p q : UInt32} (h : deleteOnu c o p q = some r) : Frame o r.dev := by
  unfold deleteOnu at h
  repeat' split at h
  all_goals cases h
  exacts [Frame.modifyOnu o _ _ _, Frame.refl o]

theorem setPonIf_frame {p : UInt32} {s : OperState} (h : setPonIf o p s = some r) : Frame o r.dev := by
  unfold setPonIf at h
  split at h <;> cases h
  exact Frame.refl o

theorem onuPacketOut_frame {p q n : UInt32} {pkt : List UInt8}
    (h : onuPacketOut c o p q n pkt = some r) : Frame o r.dev := by
  unfold onuPacketOut at h
  repeat' split at h
  all_goals cases h
  all_goals exact Frame.refl o

theorem setTrafficSchedulers_frame (ts : TrafficSchedulers) (v : Option TrafficSchedulers) :
    Frame o (setTrafficSchedulers c o ts v).dev := by
  unfold setTrafficSchedulers
  repeat' split
  exacts [Frame.refl o, Frame.refl o, Frame.refl o, Frame.modifyOnu o _ _ _]

/-- No request changes the ports, the `InternalState`, the server or the channel. -/
theorem Rpc.handle_frame {req : Rpc} (h : req.handle c o = some r) : Frame o r.dev := by
  cases req with
  | activateOnu p q sn => exact activateOnu_frame h
  | deleteOnu p q => exact deleteOnu_frame h
  | disableOlt => cases h; exact Frame.refl o
  | reenableOlt => cases h; exact Frame.refl o
  | disablePonIf p => exact setPonIf_frame h
  | enablePonIf p => exact setPonIf_frame h
  | flowAdd flow => exact flowAdd_frame h
  | flowRemove flow => cases h; exact flowRemove_frame flow
  | omciMsgOut p q pkt => cases h; rw [omciMsgOut_ledgers]; exact Frame.refl o
  | onuPacketOut p q n pkt => exact onuPacketOut_frame h
  | createTrafficSchedulers ts => cases h; exact setTrafficSchedulers_frame ts _
  | removeTrafficSchedulers ts => cases h; exact setTrafficSchedulers_frame ts _
  | setAlarm id t s => cases h; rw [setAlarm_dev]; exact Frame.refl o

end Handlers

/-! ## Rebooting -/

section Reboot

variable {c : Collaborators} {o o' : OltDevice}

/-- `RestartOLT` run to its end. When the `delete` event is refused it only clears
`PreviouslyConnected`. Otherwise the channel was open and the enable context made, and the OLT ends
`initialized`: the server and a new channel up, the new signature, every ONU disabled, both ledgers
reset to empty PON-level maps, the NNI ports and the flow table kept. -/
theorem restartOLT_cases {signature : UInt32} (h : restartOLT c signature o = some o') :
    (o.internalState.fire .delete = none ∧ o' = { o with previouslyConnected := false }) ∨
    ((o.internalState.fire .delete).isSome ∧ o.channelOpen = true ∧ o.enableContext = true ∧
      o'.internalState = .initialized ∧ o'.oltServer = true ∧ o'.channelOpen = true ∧
      o'.signature = signature ∧ o'.pons = (o.disableOnus c).pons ∧
      o'.nnis.map (·.id) = o.nnis.map (·.id) ∧ o'.nnis ≠ [] ∧
      o'.allocIDs = (∅ : Ledger).initPons o.pons.length ∧
      o'.gemPortIDs = (∅ : Ledger).initPons o.pons.length ∧
      o'.flows = o.flows ∧ o'.enableContext = true ∧ o'.previouslyConnected = false) := by
  unfold restartOLT internalEvent at h
  cases hs : o.internalState.fire .delete with
  | none =>
    simp only [hs, Option.map_none'] at h
    cases h
    exact .inl ⟨rfl, rfl⟩
  | some s =>
    cases fire_delete hs
    simp only [hs, Option.map_some', enterInternal, clearAllResources] at h
    split_ifs at h with hch hctx
    simp only [OltInternalState.fire, Option.map_some', enterInternal, Option.getD_some] at h
    obtain ⟨-, -, nni, nnis, hn, rfl⟩ := initOlt_cases h
    simp only [Bool.not_eq_true', Bool.not_eq_false] at hch hctx
    have hn : o.nnis = nni :: nnis := hn
    exact .inr ⟨rfl, hch, hctx, rfl, rfl, rfl, rfl, rfl, by simp [hn], List.cons_ne_nil _ _,
        by simp [OltDevice.disableOnus], by simp [OltDevice.disableOnus], rfl, hctx, rfl⟩

end Reboot

/-! ## The dispatch loop -/

section Dispatch

variable {c : Collaborators} {o o' : OltDevice}

/-- The port `GetPonById` returns is at the position it returns, and has the ID. -/
theorem getPonById_eq_ok {p : UInt32} {i : Nat} {pon : PonPort}
    (h : getPonById o p = .ok (i, pon)) : o.pons[i]? = some pon ∧ pon.id = p := by
  unfold getPonById at h
  split at h
  · cases h
    obtain ⟨hi, hp⟩ := findWithIdx?_eq_some ‹_›
    exact ⟨hi, by simpa using hp⟩
  · cases h

@[simp] theorem PonPort.fireOper_id (pon : PonPort) (tx : Tx) : (pon.fireOper tx).1.id = pon.id := by
  unfold PonPort.fireOper; split <;> rfl

@[simp] theorem PonPort.fireOper_onus (pon : PonPort) (tx : Tx) :
    (pon.fireOper tx).1.onus = pon.onus := by
  unfold PonPort.fireOper; split <;> rfl

@[simp] theorem PonPort.fireInternal_id (c : Collaborators) (m : ActivationMode) (pon : PonPort)
    (tx : Tx) : (pon.fireInternal c m tx).id = pon.id := by
  unfold PonPort.fireInternal; split <;> rfl

@[simp] theorem PonPort.fireInternal_onus_length (c : Collaborators) (m : ActivationMode)
    (pon : PonPort) (tx : Tx) : (pon.fireInternal c m tx).onus.length = pon.onus.length := by
  unfold PonPort.fireInternal; split <;> simp [PonPort.enter]

/-- The dispatch loop keeps the ports, the server and the channel. It moves the `InternalState` only
by the `enable` or `disable` event of an OLT message. -/
theorem processMessage_frame {m : Message} {inds : List Indication}
    (h : processMessage c o m = some (o', inds)) :
    o'.ports = o.ports ∧ o'.oltServer = o.oltServer ∧ o'.channelOpen = o.channelOpen ∧
      (o'.internalState = o.internalState ∨ ∃ tx, (tx = .enable ∨ tx = .disable) ∧
        o'.internalState = (o.internalState.fire tx).getD o.internalState) := by
  cases m with
  | oltIndication s =>
    simp only [processMessage, Option.bind_eq_bind] at h
    rw [internalEvent_getD (by cases s <;> simp)] at h
    cases h
    exact ⟨rfl, rfl, rfl, .inr ⟨_, by cases s <;> simp, rfl⟩⟩
  | nniIndication s id =>
    simp only [processMessage, Option.bind_eq_bind, Option.bind_eq_some, Option.some.injEq,
      Prod.mk.injEq] at h
    obtain ⟨⟨k, nni⟩, hk, rfl, -⟩ := h
    refine ⟨?_, rfl, rfl, .inl rfl⟩
    simp only [OltDevice.ports, Prod.mk.injEq, true_and]
    exact map_set_of_getElem? (findWithIdx?_eq_some hk).1 rfl
  | ponIndication s id =>
    simp only [processMessage] at h
    split at h
    · cases h
    · rename_i i pon hpon
      cases h
      refine ⟨?_, rfl, rfl, .inl rfl⟩
      simp only [OltDevice.ports, OltDevice.modifyPon, Prod.mk.injEq, and_true]
      exact map_modify_of_getElem? fun a ha => by
        rw [(getPonById_eq_ok hpon).1] at ha
        cases ha
        simp
  | _ => cases h; exact ⟨rfl, rfl, rfl, .inl rfl⟩

end Dispatch

/-! ## The PON-level maps of the ledgers -/

/-- `HasPon` is membership among the PON ports' IDs. -/
theorem hasPon_iff_mem (o : OltDevice) (p : UInt32) :
    hasPon o p = true ↔ p ∈ o.pons.map PonPort.id := by
  simp only [hasPon, List.any_eq_true, beq_iff_eq, List.mem_map]

theorem ponIds_of_ports {o o' : OltDevice} (h : o'.ports = o.ports) :
    o'.pons.map PonPort.id = o.pons.map PonPort.id := by
  simpa [OltDevice.ports, Function.comp_def] using congrArg (fun x => x.1.map Prod.fst) h

/-- `HasPon` reads only the ports. -/
theorem hasPon_of_ports {o o' : OltDevice} (h : o'.ports = o.ports) (p : UInt32) :
    hasPon o' p = hasPon o p :=
  Bool.eq_iff_iff.mpr (by rw [hasPon_iff_mem, hasPon_iff_mem, ponIds_of_ports h])

/-- When the PON ports are numbered by their positions, `HasPon` holds for exactly the first
`len(Pons)` IDs. -/
theorem hasPon_iff_of_ponIds {o : OltDevice}
    (h : o.pons.map PonPort.id = (List.range o.pons.length).map UInt32.ofNat) (p : UInt32) :
    hasPon o p = true ↔ ∃ i < o.pons.length, p = UInt32.ofNat i := by
  rw [hasPon_iff_mem, h, List.mem_map]
  simp only [List.mem_range]
  exact ⟨fun ⟨i, hi, he⟩ => ⟨i, hi, he.symm⟩, fun ⟨i, hi, he⟩ => ⟨i, hi, he.symm⟩⟩

/-- `ActivateOnu`'s reset keeps the PON-level maps. -/
theorem Ledger.mem_of_resetOnu {L L' : Ledger} {p q : UInt32} (h : L.resetOnu p q = some L')
    (x : UInt32) : x ∈ L' ↔ x ∈ L := by
  obtain ⟨v, -, hv, -, rfl⟩ := GoMap.lookup_update? h
  rw [GoMap.mem_set, or_iff_right_iff_imp]
  rintro rfl
  exact (GoMap.mem_iff_lookup _ _).mpr (by simp [hv])

/-- An ONU's map lies under a PON-level map. -/
theorem Ledger.HasOnu.mem {L : Ledger} {p q : UInt32} (h : L.HasOnu p q) : p ∈ L := by
  rw [GoMap.mem_iff_lookup]
  cases hp : L.lookup p with
  | none => simp [Ledger.HasOnu, GoMap.get_of_lookup_none hp] at h
  | some v => rfl

/-- A store adds at most the PON-level map of its PON. -/
theorem mem_storeResult (L : Ledger) (p q n : UInt32) (r : GoInt32) (fid : UInt64) (x : UInt32) :
    x ∈ storeResult L p q n r fid ↔ x = p ∨ x ∈ L :=
  GoMap.mem_set _ _ _ _

theorem mem_storeGemsResult (p q n : UInt32) (fid : UInt64) (x : UInt32) :
    ∀ (gems : List GoInt32) (G : Ledger),
      x ∈ storeGemsResult G p q n gems fid ↔ x ∈ G ∨ (x = p ∧ gems ≠ [])
  | [], G => by simp
  | g :: gems, G => by
    rw [storeGemsResult_cons, mem_storeGemsResult p q n fid x gems, mem_storeResult]
    by_cases hx : x = p <;> simp [hx]

/-- `InitOlt` adds the PON-level maps of the first `n` IDs. -/
theorem Ledger.mem_initPons (L : Ledger) (n : Nat) (x : UInt32) :
    x ∈ L.initPons n ↔ x ∈ L ∨ ∃ i < n, x = UInt32.ofNat i := by
  have key : ∀ (l : List Nat) (L : Ledger),
      x ∈ l.foldl (fun L p => L.set (UInt32.ofNat p) ∅) L ↔ x ∈ L ∨ ∃ i ∈ l, x = UInt32.ofNat i := by
    intro l
    induction l with
    | nil => simp
    | cons i l ih => intro L; simp [ih, or_assoc, or_left_comm]
  simp [Ledger.initPons, key]

/-! ## The settled states -/

/-- A state between two steps: what `CreateOLT` sets up and no step, run to its end, undoes. -/
structure OltDevice.Settled (o : OltDevice) : Prop where
  /-- The PON port at position `i` has ID `i`, as `CreateOLT` numbers them. -/
  ponIds : o.pons.map PonPort.id = (List.range o.pons.length).map UInt32.ofNat
  /-- There is an NNI port, the first of which `InitOlt` sets down. -/
  nnis : o.nnis ≠ []
  /-- The `InternalState` rests in `initialized`, `enabled` or `disabled`: `deleted` is left within
  the reboot that enters it. -/
  state : o.internalState = .initialized ∨ o.internalState = .enabled ∨ o.internalState = .disabled
  /-- The gRPC server runs. -/
  oltServer : o.oltServer = true
  /-- The OLT's channel is open. -/
  channelOpen : o.channelOpen = true
  /-- `AllocIDs` has a PON-level map for exactly the PON ports. -/
  allocPons : ∀ p, p ∈ o.allocIDs ↔ hasPon o p = true
  /-- `GemPortIDs` has a PON-level map for exactly the PON ports. -/
  gemPons : ∀ p, p ∈ o.gemPortIDs ↔ hasPon o p = true

section Settled

variable {c : Collaborators} {o o' : OltDevice}

/-- A state with the same ports, an `InternalState` at rest, the same server and channel, and the same
PON-level maps as a settled one is settled. -/
theorem OltDevice.Settled.of_ports (hs : o.Settled) (hp : o'.ports = o.ports)
    (hst : o'.internalState = .initialized ∨ o'.internalState = .enabled ∨
      o'.internalState = .disabled)
    (hsrv : o'.oltServer = o.oltServer) (hch : o'.channelOpen = o.channelOpen)
    (hA : ∀ p, p ∈ o'.allocIDs ↔ p ∈ o.allocIDs) (hG : ∀ p, p ∈ o'.gemPortIDs ↔ p ∈ o.gemPortIDs) :
    o'.Settled := by
  have hids := ponIds_of_ports hp
  have hlen : o'.pons.length = o.pons.length := by simpa using congrArg List.length hids
  have hn : o'.nnis.map (·.id) = o.nnis.map (·.id) := congrArg Prod.snd hp
  refine ⟨by rw [hids, hlen, hs.ponIds], fun h => hs.nnis ?_, hst, hsrv.trans hs.oltServer,
    hch.trans hs.channelOpen, fun p => ?_, fun p => ?_⟩
  · simpa [h] using hn.symm
  · rw [hA, hs.allocPons, hasPon_of_ports hp]
  · rw [hG, hs.gemPons, hasPon_of_ports hp]

theorem OltDevice.Settled.of_frame (hs : o.Settled) (hf : Frame o o')
    (hA : ∀ p, p ∈ o'.allocIDs ↔ p ∈ o.allocIDs) (hG : ∀ p, p ∈ o'.gemPortIDs ↔ p ∈ o.gemPortIDs) :
    o'.Settled :=
  hs.of_ports hf.ports (hf.internalState ▸ hs.state) hf.oltServer hf.channelOpen hA hG

/-- A step that is not a reboot keeps the PON-level maps of `AllocIDs`: a store goes under an ONU's
map, which lies under its PON's. -/
theorem LedgerEffect.allocPons {r : Reply} {act : LedgerAct} (h : LedgerEffect c o r act)
    (hact : act ≠ .reboot) (p : UInt32) : p ∈ r.dev.allocIDs ↔ p ∈ o.allocIDs := by
  cases act with
  | none => rw [h.1]
  | activate p' q => exact Ledger.mem_of_resetOnu h.1 p
  | add flow =>
    rcases flowAdd_ledgers h with ⟨hA, -, -⟩ | ⟨-, -, -, -, hon, hA, -⟩
    · rw [hA]
    · rw [hA, mem_storeResult]
      exact ⟨fun h => h.elim (· ▸ hon.mem) id, .inr⟩
  | remove fid => rw [h.1, freeResource, GoMap.mem_rangeUpdate]
  | reboot => exact absurd rfl hact

/-- The PON-level maps of the ledgers after a step that is not a reboot are those before it. In a
settled state the GEM ports of a store go under a PON that `AllocIDs` has, so `GemPortIDs` has it. -/
theorem LedgerEffect.pons (hs : o.Settled) {r : Reply} {act : LedgerAct}
    (h : LedgerEffect c o r act) (hact : act ≠ .reboot) :
    (∀ p, p ∈ r.dev.allocIDs ↔ p ∈ o.allocIDs) ∧ (∀ p, p ∈ r.dev.gemPortIDs ↔ p ∈ o.gemPortIDs) := by
  refine ⟨h.allocPons hact, ?_⟩
  cases act with
  | none => exact fun p => by rw [h.2]
  | activate p q => exact Ledger.mem_of_resetOnu h.2
  | add flow =>
    rcases flowAdd_ledgers h with ⟨-, hG, -⟩ | ⟨-, -, -, -, hon, -, hG⟩
    · exact fun p => by rw [hG]
    · have hpG := (hs.gemPons _).mpr ((hs.allocPons _).mp hon.mem)
      intro p
      rw [hG, flowGemsResult, mem_storeGemsResult]
      exact ⟨fun h => h.elim id fun h => h.1 ▸ hpG, .inl⟩
  | remove fid => exact fun p => by rw [h.2, freeResource, GoMap.mem_rangeUpdate]
  | reboot => exact absurd rfl hact

/-- The `enable` and `disable` events keep the `InternalState` at rest. -/
theorem fire_rests {s : OltInternalState}
    (hs : s = .initialized ∨ s = .enabled ∨ s = .disabled) {tx : OltInternalTx}
    (htx : tx = .enable ∨ tx = .disable) :
    (s.fire tx).getD s = .initialized ∨ (s.fire tx).getD s = .enabled ∨
      (s.fire tx).getD s = .disabled := by
  rcases hs with rfl | rfl | rfl <;> rcases htx with rfl | rfl <;> simp [OltInternalState.fire]

/-- A step run to its end keeps a state settled. -/
theorem OltDevice.Settled.step (hs : o.Settled) {op : Op} {r : Reply} (h : op.step c o = some r) :
    r.dev.Settled := by
  cases op with
  | rpc req =>
    obtain ⟨hA, hG⟩ := (Op.step_ledgers h).pons hs (by cases req <;> simp [Op.ledgerAct])
    exact hs.of_frame (Rpc.handle_frame h) hA hG
  | enable =>
    cases h
    rw [enable_dev]
    split_ifs
    exacts [hs, { hs with }]
  | dispatch m =>
    obtain ⟨⟨o', inds⟩, hm, rfl⟩ := Option.map_eq_some'.mp h
    obtain ⟨hp, hsrv, hch, hst⟩ := processMessage_frame hm
    obtain ⟨hA, hG⟩ := processMessage_ledgers hm
    refine hs.of_ports hp ?_ hsrv hch (fun p => by rw [hA]) (fun p => by rw [hG])
    rcases hst with hst | ⟨tx, htx, hst⟩
    · exact hst ▸ hs.state
    · exact hst ▸ fire_rests hs.state htx
  | restart signature =>
    obtain ⟨o', hr, rfl⟩ := Option.map_eq_some'.mp h
    rcases restartOLT_cases hr with ⟨-, rfl⟩ | ⟨-, -, -, hst, hsrv, hch, -, hp, -, hne, hA, hG, -⟩
    · exact { hs with }
    · have hids : o'.pons.map PonPort.id = o.pons.map PonPort.id := by
        simp [hp, OltDevice.disableOnus, Function.comp_def]
      have hlen : o'.pons.length = o.pons.length := by simp [hp, OltDevice.disableOnus]
      have hids' : o'.pons.map PonPort.id = (List.range o'.pons.length).map UInt32.ofNat := by
        rw [hids, hlen, hs.ponIds]
      refine ⟨hids', hne, .inl hst, hsrv, hch, fun p => ?_, fun p => ?_⟩
      · rw [hA, Ledger.mem_initPons, hasPon_iff_of_ponIds hids', hlen]
        simp
      · rw [hG, Ledger.mem_initPons, hasPon_iff_of_ponIds hids', hlen]
        simp

/-- A round of `CreateOLT`'s PON loop adds the PON-level maps of the port it appends. -/
theorem createPon_pons {cfg : GlobalConfig} {i : Nat} (h : createPon c cfg o i = some o')
    (hP : (∀ p, p ∈ o.allocIDs ↔ hasPon o p = true) ∧ (∀ p, p ∈ o.gemPortIDs ↔ hasPon o p = true)) :
    (∀ p, p ∈ o'.allocIDs ↔ hasPon o' p = true) ∧
      (∀ p, p ∈ o'.gemPortIDs ↔ hasPon o' p = true) := by
  unfold createPon at h
  obtain ⟨_, -, h⟩ := Option.bind_eq_some.mp h
  split_ifs at h
  cases h
  refine ⟨fun p => ?_, fun p => ?_⟩ <;>
    simp only [GoMap.mem_set, hasPon_iff_mem, List.map_append, List.mem_append, List.map_cons,
      List.map_nil, List.mem_singleton, hP.1 p, hP.2 p, or_comm]

/-- What `CreateOLT` returns: the PON ports of its configuration, the NNI port set down by `InitOlt`,
the OLT `initialized` with its server and channel up, and the PON-level maps of its ports. -/
theorem createOLT_eq_some {cfg : GlobalConfig} {nni : NniPort} {signature : UInt32}
    (h : createOLT c cfg (some nni) signature = some o) :
    o.pons = (List.range cfg.ponPorts.toNat).map (fun i => ⟨UInt32.ofNat i, .created, .down,
      (List.range cfg.onusPonPort.toNat).map fun j =>
        createOnu c cfg.id (UInt32.ofNat i) (UInt32.ofNat (j + 1))⟩) ∧
    o.nnis = [{ nni with operState := .down }] ∧ o.internalState = .initialized ∧
    o.oltServer = true ∧ o.channelOpen = true ∧
    (∀ p, p ∈ o.allocIDs ↔ hasPon o p = true) ∧ (∀ p, p ∈ o.gemPortIDs ↔ hasPon o p = true) := by
  obtain ⟨_, o₁, hn₁, h₁, h⟩ := createOLT_cases h
  cases hn₁
  obtain ⟨hp, ho₁⟩ := foldlM_createPon_eq_some _ h₁
  obtain ⟨hA, hG⟩ := foldlM_createPon _ (fun h hP => createPon_pons h hP) _ h₁
    ⟨by simp [hasPon, OltDevice.create], by simp [hasPon, OltDevice.create]⟩
  obtain ⟨-, -, nni', nnis, hn, rfl⟩ := initOlt_cases h
  rw [show ({ o₁ with internalState := .initialized } : OltDevice).nnis = [nni] by rw [ho₁],
    List.cons.injEq] at hn
  obtain ⟨rfl, rfl⟩ := hn
  have hids : o₁.pons.map PonPort.id = (List.range o₁.pons.length).map UInt32.ofNat := by
    simp [hp, Function.comp_def, OltDevice.create]
  refine ⟨hp, rfl, rfl, rfl, rfl, fun p => ?_, fun p => ?_⟩
  · rw [Ledger.mem_initPons, hA, hasPon_iff_of_ponIds hids, or_self]
    exact (hasPon_iff_of_ponIds hids p).symm
  · rw [Ledger.mem_initPons, hG, hasPon_iff_of_ponIds hids, or_self]
    exact (hasPon_iff_of_ponIds hids p).symm

theorem createOLT_settled {cfg : GlobalConfig} {nni : Option NniPort} {signature : UInt32}
    (h : createOLT c cfg nni signature = some o) : o.Settled := by
  obtain ⟨_, -, rfl, -, -⟩ := createOLT_cases h
  obtain ⟨hp, hn, hst, hsrv, hch, hA, hG⟩ := createOLT_eq_some h
  exact ⟨by simp [hp, Function.comp_def], by simp [hn], .inl hst, hsrv, hch, hA, hG⟩

theorem Reachable.settled (h : Reachable c o) : o.Settled := by
  induction h with
  | create hc => exact createOLT_settled hc
  | step _ hs ih => exact ih.step hs

/-- Every state the device reaches from `CreateOLT` is settled. -/
theorem reachable_settled (h : Reachable c o) : o.Settled :=
  h.settled

end Settled

/-! ## The ports over a run -/

section Ports

variable {c : Collaborators} {o o' : OltDevice}

/-- No step changes the ports. -/
theorem Op.step_ports {op : Op} {r : Reply} (h : op.step c o = some r) : r.dev.ports = o.ports := by
  cases op with
  | rpc req => exact (Rpc.handle_frame h).ports
  | enable => cases h; unfold Bbsim.enable; split_ifs <;> rfl
  | dispatch m =>
    obtain ⟨⟨o', inds⟩, hm, rfl⟩ := Option.map_eq_some'.mp h
    exact (processMessage_frame hm).1
  | restart signature =>
    obtain ⟨o', hr, rfl⟩ := Option.map_eq_some'.mp h
    rcases restartOLT_cases hr with ⟨-, rfl⟩ | ⟨-, -, -, -, -, -, -, hp, hn, -⟩
    · rfl
    · simp [OltDevice.ports, hp, hn, OltDevice.disableOnus, Function.comp_def]

theorem runOps_ports : ∀ {o o' : OltDevice} {ops : List Op},
    runOps c o ops = some o' → o'.ports = o.ports
  | _, _, [], h => by cases h; rfl
  | _, _, _ :: _, h => by
    obtain ⟨r, hs, h⟩ := Option.bind_eq_some.mp h
    exact (runOps_ports h).trans (Op.step_ports hs)

/-- With the ports `0..n-1`, `n <= 2^32`, each with `k` ONUs, `GetPonById` finds a port exactly for an
ID below `n`, at the position the ID names. -/
theorem getPonById_of_ports {n k : Nat} (hn : n ≤ 4294967296)
    (hp : o.pons.map (fun pon => (pon.id, pon.onus.length)) =
      (List.range n).map fun i => (UInt32.ofNat i, k)) (p : UInt32) :
    ((∃ i pon, getPonById o p = .ok (i, pon)) ↔ p.toNat < n) ∧
      ∀ i pon, getPonById o p = .ok (i, pon) → i = p.toNat ∧ pon.onus.length = k := by
  have hat : ∀ i pon, getPonById o p = .ok (i, pon) →
      i < n ∧ UInt32.ofNat i = p ∧ pon.onus.length = k := by
    intro i pon h
    obtain ⟨hi, rfl⟩ := getPonById_eq_ok h
    have := congrArg (·[i]?) hp
    simp only [List.getElem?_map, hi] at this
    by_cases hin : i < n
    · rw [List.getElem?_range hin] at this
      simp only [Option.map_some', Option.some.injEq, Prod.mk.injEq] at this
      exact ⟨hin, this.1.symm, this.2⟩
    · rw [List.getElem?_eq_none (by simpa using hin)] at this
      cases this
  have hval : ∀ i, i < n → (UInt32.ofNat i).toNat = i := fun i hi =>
    UInt32.toNat_ofNat_of_lt (by simp only [UInt32.size]; omega)
  refine ⟨⟨fun ⟨i, pon, h⟩ => ?_, fun h => ?_⟩, fun i pon h => ?_⟩
  · obtain ⟨hi, rfl, -⟩ := hat i pon h
    rwa [hval i hi]
  · obtain ⟨i, pon, h⟩ := getPonById_of_hasPon <| (hasPon_iff_mem o p).mpr <| by
      have := congrArg (List.map Prod.fst) hp
      simp only [List.map_map, Function.comp_def] at this
      rw [this, List.mem_map]
      exact ⟨p.toNat, List.mem_range.mpr h, uint32_ofNat_toNat p⟩
    exact ⟨i, pon, h⟩
  · obtain ⟨hi, rfl, hk⟩ := hat i pon h
    exact ⟨(hval i hi).symm, hk⟩

/-- Every run from `CreateOLT` keeps its ports: the PON ports `0..NumPon-1`, in that order, each
with `NumOnuPerPon` ONUs, and the NNI port. So `GetPonById` finds a PON port exactly for an ID below
`NumPon`, at the position the ID names, and that port has `NumOnuPerPon` ONUs. -/
theorem runOps_keeps_ports {cfg : GlobalConfig} {nni : NniPort} {signature : UInt32}
    {o₀ : OltDevice} {ops : List Op} (h₀ : createOLT c cfg nni signature = some o₀)
    (h : runOps c o₀ ops = some o) :
    o.ports = ((List.range cfg.ponPorts.toNat).map fun i => (UInt32.ofNat i, cfg.onusPonPort.toNat),
      [nni.id]) ∧
    ∀ p : UInt32, ((∃ i pon, getPonById o p = .ok (i, pon)) ↔ p.toNat < cfg.ponPorts.toNat) ∧
      ∀ i pon, getPonById o p = .ok (i, pon) → i = p.toNat ∧ pon.onus.length = cfg.onusPonPort.toNat := by
  have h0 : o₀.ports = ((List.range cfg.ponPorts.toNat).map fun i =>
      (UInt32.ofNat i, cfg.onusPonPort.toNat), [nni.id]) := by
    obtain ⟨hp, hn, -⟩ := createOLT_eq_some h₀
    simp [OltDevice.ports, hp, hn, Function.comp_def]
  have hp := (runOps_ports h).trans h0
  exact ⟨hp, getPonById_of_ports (by simpa [UInt32.size] using cfg.ponPorts.toNat_lt_size.le)
    (congrArg Prod.fst hp)⟩

end Ports

/-! ## What the settled states rule out -/

section Consequences

variable {c : Collaborators} {o : OltDevice}

@[simp] theorem getPonById_setLedgers (o : OltDevice) (A G : Ledger) (p : UInt32) :
    getPonById { o with allocIDs := A, gemPortIDs := G } p = getPonById o p := rfl

/-- `ActivateOnu` panics on a port without a PON-level map in `AllocIDs`: its first reset assigns
into the missing map. -/
theorem activateOnu_of_not_mem {p : UInt32} (hp : p ∉ o.allocIDs) (q : UInt32) (sn : SerialNumber) :
    activateOnu c o p q sn = none := by
  have hA : o.allocIDs.lookup p = none := by
    rwa [← Option.not_isSome_iff_eq_none, ← GoMap.mem_iff_lookup]
  simp only [activateOnu, Ledger.resetOnu, GoMap.update?_of_lookup_none _ hA, Option.bind_eq_bind,
    Option.none_bind]

/-- In a reachable state the ledgers have the map of every PON port, so the resets that begin
`ActivateOnu` never panic for a port the OLT has: `ActivateOnu` panics exactly when `GetPonById`
fails or no ONU of the port has the serial number. -/
theorem activateOnu_eq_none_iff (h : Reachable c o) (p q : UInt32) (sn : SerialNumber) :
    activateOnu c o p q sn = none ↔
      ∀ i pon, getPonById o p = .ok (i, pon) → pon.getOnuBySn sn = none := by
  have hs := h.settled
  by_cases hp : hasPon o p = true
  · obtain ⟨i, pon, hpon⟩ := getPonById_of_hasPon hp
    obtain ⟨A, hA⟩ := Option.isSome_iff_exists.mp
      ((GoMap.mem_iff_lookup _ _).mp ((hs.allocPons p).mpr hp))
    obtain ⟨G, hG⟩ := Option.isSome_iff_exists.mp
      ((GoMap.mem_iff_lookup _ _).mp ((hs.gemPons p).mpr hp))
    simp only [activateOnu, Ledger.resetOnu, GoMap.update?_of_lookup _ hA,
      GoMap.update?_of_lookup _ hG, Option.map_some', Option.bind_eq_bind, Option.some_bind]
    simp only [getPonById_setLedgers, hpon, Except.ok.injEq, Prod.mk.injEq, and_imp, forall_eq_apply_imp_iff,
      forall_apply_eq_imp_iff₂]
    cases hsn : pon.getOnuBySn sn <;> simp [hsn]
  · simp only [activateOnu_of_not_mem ((hs.allocPons p).not.mpr hp), true_iff]
    intro i pon hpon
    obtain ⟨hi, rfl⟩ := getPonById_eq_ok hpon
    exact absurd ((hasPon_iff_mem o _).mpr (List.mem_map_of_mem _ (List.mem_iff_getElem?.mpr ⟨i, hi⟩))) hp

/-- Once the `delete` event is accepted, a reboot from a settled state panics exactly when there is
no enable context to cancel. -/
theorem restartOLT_eq_none_iff {signature : UInt32} (hs : o.Settled) (hl : c.listens = true)
    (hdel : o.internalState.fire .delete = some .deleted) :
    restartOLT c signature o = none ↔ o.enableContext = false := by
  obtain ⟨nni, nnis, hn⟩ := List.exists_cons_of_ne_nil hs.nnis
  unfold restartOLT internalEvent
  simp only [hdel, Option.map_some', enterInternal, clearAllResources, OltDevice.disableOnus,
    hs.channelOpen]
  cases hctx : o.enableContext <;> simp [hctx, OltInternalState.fire, enterInternal, initOlt,
    OltDevice.disableOnus, hn, hl]

/-- `RestartOLT` in a reachable state. An OLT that is only `initialized` refuses the `delete` event,
and the reboot changes nothing but `PreviouslyConnected`. Otherwise the reboot panics exactly when
`Enable` has never run, since `enableContextCancel` is then nil. When it does not panic, it ends
with the OLT `initialized`, the new signature, every ONU disabled and no resource in either ledger.
The flow table keeps every flow. -/
theorem restartOLT_reachable (h : Reachable c o) (signature : UInt32) :
    (o.internalState = .initialized →
      restartOLT c signature o = some { o with previouslyConnected := false }) ∧
    (o.internalState ≠ .initialized → (restartOLT c signature o = none ↔ o.enableContext = false)) ∧
    ∀ o', restartOLT c signature o = some o' → o.internalState ≠ .initialized →
      o'.internalState = .initialized ∧ o'.signature = signature ∧
      o'.pons = (o.disableOnus c).pons ∧ o'.allocIDs.Clear ∧ o'.gemPortIDs.Clear ∧
      o'.flows = o.flows := by
  have hs := h.settled
  have hdel : o.internalState ≠ .initialized → o.internalState.fire .delete = some .deleted := by
    intro hi
    rcases hs.state with h | h | h <;> simp [h, OltInternalState.fire] at hi ⊢
  refine ⟨fun hi => ?_, fun hi => restartOLT_eq_none_iff hs h.listens (hdel hi),
    fun o' hr hi => ?_⟩
  · unfold restartOLT internalEvent
    simp [hi, OltInternalState.fire]
  · rcases restartOLT_cases hr with ⟨hn, -⟩ | ⟨-, -, -, hst, -, -, hsig, hp, -, -, hA, hG, hf, -⟩
    · rw [hdel hi] at hn; cases hn
    · exact ⟨hst, hsig, hp, hA ▸ Ledger.clear_empty.initPons _, hG ▸ Ledger.clear_empty.initPons _, hf⟩

end Consequences

/-! ## A sample run -/

/-- A sample run from `CreateOLT`: the sample ONU activated, the sample flow added, the OLT enabled
and its `UP` indication handled, then a reboot. -/
def sampleRun : List Op :=
  [.rpc (.activateOnu 0 1 ⟨"BBSM", [0, 1]⟩), .rpc (.flowAdd sampleFlow), .enable,
    .dispatch (.oltIndication .up), .restart 7]

/-- The sample run keeps the sample OLT's one PON port, with its one ONU, and its NNI port. -/
theorem runOps_keeps_ports_sample :
    ∃ o₀ o, createdOlt = some o₀ ∧ runOps sampleCollaborators o₀ sampleRun = some o ∧
      (o.ports = ((List.range sampleConfig.ponPorts.toNat).map fun i =>
          (UInt32.ofNat i, sampleConfig.onusPonPort.toNat), [(⟨0, .up⟩ : NniPort).id]) ∧
        ∀ p : UInt32, ((∃ i pon, getPonById o p = .ok (i, pon)) ↔
            p.toNat < sampleConfig.ponPorts.toNat) ∧
          ∀ i pon, getPonById o p = .ok (i, pon) →
            i = p.toNat ∧ pon.onus.length = sampleConfig.onusPonPort.toNat) :=
  ⟨_, _, rfl, rfl, runOps_keeps_ports (show createdOlt = some _ from rfl)
    (show runOps sampleCollaborators _ sampleRun = some _ from rfl)⟩

/-- The state after the sample run is settled. -/
theorem reachable_settled_sample :
    ∃ o, (createdOlt.bind fun o => runOps sampleCollaborators o sampleRun) = some o ∧
      Reachable sampleCollaborators o ∧ o.Settled :=
  have h := (Reachable.create (show createdOlt = some _ from rfl)).runOps
    (show runOps sampleCollaborators _ sampleRun = some _ from rfl)
  ⟨_, rfl, h, reachable_settled h⟩

/-- Once the sample flow is stored, `ActivateOnu` of the sample ONU again does not panic, and one on
a port the OLT lacks does. -/
theorem activateOnu_eq_none_iff_activated :
    ∃ o, activatedOlt = some o ∧ Reachable sampleCollaborators o ∧
      (activateOnu sampleCollaborators o 5 1 ⟨"BBSM", [0, 1]⟩ = none ↔
        ∀ i pon, getPonById o 5 = .ok (i, pon) → pon.getOnuBySn ⟨"BBSM", [0, 1]⟩ = none) :=
  have ⟨o, ho, h⟩ := reachable_activatedOlt
  ⟨o, ho, h, activateOnu_eq_none_iff h 5 1 ⟨"BBSM", [0, 1]⟩⟩

/-- The reboot of the sample run, from the enabled OLT. -/
theorem restartOLT_reachable_enabled :
    ∃ o, (createdOlt.bind fun o => runOps sampleCollaborators o (sampleRun.take 4)) = some o ∧
      Reachable sampleCollaborators o ∧
      ((o.internalState = .initialized →
          restartOLT sampleCollaborators 7 o = some { o with previouslyConnected := false }) ∧
        (o.internalState ≠ .initialized →
          (restartOLT sampleCollaborators 7 o = none ↔ o.enableContext = false)) ∧
        ∀ o', restartOLT sampleCollaborators 7 o = some o' → o.internalState ≠ .initialized →
          o'.internalState = .initialized ∧ o'.signature = 7 ∧
          o'.pons = (o.disableOnus sampleCollaborators).pons ∧ o'.allocIDs.Clear ∧
          o'.gemPortIDs.Clear ∧ o'.flows = o.flows) :=
  have h := (Reachable.create (show createdOlt = some _ from rfl)).runOps
    (show runOps sampleCollaborators _ (sampleRun.take 4) = some _ from rfl)
  ⟨_, rfl, h, restartOLT_reachable h 7⟩

/-! ## The reboot window -/

section Window

variable {c : Collaborators} {o : OltDevice}

theorem Op.ledgerAct_ne_reboot {op : Op} (hop : ∀ s, op ≠ .restart s) : op.ledgerAct ≠ .reboot := by
  cases op with
  | rpc req => cases req <;> simp [Op.ledgerAct]
  | restart s => exact absurd rfl (hop s)
  | _ => simp [Op.ledgerAct]

/-- No state of the reboot window has a PON-level map in `AllocIDs`: `clearAllResources` dropped them
all, and only `InitOlt`, after the window, makes them again. -/
theorem InRebootWindow.allocIDs_not_mem (h : InRebootWindow c o) (p : UInt32) : p ∉ o.allocIDs := by
  induction h with
  | delete _ hdel =>
    obtain ⟨s, hs, he⟩ := Option.map_eq_some'.mp hdel
    obtain rfl := fire_delete hs
    cases he
    exact GoMap.not_mem_empty p
  | disableOnus _ ih => exact ih
  | step _ hop hs ih => rwa [(Op.step_ledgers hs).allocPons (Op.ledgerAct_ne_reboot hop)]

/-- In `RestartOLT`'s reboot window `ActivateOnu` panics, whatever its port: its reset assigns into
the PON-level map that `clearAllResources` dropped. -/
theorem activateOnu_in_reboot_window (h : InRebootWindow c o) (p q : UInt32) (sn : SerialNumber) :
    activateOnu c o p q sn = none :=
  activateOnu_of_not_mem (h.allocIDs_not_mem p) q sn

/-- The `ActivateOnu` of the sample ONU, which the enabled sample OLT serves, panics once it is
pending in the OLT's reboot window. -/
theorem activateOnu_in_reboot_window_enabled :
    ∃ o o', (createdOlt.bind fun o => runOps sampleCollaborators o (sampleRun.take 4)) = some o ∧
      (activateOnu sampleCollaborators o 0 1 ⟨"BBSM", [0, 1]⟩).isSome ∧
      internalEvent sampleCollaborators { o with previouslyConnected := false } .delete =
        some (some o') ∧
      InRebootWindow sampleCollaborators o' ∧
      activateOnu sampleCollaborators o' 0 1 ⟨"BBSM", [0, 1]⟩ = none :=
  have h := (Reachable.create (show createdOlt = some _ from rfl)).runOps
    (show runOps sampleCollaborators _ (sampleRun.take 4) = some _ from rfl)
  have hw := InRebootWindow.delete h rfl
  ⟨_, _, rfl, rfl, rfl, hw, activateOnu_in_reboot_window hw 0 1 _⟩

end Window

end Bbsim
