import Bbsim.System.Settled

/-!
# `FlowRemove` after `FlowAdd`, and `FlowAdd` after `DeleteOnu`

What a `FlowRemove` leaves of the `FlowAdd` of the same flow just before it. On the ledgers it
undoes the add exactly: `FlowAdd` records the flow's resources under its flow ID, or nothing, and
`FlowRemove` frees that ID everywhere, so the records left are those of the other flow IDs. The
flow table is another matter. `FlowAdd` stores the flow under its key before any check, while
`FlowRemove` deletes the key only once it has found the stored flow's PON port and ONU; when either
is missing it returns with no error and leaves the entry. So a `FlowAdd` for an ONU that its port
does not have fails, and the entry it stored is still there after the `FlowRemove`.

Whether `FlowRemove` finds them depends only on the IDs of the ports and their ONUs, which `FlowAdd`
does not change (`findsStoredOnu_congr`, `flowAdd_dev`).

The flow table and the ONUs' flow lists are what `enablePerf` switches off. `FlowAdd` reads a list
back only for the event of an ONU's first flow, which the option switches off too: with the option
on or off, and whatever the table holds, it returns the same, leaves the same ledgers and has the
same effects but that event (`flowAdd_enablePerf`).

A `FlowAdd` right after the `DeleteOnu` of its ONU is refused: `DeleteOnu` moves the ONU by
`disable` in place, the lookups by ID find it again (`getOnuById_modifyOnu`), and `FlowAdd` refuses
a disabled ONU with an error that names its state (`deleteOnu_then_flowAdd`).

Over a run of `FlowAdd`s, an ONU's flow list gets the flow's key once for every `FlowAdd` that
addresses the ONU, whether `validateFlow` accepts the flow or not, so a key added twice is listed
twice (`runOps_flowAdds_flow_keys`).
-/

namespace Bbsim

/-! ## Lookups read IDs only -/

/-- `findWithIdx?` by a test of what `g` reads of each element finds, at the same position, what
the search over the list of readings finds. -/
theorem findWithIdx?_map {α β : Type} (g : α → β) (q : β → Bool) :
    ∀ l : List α, (findWithIdx? (fun a => q (g a)) l).map (fun x => (x.1, g x.2)) =
      findWithIdx? q (l.map g)
  | [] => rfl
  | a :: l => by
    simp only [findWithIdx?, List.map_cons, ← findWithIdx?_map g q l]
    split_ifs <;> simp [Option.map_map, Function.comp_def]

/-- The IDs of a PON port and of its ONUs, by position: what `GetPonById` and `GetOnuById` read. -/
def PonPort.ids (pon : PonPort) : UInt32 × List UInt32 := (pon.id, pon.onus.map Onu.id)

/-- The stored-flow block of `FlowRemove` gets past its lookups for the stored flow `flow`: it is
an OLT flow, or its PON port and its ONU are found. -/
def FindsStoredOnu (c : Collaborators) (o : OltDevice) (flow : Flow) : Prop :=
  flow.accessIntfId = -1 ∨ ∃ i pon j onu, getPonById o (uint32 flow.accessIntfId) = .ok (i, pon) ∧
    pon.getOnuById c (uint32 flow.onuId) = .ok (j, onu)

/-- In two lists that `g` reads the same, a search by a test of `g` finds elements at the same
position that `g` reads the same. -/
theorem findWithIdx?_of_map_eq {α β : Type} {g : α → β} {q : β → Bool} {p : α → Bool}
    (hp : p = fun a => q (g a)) {l l' : List α} (hg : l'.map g = l.map g) {i : Nat} {a : α}
    (h : findWithIdx? p l = some (i, a)) : ∃ a', findWithIdx? p l' = some (i, a') ∧ g a' = g a := by
  subst hp
  have hmap := findWithIdx?_map g q l
  rw [h, ← hg, ← findWithIdx?_map g q l'] at hmap
  obtain ⟨⟨i', a'⟩, h', he⟩ := Option.map_eq_some'.mp hmap.symm
  obtain ⟨rfl, hga⟩ := Prod.mk.inj he
  exact ⟨a', h', hga⟩

/-- `GetPonById` returns the first port with the ID. -/
theorem getPonById_eq_ok_iff {o : OltDevice} {p : UInt32} {x : Nat × PonPort} :
    getPonById o p = .ok x ↔ findWithIdx? (fun pon => pon.id == p) o.pons = some x := by
  unfold getPonById
  split <;> simp_all

/-- `GetOnuById` returns the first ONU of the port with the ID. -/
theorem getOnuById_eq_ok_iff {c : Collaborators} {pon : PonPort} {q : UInt32} {x : Nat × Onu} :
    pon.getOnuById c q = .ok x ↔ findWithIdx? (fun onu => onu.id == q) pon.onus = some x := by
  unfold PonPort.getOnuById
  split <;> simp_all

/-- Whether `FlowRemove` finds a stored flow's ONU depends on the IDs of the ports and ONUs alone. -/
theorem FindsStoredOnu.of_ids {c : Collaborators} {o o' : OltDevice} {flow : Flow}
    (hids : o'.pons.map PonPort.ids = o.pons.map PonPort.ids) (h : FindsStoredOnu c o flow) :
    FindsStoredOnu c o' flow := by
  rcases h with h | ⟨i, pon, j, onu, hpon, honu⟩
  · exact .inl h
  obtain ⟨pon', hpon', hids'⟩ := findWithIdx?_of_map_eq (q := fun x => x.1 == _) rfl hids
    (getPonById_eq_ok_iff.mp hpon)
  have honus : pon'.onus.map Onu.id = pon.onus.map Onu.id := congrArg Prod.snd hids'
  obtain ⟨onu', honu', -⟩ := findWithIdx?_of_map_eq (q := (· == _)) rfl honus
    (getOnuById_eq_ok_iff.mp honu)
  exact .inr ⟨i, pon', j, onu', getPonById_eq_ok_iff.mpr hpon', getOnuById_eq_ok_iff.mpr honu'⟩

/-- Two devices whose ports and ONUs have the same IDs find the same stored flows' ONUs. -/
theorem findsStoredOnu_congr {c : Collaborators} {o o' : OltDevice} {flow : Flow}
    (hids : o'.pons.map PonPort.ids = o.pons.map PonPort.ids) :
    FindsStoredOnu c o' flow ↔ FindsStoredOnu c o flow :=
  ⟨.of_ids hids.symm, .of_ids hids⟩

/-- A change in place of an ONU that keeps its ID keeps the IDs of the ports and ONUs. -/
theorem modifyOnu_ids (o : OltDevice) (i j : Nat) {f : Onu → Onu} (hf : ∀ onu, (f onu).id = onu.id) :
    (o.modifyOnu i j f).pons.map PonPort.ids = o.pons.map PonPort.ids :=
  map_modify_of_getElem? fun pon _ => by
    simp only [PonPort.ids, map_modify_of_getElem? fun onu _ => hf onu]

/-- Appending a flow key leaves `enablePerf`. -/
theorem appendFlowKey_enablePerf (o : OltDevice) (i j : Nat) (flow : Flow) :
    (o.appendFlowKey i j flow).enablePerf = o.enablePerf := by
  unfold OltDevice.appendFlowKey; split <;> rfl

/-- Appending a flow key to an ONU's list keeps the IDs of the ports and ONUs. -/
theorem appendFlowKey_ids (o : OltDevice) (i j : Nat) (flow : Flow) :
    (o.appendFlowKey i j flow).pons.map PonPort.ids = o.pons.map PonPort.ids := by
  unfold OltDevice.appendFlowKey
  split
  · rfl
  · exact modifyOnu_ids o i j fun _ => rfl

/-! ## The composition -/

section Compose

variable {c : Collaborators} {o : OltDevice} {flow : Flow} {r : Reply}

/-- The stored-flow block of `FlowRemove` for a key the table holds: past its lookups it deletes
the key, and otherwise it returns with no error, the device as it was. -/
theorem removeStoredFlow_of_lookup {sf : Flow} (hs : o.flows.lookup ⟨flow.flowId⟩ = some sf) :
    (FindsStoredOnu c o sf → ∃ p, removeStoredFlow c o flow = .ok p ∧
      p.1.flows = o.flows.delete ⟨flow.flowId⟩) ∧
    (¬ FindsStoredOnu c o sf → removeStoredFlow c o flow = .error ⟨o, [], .ok ()⟩) := by
  unfold removeStoredFlow FindsStoredOnu
  simp only [hs, ne_eq, ite_not]
  split_ifs with hid
  · exact ⟨fun _ => ⟨_, rfl, rfl⟩, fun h => absurd (.inl hid) h⟩
  · refine ⟨?_, fun h => ?_⟩
    · rintro (h | ⟨i, pon, j, onu, hpon, honu⟩)
      · exact absurd h hid
      · simp only [hpon, honu]
        exact ⟨_, rfl, rfl⟩
    · split
      · rfl
      · split
        · rfl
        · exact absurd (.inr ⟨_, _, _, _, ‹_›, ‹_›⟩) h

/-- The device `FlowAdd` leaves: the flow stored in the table as its first lines do, the IDs of the
ports and ONUs as they were, and `enablePerf` unchanged. -/
theorem flowAdd_dev (h : flowAdd c o flow = some r) :
    r.dev.flows = (o.storeFlow flow).flows ∧ r.dev.pons.map PonPort.ids = o.pons.map PonPort.ids ∧
      r.dev.enablePerf = o.enablePerf := by
  rcases flowAdd_cases h with ⟨-, rfl⟩ |
    ⟨-, -, i, pon, -, ⟨e, -, rfl⟩ | ⟨j, onu, -, ⟨-, rfl⟩ | ⟨-, ht⟩⟩⟩
  · exact ⟨rfl, by simp, by simp⟩
  · exact ⟨rfl, by simp, by simp⟩
  · exact ⟨rfl, by simp, by simp⟩
  · have hpons := appendFlowKey_ids (o.storeFlow flow) i j flow
    rw [storeFlow_pons] at hpons
    rcases flowAddTail_cases ht with ⟨e, -, rfl⟩ | ⟨-, -, -, rfl⟩ <;>
      exact ⟨by simp, hpons, by simp [appendFlowKey_enablePerf]⟩

/-- Freeing a flow ID from a ledger whose records are those of `L` and some of that ID leaves the
records of `L` of the other IDs. -/
theorem has_freeResource_of_has_iff {L L' : Ledger} {fid : UInt64}
    {P : UInt32 → UInt32 → UInt32 → GoInt32 → UInt64 → Prop} (hP : ∀ p q n x f, P p q n x f → f = fid)
    (hL : ∀ p q n x f, L'.Has p q n x f ↔ L.Has p q n x f ∨ P p q n x f) (p q n x f) :
    (freeResource L' fid).Has p q n x f ↔ L.Has p q n x f ∧ f ≠ fid := by
  rw [has_freeResource, hL]
  constructor
  · rintro ⟨h | h, hne⟩
    exacts [⟨h, hne⟩, absurd (hP _ _ _ _ _ h) hne]
  · exact fun ⟨h, hne⟩ => ⟨.inl h, hne⟩

/-- `FlowRemove` after `FlowAdd` of one flow: both ledgers hold exactly the records they held
before of other flow IDs, whatever `FlowAdd` returned. With `enablePerf` off, the flow table loses
the flow's key when the stored flow is an OLT flow or its PON port and ONU are found; otherwise
`FlowRemove` returns with no error, and the entry that `FlowAdd` stored stays in the table. -/
theorem flowRemove_after_flowAdd (h : flowAdd c o flow = some r) :
    (∀ p q n x fid, (flowRemove c r.dev flow).dev.allocIDs.Has p q n x fid ↔
      o.allocIDs.Has p q n x fid ∧ fid ≠ flow.flowId) ∧
    (∀ p q n x fid, (flowRemove c r.dev flow).dev.gemPortIDs.Has p q n x fid ↔
      o.gemPortIDs.Has p q n x fid ∧ fid ≠ flow.flowId) ∧
    (o.enablePerf = false → FindsStoredOnu c o flow →
      (flowRemove c r.dev flow).dev.flows = o.flows.delete ⟨flow.flowId⟩) ∧
    (o.enablePerf = false → ¬ FindsStoredOnu c o flow →
      (flowRemove c r.dev flow).result = .ok () ∧
        (flowRemove c r.dev flow).dev.flows = o.flows.set ⟨flow.flowId⟩ flow) := by
  refine ⟨fun p q n x fid => ?_, fun p q n x fid => ?_, fun hperf hf => ?_, fun hperf hf => ?_⟩
  · rw [flowRemove_ledgers.1]
    rcases flowAdd_ledgers h with ⟨hA, -, -⟩ | ⟨-, -, -, -, -, hA, -⟩ <;> rw [hA]
    · exact has_freeResource _ _ p q n x fid
    · exact has_freeResource_of_has_iff (fun _ _ _ _ _ h => h.2.2.2.2)
        (has_storeResult _ _ _ _ _ _) p q n x fid
  · rw [flowRemove_ledgers.2]
    rcases flowAdd_ledgers h with ⟨-, hG, -⟩ | ⟨-, -, -, -, -, -, hG⟩ <;> rw [hG]
    · exact has_freeResource _ _ p q n x fid
    · exact has_freeResource_of_has_iff (fun _ _ _ _ _ h => h.2.2.2.2)
        (fun p q n x f => has_storeGemsResult _ _ _ _ p q n x f _ _) p q n x fid
  all_goals
    obtain ⟨hflows, hids, hperf'⟩ := flowAdd_dev h
    -- the device whose stored flow `FlowRemove` reads, once both ledgers are freed
    set d := freeAllocId (freeGemPortId r.dev flow) flow
    have hd : d.enablePerf = false ∧ d.flows = o.flows.set ⟨flow.flowId⟩ flow :=
      ⟨hperf' ▸ hperf, by simp [d, freeAllocId, freeGemPortId, hflows, OltDevice.storeFlow, hperf]⟩
    have hlookup := removeStoredFlow_of_lookup (c := c)
      (show d.flows.lookup ⟨flow.flowId⟩ = some flow by rw [hd.2, GoMap.lookup_set_self])
    have hfinds : FindsStoredOnu c d flow ↔ FindsStoredOnu c o flow := findsStoredOnu_congr hids
  · obtain ⟨p, hrem, hp⟩ := hlookup.1 (hfinds.mpr hf)
    show (flowRemoveTail c d flow).dev.flows = _
    rw [flowRemoveTail_dev, hd.1]
    simp only [Bool.false_eq_true, if_false, hrem, hp, hd.2, GoMap.delete_set_self]
  · have hrem := hlookup.2 (mt hfinds.mp hf)
    show (flowRemoveTail c d flow).result = _ ∧ (flowRemoveTail c d flow).dev.flows = _
    simp only [flowRemoveTail, hd.1, Bool.false_eq_true, if_false, hrem, hd.2, and_self]

end Compose

/-- A flow on the sample PON port for ONU 2, which the port does not have: `FlowAdd` stores it and
fails, and `FlowRemove` then returns with no error and leaves it in the table. -/
theorem flowRemove_after_flowAdd_unknown_onu :
    ∃ r, flowAdd sampleCollaborators sampleOlt { sampleFlow with onuId := 2 } = some r ∧
      r.result ≠ .ok () ∧
      (flowRemove sampleCollaborators r.dev { sampleFlow with onuId := 2 }).result = .ok () ∧
      (flowRemove sampleCollaborators r.dev { sampleFlow with onuId := 2 }).dev.flows =
        sampleOlt.flows.set ⟨7⟩ { sampleFlow with onuId := 2 } := by
  obtain ⟨r, h⟩ : ∃ r, flowAdd sampleCollaborators sampleOlt { sampleFlow with onuId := 2 } = some r :=
    ⟨_, rfl⟩
  have hnot : ¬ FindsStoredOnu sampleCollaborators sampleOlt { sampleFlow with onuId := 2 } := by
    rintro (h | ⟨i, pon, j, onu, hpon, honu⟩)
    · exact absurd h (by decide)
    · cases hpon
      cases honu
  refine ⟨r, h, ?_, (flowRemove_after_flowAdd h).2.2.2 rfl hnot⟩
  cases h
  decide

/-! ## The `enablePerf` path -/

section Perf

variable {c : Collaborators} {o o' : OltDevice} {flow : Flow}

/-- The end of `FlowAdd` reads the ledgers only: on two devices with the same ledgers, given
events that `enablePerf` keeps alike, it sends the same, returns the same and leaves the same
ledgers, or panics on both. -/
theorem flowAddTail_congr (hA : o'.allocIDs = o.allocIDs) (hG : o'.gemPortIDs = o.gemPortIDs)
    {i j : Nat} {pon : PonPort} {onu : Onu} {ev ev' : List Effect}
    (hev : ev'.filter Effect.keptByPerf = ev.filter Effect.keptByPerf) :
    (flowAddTail o' flow i j pon onu ev').map
        (fun r => (r.effects.filter Effect.keptByPerf, r.result, r.dev.allocIDs, r.dev.gemPortIDs)) =
      (flowAddTail o flow i j pon onu ev).map
        (fun r => (r.effects.filter Effect.keptByPerf, r.result, r.dev.allocIDs, r.dev.gemPortIDs)) := by
  simp only [flowAddTail, validateFlow_congr hA hG, storeGemPortIdByFlow_eq, hA, hG]
  split
  · simp [hA, hG, hev]
  · split_ifs <;> simp only [storeAllocId_eq, hA, Option.bind_eq_bind, Option.some_bind,
      Option.none_bind, Option.map_none']
    split_ifs <;> simp [hev]

/-- `enablePerf` only switches off the flow table, the ONUs' flow lists and the event of a first
flow key: whatever the table holds, `FlowAdd` sends the same, publishes the same events but that
one, returns the same and leaves the same ledgers with it on or off, and panics on the same
requests. -/
theorem flowAdd_enablePerf (o : OltDevice) (b : Bool) (F : GoMap FlowKey Flow) (flow : Flow) :
    (flowAdd c { o with enablePerf := b, flows := F } flow).map
        (fun r => (r.effects.filter Effect.keptByPerf, r.result, r.dev.allocIDs, r.dev.gemPortIDs)) =
      (flowAdd c o flow).map
        (fun r => (r.effects.filter Effect.keptByPerf, r.result, r.dev.allocIDs, r.dev.gemPortIDs)) := by
  have hpon : getPonById { o with enablePerf := b, flows := F } = getPonById o := rfl
  simp only [flowAdd, getPonById_storeFlow, hpon]
  split_ifs
  · rfl
  · simp
  · simp
  · rcases getPonById o (uint32 flow.accessIntfId) with _ | ⟨i, pon⟩
    · rfl
    · dsimp only
      rcases pon.getOnuById c (uint32 flow.onuId) with _ | ⟨j, onu⟩
      · simp
      · dsimp only
        split_ifs
        · simp
        · exact flowAddTail_congr (by simp) (by simp) (by
            rw [flowAddEvent_filter_keptByPerf, flowAddEvent_filter_keptByPerf])

end Perf

/-! ## `DeleteOnu`, then `FlowAdd` -/

section Delete

variable {c : Collaborators} {o : OltDevice} {r : Reply} {flow : Flow}

/-- An ONU's `InternalState` event keeps its ID. -/
theorem Onu.fire_id (c : Collaborators) (tx : Tx) (onu : Onu) : (onu.fire c tx).id = onu.id := by
  unfold Onu.fire
  split <;> rfl

/-- An ONU's `InternalState` event keeps its serial number. -/
theorem Onu.fire_serialNumber (c : Collaborators) (tx : Tx) (onu : Onu) :
    (onu.fire c tx).serialNumber = onu.serialNumber := by
  unfold Onu.fire
  split <;> rfl

/-- A change in place of an ONU that keeps its ID leaves the lookups by ID finding it at the same
positions, changed. -/
theorem getOnuById_modifyOnu {f : Onu → Onu} (hf : ∀ onu, (f onu).id = onu.id) {p q : UInt32}
    {i j : Nat} {pon : PonPort} {onu : Onu} (hp : getPonById o p = .ok (i, pon))
    (hq : pon.getOnuById c q = .ok (j, onu)) :
    ∃ pon', getPonById (o.modifyOnu i j f) p = .ok (i, pon') ∧
      pon'.getOnuById c q = .ok (j, f onu) := by
  obtain ⟨pon', hfind, -⟩ := findWithIdx?_of_map_eq (q := fun x => x.1 == p) rfl
    (modifyOnu_ids o i j hf) (getPonById_eq_ok_iff.mp hp)
  have hpon : pon' = { pon with onus := pon.onus.modify f j } := by
    have h' := (findWithIdx?_eq_some hfind).1
    simp only [OltDevice.modifyOnu, List.getElem?_modify, (getPonById_eq_ok hp).1] at h'
    simpa using h'.symm
  obtain ⟨onu', hfind', -⟩ := findWithIdx?_of_map_eq (g := Onu.id) (q := (· == q)) rfl
    (map_modify_of_getElem? (n := j) fun onu _ => hf onu) (getOnuById_eq_ok_iff.mp hq)
  have honu : onu' = f onu := by
    have h' := (findWithIdx?_eq_some hfind').1
    simp only [List.getElem?_modify, (findWithIdx?_eq_some (getOnuById_eq_ok_iff.mp hq)).1] at h'
    simpa using h'.symm
  subst hpon honu
  exact ⟨_, getPonById_eq_ok_iff.mpr hfind, getOnuById_eq_ok_iff.mpr hfind'⟩

/-- `FlowAdd` of an ONU flow for a disabled ONU stores the flow and returns the error that names the
ONU's state. -/
theorem flowAdd_disabled_onu (hcl : flow.classifier ≠ none) (hint : flow.accessIntfId ≠ -1)
    (hmc : flow.flowType ≠ "multicast")
    {i j : Nat} {pon : PonPort} {onu : Onu}
    (hp : getPonById o (uint32 flow.accessIntfId) = .ok (i, pon))
    (hq : pon.getOnuById c (uint32 flow.onuId) = .ok (j, onu)) (hdis : onu.internalState = .disabled) :
    flowAdd c o flow = some ⟨o.storeFlow flow, [],
      .error (.errorf ("onu-" ++ c.onuSn onu.serialNumber ++ "-is-currently-disabled"))⟩ := by
  simp only [flowAdd, getPonById_storeFlow, if_neg hcl, if_neg hint, if_neg hmc, hp, hq, hdis, or_true,
    if_true, onuStateError, OnuInternalState.current, String.append_assoc]
  rfl

/-- `DeleteOnu`, then right away an ONU flow's `FlowAdd` for the same ONU, from any device whose
port and ONU with the flow's IDs exist, where that ONU is disabled or its machine takes it to
`disabled` on `disable`. `DeleteOnu` does not panic, and `FlowAdd` refuses the flow with the error
that names the ONU's serial number and its state `disabled`: it stores the flow in the table all
the same, sends nothing, and leaves the ledgers as they were before the `DeleteOnu`. The
rediscovery that `DeleteOnu` starts on an enabled OLT and port runs in the ONU's goroutine, which is
not modelled, and may move the ONU on later. -/
theorem deleteOnu_then_flowAdd (hcl : flow.classifier ≠ none) (hint : flow.accessIntfId ≠ -1)
    (hmc : flow.flowType ≠ "multicast")
    {i j : Nat} {pon : PonPort} {onu : Onu}
    (hp : getPonById o (uint32 flow.accessIntfId) = .ok (i, pon))
    (hq : pon.getOnuById c (uint32 flow.onuId) = .ok (j, onu))
    (hdisable : onu.internalState = .disabled ∨
      c.onuTransition .disable onu.internalState = some .disabled) :
    ∃ r, deleteOnu c o (uint32 flow.accessIntfId) (uint32 flow.onuId) = some r ∧
      flowAdd c r.dev flow = some ⟨r.dev.storeFlow flow, [],
        .error (.errorf ("onu-" ++ c.onuSn onu.serialNumber ++ "-is-currently-disabled"))⟩ ∧
      (r.dev.storeFlow flow).allocIDs = o.allocIDs ∧
      (r.dev.storeFlow flow).gemPortIDs = o.gemPortIDs := by
  by_cases hst : onu.internalState = .disabled
  · refine ⟨⟨o, [], .ok ()⟩, by simp [deleteOnu, hp, hq, hst], ?_, by simp, by simp⟩
    exact flowAdd_disabled_onu hcl hint hmc hp hq hst
  · obtain ⟨pon', hp', hq'⟩ := getOnuById_modifyOnu (c := c) (f := (·.fire c .disable))
      (Onu.fire_id c .disable) hp hq
    have hdis : (onu.fire c .disable).internalState = .disabled := by
      simp only [Onu.fire, hdisable.resolve_left hst]
    refine ⟨⟨o.modifyOnu i j (·.fire c .disable), [], .ok ()⟩,
      by simp [deleteOnu, hp, hq, hst], ?_, by simp, by simp⟩
    have h := flowAdd_disabled_onu hcl hint hmc hp' hq' hdis
    rwa [Onu.fire_serialNumber] at h

/-- `DeleteOnu` of the sample ONU once it is activated and has the sample flow, then `FlowAdd` of
the sample flow again. -/
theorem deleteOnu_then_flowAdd_activated :
    ∃ o i pon j onu, activatedOlt = some o ∧ sampleFlow.classifier ≠ none ∧
      sampleFlow.accessIntfId ≠ -1 ∧
      sampleFlow.flowType ≠ "multicast" ∧
      getPonById o (uint32 sampleFlow.accessIntfId) = .ok (i, pon) ∧
      pon.getOnuById sampleCollaborators (uint32 sampleFlow.onuId) = .ok (j, onu) ∧
      (onu.internalState = .disabled ∨
        sampleCollaborators.onuTransition .disable onu.internalState = some .disabled) ∧
      ∃ r, deleteOnu sampleCollaborators o (uint32 sampleFlow.accessIntfId)
          (uint32 sampleFlow.onuId) = some r ∧
        flowAdd sampleCollaborators r.dev sampleFlow = some ⟨r.dev.storeFlow sampleFlow, [],
          .error (.errorf ("onu-" ++ sampleCollaborators.onuSn onu.serialNumber ++
            "-is-currently-disabled"))⟩ ∧
        (r.dev.storeFlow sampleFlow).allocIDs = o.allocIDs ∧
        (r.dev.storeFlow sampleFlow).gemPortIDs = o.gemPortIDs := by
  have hcl : sampleFlow.classifier ≠ none := by decide
  have hint : sampleFlow.accessIntfId ≠ -1 := by decide
  have hmc : sampleFlow.flowType ≠ "multicast" := by decide
  exact ⟨_, _, _, _, _, rfl, hcl, hint, hmc, rfl, rfl, .inr rfl,
    deleteOnu_then_flowAdd hcl hint hmc (show getPonById _ _ = .ok (0, _) from rfl)
      (show PonPort.getOnuById _ _ _ = .ok (0, _) from rfl) (.inr rfl)⟩

end Delete

/-! ## The flow keys of an ONU over a run of `FlowAdd`s -/

/-- An ONU flow, neither an OLT flow nor multicast, for the PON port `p` and the ONU `q` by the IDs
the request gives. -/
def Flow.addresses (flow : Flow) (p q : UInt32) : Bool :=
  flow.accessIntfId != -1 && flow.flowType != "multicast" && uint32 flow.accessIntfId == p &&
    uint32 flow.onuId == q

section Keys

variable {c : Collaborators} {o : OltDevice} {p q : UInt32} {i j : Nat} {pon : PonPort} {onu : Onu}

/-- `GetPonById` reads the ports only. -/
theorem getPonById_congr {o' : OltDevice} (h : o'.pons = o.pons) {x : Nat × PonPort} :
    getPonById o' p = .ok x ↔ getPonById o p = .ok x := by
  rw [getPonById_eq_ok_iff, getPonById_eq_ok_iff, h]

/-- A change in place of an ONU that keeps every ONU's ID leaves the lookups by ID finding the
same positions; the ONU they find is the changed one when the change is at its position. -/
theorem lookup_modifyOnu {g : Onu → Onu} (hg : ∀ onu, (g onu).id = onu.id) (i' j' : Nat)
    (hp : getPonById o p = .ok (i, pon)) (hq : pon.getOnuById c q = .ok (j, onu)) :
    ∃ pon', getPonById (o.modifyOnu i' j' g) p = .ok (i, pon') ∧
      pon'.getOnuById c q = .ok (j, if i' = i ∧ j' = j then g onu else onu) := by
  obtain ⟨pon', hfind, hids⟩ := findWithIdx?_of_map_eq (q := fun x => x.1 == p) rfl
    (modifyOnu_ids o i' j' hg) (getPonById_eq_ok_iff.mp hp)
  have hpon' : pon' = if i' = i then { pon with onus := pon.onus.modify g j' } else pon := by
    have h' := (findWithIdx?_eq_some hfind).1
    simp only [OltDevice.modifyOnu, List.getElem?_modify, (getPonById_eq_ok hp).1] at h'
    split_ifs at h' ⊢ <;> simpa using h'.symm
  obtain ⟨onu', hfind', -⟩ := findWithIdx?_of_map_eq (g := Onu.id) (q := (· == q)) rfl
    (congrArg Prod.snd hids) (getOnuById_eq_ok_iff.mp hq)
  have honu' : onu' = if i' = i ∧ j' = j then g onu else onu := by
    have h' := (findWithIdx?_eq_some hfind').1
    have hj := (findWithIdx?_eq_some (getOnuById_eq_ok_iff.mp hq)).1
    subst hpon'
    by_cases hi : i' = i <;> simp only [hi, if_true, if_false, true_and, false_and] at h' ⊢
    · simp only [List.getElem?_modify, hj] at h'
      split_ifs at h' ⊢ <;> simpa using h'.symm
    · simpa [hj] using h'.symm
  exact ⟨pon', getPonById_eq_ok_iff.mpr hfind, getOnuById_eq_ok_iff.mpr (honu' ▸ hfind')⟩

/-- A flow addresses the PON port and the ONU with its own IDs. -/
theorem Flow.addresses_ids {flow : Flow} (ha : flow.addresses p q = true) :
    uint32 flow.accessIntfId = p ∧ uint32 flow.onuId = q := by
  simp only [Flow.addresses, Bool.and_eq_true, beq_iff_eq] at ha
  exact ⟨ha.1.2, ha.2⟩

/-- A `FlowAdd` that reaches the ONU found at `(i', j')` addresses the ONU that `(p, q)` find
exactly when it reaches the same position. -/
theorem addresses_iff {flow : Flow} (h1 : flow.accessIntfId ≠ -1)
    (h2 : flow.flowType ≠ "multicast") {i' j' : Nat} {pon' : PonPort} {onu' : Onu}
    (hp' : getPonById o (uint32 flow.accessIntfId) = .ok (i', pon'))
    (hq' : pon'.getOnuById c (uint32 flow.onuId) = .ok (j', onu'))
    (hp : getPonById o p = .ok (i, pon)) (hq : pon.getOnuById c q = .ok (j, onu)) :
    flow.addresses p q = true ↔ i' = i ∧ j' = j := by
  constructor
  · intro ha
    obtain ⟨rfl, rfl⟩ := Flow.addresses_ids ha
    rw [hp] at hp'
    cases hp'
    rw [hq] at hq'
    cases hq'
    exact ⟨rfl, rfl⟩
  · rintro ⟨rfl, rfl⟩
    obtain ⟨hi', hid'⟩ := getPonById_eq_ok hp'
    obtain ⟨hi, hid⟩ := getPonById_eq_ok hp
    obtain rfl : pon' = pon := Option.some.inj (hi'.symm.trans hi)
    obtain ⟨hj', hqid'⟩ := findWithIdx?_eq_some (getOnuById_eq_ok_iff.mp hq')
    obtain ⟨hj, hqid⟩ := findWithIdx?_eq_some (getOnuById_eq_ok_iff.mp hq)
    obtain rfl : onu' = onu := Option.some.inj (hj'.symm.trans hj)
    simp only [Flow.addresses, Bool.and_eq_true, bne_iff_ne, ne_eq, beq_iff_eq]
    exact ⟨⟨⟨h1, h2⟩, hid'.symm.trans hid⟩,
      (beq_iff_eq.mp hqid').symm.trans (beq_iff_eq.mp hqid)⟩

/-- One `FlowAdd`, with `enablePerf` off, beside the ONU that `GetPonById(p)` and `GetOnuById(q)`
find, neither disabled nor pon-disabled: the lookups find it again at its position, in its state,
and its flow list has grown by the flow's key exactly when the flow addresses it. -/
theorem flowAdd_flow_keys (hperf : o.enablePerf = false) (hp : getPonById o p = .ok (i, pon))
    (hq : pon.getOnuById c q = .ok (j, onu))
    (hready : ¬ (onu.internalState = .ponDisabled ∨ onu.internalState = .disabled))
    {flow : Flow} {r : Reply} (h : flowAdd c o flow = some r) :
    r.dev.enablePerf = false ∧ ∃ pon' onu', getPonById r.dev p = .ok (i, pon') ∧
      pon'.getOnuById c q = .ok (j, onu') ∧ onu'.internalState = onu.internalState ∧
      onu'.flows = onu.flows ++ if flow.addresses p q then [⟨flow.flowId⟩] else [] := by
  refine ⟨(flowAdd_dev h).2.2.trans hperf, ?_⟩
  -- a `FlowAdd` that does not reach the ONU's list leaves the ports as they were
  have hsame (hpons : r.dev.pons = o.pons) (hna : flow.addresses p q = false) :
      ∃ pon' onu', getPonById r.dev p = .ok (i, pon') ∧ pon'.getOnuById c q = .ok (j, onu') ∧
        onu'.internalState = onu.internalState ∧
        onu'.flows = onu.flows ++ if flow.addresses p q then [⟨flow.flowId⟩] else [] :=
    ⟨pon, onu, (getPonById_congr hpons).mpr hp, hq, rfl, by simp [hna]⟩
  rcases flowAdd_cases h with ⟨hk, rfl⟩ | ⟨h1, h2, i', pon', hp', hrest⟩
  · refine hsame (storeFlow_pons ..) ?_
    rcases hk with hk | hk <;> simp [Flow.addresses, hk]
  rcases hrest with ⟨e, hq', rfl⟩ | ⟨j', onu', hq', ⟨hdis, rfl⟩ | ⟨hrdy, ht⟩⟩
  · refine hsame (storeFlow_pons ..) (Bool.eq_false_iff.mpr fun ha => ?_)
    obtain ⟨rfl, rfl⟩ := Flow.addresses_ids ha
    rw [hp] at hp'
    cases hp'
    rw [hq] at hq'
    cases hq'
  · refine hsame (storeFlow_pons ..) (Bool.eq_false_iff.mpr fun ha => hready ?_)
    obtain ⟨rfl, rfl⟩ := Flow.addresses_ids ha
    rw [hp] at hp'
    cases hp'
    rw [hq] at hq'
    cases hq'
    exact hdis
  · have hpons := (flowAdd_appends_flow_key hperf h1 h2 hp' hq' (not_or.mp hrdy) h).2
    obtain ⟨pon'', hp'', hq''⟩ := lookup_modifyOnu
      (g := fun onu => { onu with flows := onu.flows ++ [⟨flow.flowId⟩] }) (fun _ => rfl) i' j' hp hq
    have hiff := addresses_iff h1 h2 hp' hq' hp hq
    refine ⟨pon'', _, (getPonById_congr hpons).mpr hp'', hq'', by split_ifs <;> rfl, ?_⟩
    by_cases hij : i' = i ∧ j' = j
    · rw [if_pos hij, if_pos (hiff.mpr hij)]
    · rw [if_neg hij, if_neg (mt hiff.mp hij), List.append_nil]

/-- A run of `FlowAdd`s, with `enablePerf` off, beside the ONU that `GetPonById(p)` and
`GetOnuById(q)` find, neither disabled nor pon-disabled: at the end the lookups find it at the same
position and in the same state, and each key occurs in its flow list as often as it did before, and
once more for every `FlowAdd` of the run that addresses the ONU with that key, accepted or not. -/
theorem runOps_flowAdds_flow_keys :
    ∀ (flows : List Flow) {o o' : OltDevice} {pon : PonPort} {onu : Onu},
      o.enablePerf = false → getPonById o p = .ok (i, pon) → pon.getOnuById c q = .ok (j, onu) →
      ¬ (onu.internalState = .ponDisabled ∨ onu.internalState = .disabled) →
      runOps c o (flows.map fun f => .rpc (.flowAdd f)) = some o' →
      ∃ pon' onu', getPonById o' p = .ok (i, pon') ∧ pon'.getOnuById c q = .ok (j, onu') ∧
        onu'.internalState = onu.internalState ∧
        ∀ k, onu'.flows.count k =
          onu.flows.count k + flows.countP fun f => f.addresses p q && (⟨f.flowId⟩ : FlowKey) == k
  | [], _, _, pon, onu, _, hp, hq, _, h => by
    cases h
    exact ⟨pon, onu, hp, hq, rfl, fun k => by simp⟩
  | f :: flows, _, _, _, _, hperf, hp, hq, hready, h => by
    obtain ⟨r, hr, h⟩ := Option.bind_eq_some.mp h
    obtain ⟨hperf', pon₁, onu₁, hp₁, hq₁, hst₁, hfl₁⟩ := flowAdd_flow_keys hperf hp hq hready hr
    obtain ⟨pon', onu', hp', hq', hst', hcount⟩ :=
      runOps_flowAdds_flow_keys flows hperf' hp₁ hq₁ (hst₁ ▸ hready) h
    refine ⟨pon', onu', hp', hq', hst'.trans hst₁, fun k => ?_⟩
    rw [hcount, hfl₁, List.count_append, List.countP_cons]
    by_cases ha : f.addresses p q <;> by_cases hk : (⟨f.flowId⟩ : FlowKey) = k <;>
      simp +arith [ha, hk, List.count_cons]

end Keys

/-- Adding the sample flow twice to the activated ONU, whose list holds its key once already. -/
theorem runOps_flowAdds_flow_keys_activated :
    ∃ o o' pon onu, activatedOlt = some o ∧ o.enablePerf = false ∧
      getPonById o 0 = .ok (0, pon) ∧ pon.getOnuById sampleCollaborators 1 = .ok (0, onu) ∧
      ¬ (onu.internalState = .ponDisabled ∨ onu.internalState = .disabled) ∧
      runOps sampleCollaborators o ([sampleFlow, sampleFlow].map fun f => .rpc (.flowAdd f)) =
        some o' ∧
      ∃ pon' onu', getPonById o' 0 = .ok (0, pon') ∧
        pon'.getOnuById sampleCollaborators 1 = .ok (0, onu') ∧
        onu'.internalState = onu.internalState ∧
        ∀ k, onu'.flows.count k = onu.flows.count k +
          [sampleFlow, sampleFlow].countP fun f => f.addresses 0 1 && (⟨f.flowId⟩ : FlowKey) == k := by
  obtain ⟨o, o', pon, onu, ho, hperf, hp, hq, hready, h⟩ : ∃ o o' pon onu, activatedOlt = some o ∧
      o.enablePerf = false ∧ getPonById o 0 = .ok (0, pon) ∧
      pon.getOnuById sampleCollaborators 1 = .ok (0, onu) ∧
      ¬ (onu.internalState = .ponDisabled ∨ onu.internalState = .disabled) ∧
      runOps sampleCollaborators o ([sampleFlow, sampleFlow].map fun f => .rpc (.flowAdd f)) =
        some o' := ⟨_, _, _, _, rfl, rfl, rfl, rfl, by decide, rfl⟩
  exact ⟨o, o', pon, onu, ho, hperf, hp, hq, hready, h,
    runOps_flowAdds_flow_keys _ hperf hp hq hready h⟩

end Bbsim
