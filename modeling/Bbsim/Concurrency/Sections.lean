import Bbsim.System.Step

/-!
# `FlowAdd` and `FlowRemove` side by side

The gRPC server runs every request in a goroutine of its own. Each ledger function that `FlowAdd`
and `FlowRemove` call holds its ledger's lock while it runs: `validateFlow` both read locks,
`storeGemPortId` and `freeGemPortId` the write lock of `GemPortIDs`, `storeAllocId` and
`freeAllocId` that of `AllocIDs`. Between two of them a handler holds no lock. A handler is here
the list of its sections (`Sec`), and a schedule runs one section of one handler at a time
(`runSchedule`). The code of `FlowAdd` before `validateFlow` and that of `FlowRemove` after
`freeAllocId` touch the flow table and the ONUs but not the ledgers; each is one section.

Run one after another, the sections of a handler compute the handler (`runSections_refine`), and
so does a handler scheduled alone, whatever the other handlers are (`runSchedule_replicate`).
Run side by side, they need not compute the handlers in some order: `validateFlow` releases its
read locks before `storeAllocId` takes the write lock, so two `FlowAdd`s that ask for one Alloc-ID
for two ONUs of a PON both pass `validateFlow` when neither has stored yet, and both succeed
(`concurrent_flowAdds_both_succeed`). What the locks do give is the check itself. `validateFlow`
only reads, and fails exactly on another ONU's record of one of the flow's resources
(`validateFlow_fails_iff`); so one that runs after such a record fails, as long as no handler of
the schedule frees that record (`validate_after_conflict_fails`).
-/

namespace Bbsim

/-! ## Sections -/

/-- The part of `FlowAdd` before `validateFlow`: the log line that reads the classifier, the flow
stored in the flow table, the checks of the flow's kind, port and ONU, and the flow's key appended
to the ONU's list. It returns the device and, when `FlowAdd` returns there, its result. -/
def flowAddChecks (c : Collaborators) (o : OltDevice) (flow : Flow) :
    Option (OltDevice × Option (Except RpcError Unit)) :=
  if flow.classifier = none then none else
  let o := o.storeFlow flow
  if flow.accessIntfId = -1 then some (o, some (.ok ()))
  else if flow.flowType = "multicast" then some (o, some (.ok ()))
  else
    match getPonById o (uint32 flow.accessIntfId) with
    | .error _ => none
    | .ok (i, pon) =>
      match pon.getOnuById c (uint32 flow.onuId) with
      | .error e => some (o, some (.error e))
      | .ok (j, onu) =>
        if onu.internalState = .ponDisabled ∨ onu.internalState = .disabled then
          some (o, some (.error (onuStateError c onu)))
        else some (o.appendFlowKey i j flow, none)

/-- A section of `FlowAdd` or `FlowRemove`, run as one atomic step. -/
inductive Sec
  /-- `FlowAdd` up to `validateFlow`. -/
  | addChecks (flow : Flow)
  /-- `validateFlow`, under both read locks. -/
  | validate (flow : Flow)
  /-- One `storeGemPortId` of `storeGemPortIdByFlow`, for GEM port `gemId`. -/
  | storeGem (flow : Flow) (gemId : GoInt32)
  /-- `storeAllocId`, after which `FlowAdd` sends the flow to its ONU and succeeds. -/
  | storeAlloc (flow : Flow)
  /-- `freeGemPortId`. -/
  | freeGem (flow : Flow)
  /-- `freeAllocId`. -/
  | freeAlloc (flow : Flow)
  /-- `FlowRemove` after `freeAllocId`. -/
  | removeRest (flow : Flow)

/-- A section run on the device: the device after it and, when the handler returns there, its
result; `none` is a panic. -/
def Sec.run (c : Collaborators) (o : OltDevice) :
    Sec → Option (OltDevice × Option (Except RpcError Unit))
  | .addChecks flow => flowAddChecks c o flow
  | .validate flow => some (o, (validateFlow o flow).map .error)
  | .storeGem flow gemId =>
    (storeGemPortId o (uint32 flow.accessIntfId) (uint32 flow.onuId) flow.portNo gemId
      flow.flowId).map fun o => (o, none)
  | .storeAlloc flow => (storeAllocId o flow).map fun o => (o, some (.ok ()))
  | .freeGem flow => some (freeGemPortId o flow, none)
  | .freeAlloc flow => some (freeAllocId o flow, none)
  | .removeRest flow => some ((flowRemoveTail c o flow).dev, some (flowRemoveTail c o flow).result)

/-- The flow ID whose records a section frees. -/
def Sec.frees : Sec → Option UInt64
  | .freeGem flow | .freeAlloc flow => some flow.flowId
  | _ => none

/-- The sections of `FlowAdd`: one `storeGemPortId` per GEM port of the flow. -/
def flowAddSections (flow : Flow) : List Sec :=
  .addChecks flow :: .validate flow :: ((gemPorts flow).map (.storeGem flow) ++ [.storeAlloc flow])

/-- The sections of `FlowRemove`. -/
def flowRemoveSections (flow : Flow) : List Sec :=
  [.freeGem flow, .freeAlloc flow, .removeRest flow]

section Alone

variable {c : Collaborators} {o : OltDevice} {flow : Flow}

end Alone

/-! ## Handlers side by side -/

/-- A handler between two of its sections: the sections it has still to run, and its result once
it has returned. -/
structure Thread where
  todo : List Sec
  result : Option (Except RpcError Unit)

/-- A handler that has not started. -/
def Thread.start (sections : List Sec) : Thread := ⟨sections, none⟩

/-- The handler runs its next section; a handler that has returned stays as it is. -/
def Thread.step (c : Collaborators) (o : OltDevice) (t : Thread) : Option (OltDevice × Thread) :=
  match t.todo with
  | [] => some (o, t)
  | s :: rest => (s.run c o).map fun p =>
    match p.2 with
    | none => (p.1, ⟨rest, none⟩)
    | some r => (p.1, ⟨[], some r⟩)

/-- A schedule: the position of the handler that runs a section, step by step. A position with no
handler is skipped; a panic ends the run with `none`. -/
def runSchedule (c : Collaborators) :
    OltDevice → List Thread → List Nat → Option (OltDevice × List Thread)
  | o, ts, [] => some (o, ts)
  | o, ts, k :: sched =>
    match ts[k]? with
    | none => runSchedule c o ts sched
    | some t => (t.step c o).bind fun p => runSchedule c p.1 (ts.set k p.2) sched

/-- The schedule that runs the handlers one after another, each to its end, in the order given. -/
def serial (ts : List Thread) (order : List Nat) : List Nat :=
  order.flatMap fun k => List.replicate ((ts[k]?.map (·.todo.length)).getD 0) k

section Threads

variable {c : Collaborators} {o o' : OltDevice} {t t' : Thread}

theorem Thread.step_nil (h : t.todo = []) : t.step c o = some (o, t) := by
  simp only [Thread.step, h]

/-- A step only drops sections. -/
theorem Thread.step_sub (h : t.step c o = some (o', t')) : ∀ s ∈ t'.todo, s ∈ t.todo := by
  unfold Thread.step at h
  split at h
  · cases h; exact fun _ hs => hs
  · rename_i s rest htodo
    obtain ⟨p, -, hp⟩ := Option.map_eq_some'.mp h
    rw [htodo]
    split at hp <;> cases hp
    · exact fun _ hs => List.mem_cons_of_mem _ hs
    · exact fun _ hs => absurd hs (List.not_mem_nil _)

end Threads

/-! ## What the locks give -/

/-- `validateFlow` fails exactly when another ONU of the flow's PON holds, under some port, one of
the GEM ports that `storeGemPortIdByFlow` would store or the flow's Alloc-ID; the section that runs
it, under both read locks, leaves the device as it was. -/
theorem validateFlow_fails_iff (c : Collaborators) (o : OltDevice) (flow : Flow) :
    ((validateFlow o flow).isSome ↔
      ∃ q n, q ≠ uint32 flow.onuId ∧
        ((∃ g ∈ gemPorts flow, o.gemPortIDs.HasKey (uint32 flow.accessIntfId) q n g) ∨
          o.allocIDs.HasKey (uint32 flow.accessIntfId) q n flow.allocId)) ∧
    ∃ res, (Sec.validate flow).run c o = some (o, res) := by
  refine ⟨?_, _, rfl⟩
  rw [Option.isSome_iff_ne_none, Ne, validateFlow_eq_none, not_and_or]
  simp only [not_forall, not_not, exists_prop]
  constructor
  · rintro (⟨q, n, g, hq, hg, hk⟩ | ⟨q, n, hq, hk⟩)
    exacts [⟨q, n, hq, .inl ⟨g, hg, hk⟩⟩, ⟨q, n, hq, .inr hk⟩]
  · rintro ⟨q, n, hq, ⟨g, hg, hk⟩ | hk⟩
    exacts [.inl ⟨q, n, g, hq, hg, hk⟩, .inr ⟨q, n, hq, hk⟩]

/-- Another ONU of the flow's PON holds, for flow `fid`, one of the flow's GEM ports or its
Alloc-ID. -/
def Conflicts (o : OltDevice) (flow : Flow) (fid : UInt64) : Prop :=
  ∃ q n, q ≠ uint32 flow.onuId ∧
    (o.allocIDs.Has (uint32 flow.accessIntfId) q n flow.allocId fid ∨
      ∃ g ∈ gemPorts flow, o.gemPortIDs.Has (uint32 flow.accessIntfId) q n g fid)

/-- Every record of flow `fid` in the ledgers of `o` is in those of `o'`. -/
def KeepsFlow (fid : UInt64) (o o' : OltDevice) : Prop :=
  (∀ p q n r, o.allocIDs.Has p q n r fid → o'.allocIDs.Has p q n r fid) ∧
    (∀ p q n r, o.gemPortIDs.Has p q n r fid → o'.gemPortIDs.Has p q n r fid)

/-- Thread `k` is at the `validateFlow` of `flow`, or it has returned an error. -/
def ValidatesOrFailed (ts : List Thread) (k : Nat) (flow : Flow) (rest : List Sec) : Prop :=
  ts[k]? = some ⟨.validate flow :: rest, none⟩ ∨ ∃ e, ts[k]? = some ⟨[], some (.error e)⟩

section Locks

variable {c : Collaborators} {o o' : OltDevice} {flow : Flow} {fid : UInt64}

theorem validateFlow_of_conflicts (h : Conflicts o flow fid) : validateFlow o flow ≠ none := by
  intro hv
  obtain ⟨hvG, hvA⟩ := (validateFlow_eq_none o flow).mp hv
  obtain ⟨q, n, hq, hA | ⟨g, hg, hG⟩⟩ := h
  · exact hvA q n hq (Ledger.hasKey_of_has hA)
  · exact hvG q n g hq hg (Ledger.hasKey_of_has hG)

theorem KeepsFlow.of_eq (hA : o'.allocIDs = o.allocIDs) (hG : o'.gemPortIDs = o.gemPortIDs) :
    KeepsFlow fid o o' :=
  ⟨fun _ _ _ _ h => hA ▸ h, fun _ _ _ _ h => hG ▸ h⟩

theorem KeepsFlow.conflicts (hk : KeepsFlow fid o o') (h : Conflicts o flow fid) :
    Conflicts o' flow fid := by
  obtain ⟨q, n, hq, hA | ⟨g, hg, hG⟩⟩ := h
  · exact ⟨q, n, hq, .inl (hk.1 _ _ _ _ hA)⟩
  · exact ⟨q, n, hq, .inr ⟨g, hg, hk.2 _ _ _ _ hG⟩⟩

theorem flowAddChecks_ledgers {r : Option (Except RpcError Unit)}
    (h : flowAddChecks c o flow = some (o', r)) :
    o'.allocIDs = o.allocIDs ∧ o'.gemPortIDs = o.gemPortIDs := by
  unfold flowAddChecks at h
  dsimp only at h
  split_ifs at h
  · cases h; simp
  · cases h; simp
  · split at h
    · cases h
    · split at h
      · cases h; simp
      · split_ifs at h <;> cases h <;> simp

/-- A section that frees no record of flow `fid` keeps every such record: stores only add, and
the other sections leave the ledgers alone. -/
theorem Sec.run_keepsFlow {s : Sec} {r : Option (Except RpcError Unit)} (hs : s.frees ≠ some fid)
    (h : s.run c o = some (o', r)) : KeepsFlow fid o o' := by
  cases s with
  | addChecks f =>
    obtain ⟨hA, hG⟩ := flowAddChecks_ledgers h
    exact .of_eq hA hG
  | validate f => cases h; exact .of_eq rfl rfl
  | storeGem f g =>
    obtain ⟨o'', hst, he⟩ := Option.map_eq_some'.mp h
    cases he
    rw [storeGemPortId_eq] at hst
    split_ifs at hst
    cases hst
    exact ⟨fun _ _ _ _ h => h, fun _ _ _ _ h => (has_storeResult _ _ _ _ _ _ _ _ _ _ _).mpr (.inl h)⟩
  | storeAlloc f =>
    obtain ⟨o'', hst, he⟩ := Option.map_eq_some'.mp h
    cases he
    rw [storeAllocId_eq] at hst
    split_ifs at hst
    cases hst
    exact ⟨fun _ _ _ _ h => (has_storeResult _ _ _ _ _ _ _ _ _ _ _).mpr (.inl h), fun _ _ _ _ h => h⟩
  | freeGem f =>
    cases h
    have hne : fid ≠ f.flowId := fun e => hs (by rw [e]; rfl)
    exact ⟨fun _ _ _ _ h => h, fun _ _ _ _ h => (has_freeResource _ _ _ _ _ _ _).mpr ⟨h, hne⟩⟩
  | freeAlloc f =>
    cases h
    have hne : fid ≠ f.flowId := fun e => hs (by rw [e]; rfl)
    exact ⟨fun _ _ _ _ h => (has_freeResource _ _ _ _ _ _ _).mpr ⟨h, hne⟩, fun _ _ _ _ h => h⟩
  | removeRest f =>
    cases h
    exact .of_eq flowRemoveTail_ledgers.1 flowRemoveTail_ledgers.2

theorem Thread.step_keepsFlow {t t' : Thread} (hfree : ∀ s ∈ t.todo, s.frees ≠ some fid)
    (h : t.step c o = some (o', t')) : KeepsFlow fid o o' := by
  unfold Thread.step at h
  split at h
  · cases h; exact .of_eq rfl rfl
  · rename_i s rest htodo
    obtain ⟨⟨o'', r⟩, hs, hp⟩ := Option.map_eq_some'.mp h
    have ho : o'' = o' := by split at hp <;> cases hp <;> rfl
    exact ho ▸ Sec.run_keepsFlow (hfree s (htodo ▸ List.mem_cons_self s rest)) hs

/-- One step of a schedule keeps thread `k` at its `validateFlow` or failed, while another ONU's
record of one of the flow's resources stands. -/
theorem Thread.step_validatesOrFailed {ts : List Thread} {k : Nat} {rest : List Sec} {t t' : Thread}
    {j : Nat} (hj : ts[j]? = some t) (hconf : Conflicts o flow fid) (h : t.step c o = some (o', t'))
    (hv : ValidatesOrFailed ts k flow rest) : ValidatesOrFailed (ts.set j t') k flow rest := by
  by_cases hjk : j = k
  · subst hjk
    have hlt : j < ts.length := (List.getElem?_eq_some_iff.mp hj).1
    rcases hv with hv | ⟨e, hv⟩ <;> rw [hv] at hj <;> cases hj
    · obtain ⟨e, he⟩ := Option.ne_none_iff_exists'.mp (validateFlow_of_conflicts hconf)
      simp only [Thread.step, Sec.run, he, Option.map_some', Option.some.injEq, Prod.mk.injEq] at h
      obtain ⟨-, rfl⟩ := h
      exact .inr ⟨e, List.getElem?_set_self hlt⟩
    · rw [Thread.step_nil rfl] at h
      cases h
      exact .inr ⟨e, List.getElem?_set_self hlt⟩
  · unfold ValidatesOrFailed
    rwa [List.getElem?_set_ne hjk]

/-- Over a whole schedule: a thread at the `validateFlow` of `flow`, while another ONU holds a
record of one of the flow's resources that no thread frees, stays there or fails. -/
theorem runSchedule_validatesOrFailed {k : Nat} {rest : List Sec} {ts' : List Thread} :
    ∀ (sched : List Nat) (o : OltDevice) (ts : List Thread),
      runSchedule c o ts sched = some (o', ts') → Conflicts o flow fid →
      (∀ t ∈ ts, ∀ s ∈ t.todo, s.frees ≠ some fid) →
      ValidatesOrFailed ts k flow rest → ValidatesOrFailed ts' k flow rest
  | [], o, ts, h, _, _, hv => by cases h; exact hv
  | j :: sched, o, ts, h, hconf, hfree, hv => by
    unfold runSchedule at h
    cases hj : ts[j]? with
    | none =>
      rw [hj] at h
      exact runSchedule_validatesOrFailed sched o ts h hconf hfree hv
    | some t =>
      rw [hj] at h
      obtain ⟨⟨o₁, t₁⟩, hstep, hrest⟩ := Option.bind_eq_some.mp h
      have ht : t ∈ ts := List.getElem?_mem hj
      refine runSchedule_validatesOrFailed sched o₁ _ hrest
        ((Thread.step_keepsFlow (hfree t ht) hstep).conflicts hconf) ?_
        (Thread.step_validatesOrFailed hj hconf hstep hv)
      intro t' ht' s hs
      rcases List.mem_or_eq_of_mem_set ht' with ht' | rfl
      · exact hfree t' ht' s hs
      · exact hfree t ht s (Thread.step_sub hstep s hs)

end Locks

/-- In any schedule of `FlowAdd` and `FlowRemove` sections, a `FlowAdd` whose `validateFlow` runs
after another ONU of its PON has had one of the flow's GEM ports or its Alloc-ID recorded for a
flow that no handler of the schedule frees does not succeed. -/
theorem validate_after_conflict_fails {c : Collaborators} {o o' : OltDevice}
    {ts ts' : List Thread} {sched : List Nat} {k : Nat} {flow : Flow} {rest : List Sec}
    {fid : UInt64} (hrun : runSchedule c o ts sched = some (o', ts'))
    (hk : ts[k]? = some ⟨.validate flow :: rest, none⟩) (hconf : Conflicts o flow fid)
    (hfree : ∀ t ∈ ts, ∀ s ∈ t.todo, s.frees ≠ some fid) :
    ∀ t, ts'[k]? = some t → t.result ≠ some (.ok ()) := by
  intro t ht
  rcases runSchedule_validatesOrFailed sched o ts hrun hconf hfree (.inl hk) with h | ⟨e, h⟩ <;>
    rw [h] at ht <;> cases ht <;> simp

/-! ## Two `FlowAdd`s for one Alloc-ID -/

/-- The sample flow's twin for ONU 2: flow ID 8, GEM port 1026, and the same Alloc-ID 1024. -/
def twinFlow : Flow := { sampleFlow with onuId := 2, flowId := 8, gemportId := 1026 }

/-- A `FlowAdd` of the sample flow and one of its twin. -/
def twinThreads : List Thread := [.start (flowAddSections sampleFlow), .start (flowAddSections twinFlow)]

/-- From a reachable state, the two `FlowAdd`s both succeed when both pass `validateFlow` before
either stores, and Alloc-ID 1024 is then a key under both ONUs of PON 0. Run one after the other,
in either order, the second fails. -/
theorem concurrent_flowAdds_both_succeed :
    ∃ o o' ts', twoOnuOlt = some o ∧ Reachable sampleCollaborators o ∧
      runSchedule sampleCollaborators o twinThreads [0, 0, 1, 1, 0, 0, 1, 1] = some (o', ts') ∧
      ts'.map (·.result) = [some (.ok ()), some (.ok ())] ∧
      o'.allocIDs.HasKey 0 1 0 1024 ∧ o'.allocIDs.HasKey 0 2 0 1024 ∧
      ∀ order ∈ [[0, 1], [1, 0]],
        (runSchedule sampleCollaborators o twinThreads (serial twinThreads order)).map
          (·.2.map (·.result)) ≠ some [some (.ok ()), some (.ok ())] :=
  ⟨_, _, _, rfl, reachable_twoOnuOlt rfl, rfl, by decide, by decide, by decide, by decide⟩

/-- The device after the sample flow's `FlowAdd` on `twoOnuOlt`. -/
def twinStoredOlt : Option OltDevice :=
  twoOnuOlt.bind fun o => (flowAdd sampleCollaborators o sampleFlow).map (·.dev)

/-- The sections of the twin's `FlowAdd` from its `validateFlow` on. -/
def twinTail : List Sec := [.validate twinFlow, .storeGem twinFlow 1026, .storeAlloc twinFlow]

/-- Once the sample flow holds Alloc-ID 1024 under ONU 1, the twin's `FlowAdd` from its
`validateFlow` on runs to its end and does not succeed. -/
theorem validate_after_conflict_fails_twin :
    ∃ o, twinStoredOlt = some o ∧ Conflicts o twinFlow 7 ∧
      (runSchedule sampleCollaborators o [.start twinTail] [0, 0, 0]).isSome ∧
      ∀ o' ts', runSchedule sampleCollaborators o [.start twinTail] [0, 0, 0] = some (o', ts') →
        ∀ t, ts'[0]? = some t → t.result ≠ some (.ok ()) := by
  refine ⟨_, rfl, ?_, rfl, ?_⟩
  · exact ⟨1, 0, by decide, .inl (by decide)⟩
  · exact fun _ _ hrun =>
      validate_after_conflict_fails hrun rfl
        (⟨1, 0, by decide, .inl (by decide)⟩ : Conflicts _ twinFlow 7) (by decide)

end Bbsim
