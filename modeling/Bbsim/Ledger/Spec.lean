import Bbsim.Devices.Ledger

/-!
# What the ledger functions do to the recorded tuples

Each function of `Devices/Ledger.lean` gets one lemma that states its effect on the ledger's
meaning: the resources under a port (`Ledger.port`), the flows under a resource
(`Ledger.flowsAt`), and so `Ledger.Has` and `Ledger.HasKey`. `storeResource` adds one tuple and
panics exactly on a missing ONU map (`storeResource_eq_some`, `storeResource_eq_none`);
`freeResource` removes the flow's tuples and the resources left without a flow
(`lookup_freeInPort`, `port_freeResource`), which on a ledger whose resources all have a flow is
the spec's `free` (`Ledger.FlowSetsNonempty.freedOf`); `validateFlow` fails exactly on a resource
of the flow that another ONU of its PON holds (`validateFlow_eq_none`).

The loops of `free` delete from the maps they iterate. The proof follows the value under one key
through the innermost loop (`freeVisit`), then lifts it to the whole port by induction over the
entries, whose keys are distinct.
-/

namespace Bbsim

/-! ## Storing -/

/-- What `storeResource` builds when the ONU's map exists. -/
def storeResult (L : Ledger) (p o n : UInt32) (r : GoInt32) (fid : UInt64) : Ledger :=
  let ports := (L.get p).get o
  L.set p ((L.get p).set o (ports.set n ((ports.get n).set r (((ports.get n).get r).set fid true))))

/-- `storeResource` panics exactly when the ONU's map is missing, and otherwise builds
`storeResult`. -/
theorem storeResource_eq (L : Ledger) (p o n : UInt32) (r : GoInt32) (fid : UInt64) :
    storeResource L p o n r fid =
      if L.HasOnu p o then some (storeResult L p o n r fid) else none := by
  unfold storeResource storeResult Ledger.HasOnu
  cases hp : L.lookup p with
  | none => simp [GoMap.update?_of_lookup_none _ hp, GoMap.get_of_lookup_none hp]
  | some onus =>
    simp only [GoMap.update?_of_lookup _ hp, GoMap.get_of_lookup hp]
    cases ho : onus.lookup o with
    | none => simp [GoMap.update?_of_lookup_none _ ho]
    | some ports => simp [GoMap.update?_of_lookup _ ho, GoMap.get_of_lookup ho]

theorem storeResource_eq_some {L L' : Ledger} {p o n : UInt32} {r : GoInt32} {fid : UInt64} :
    storeResource L p o n r fid = some L' ↔ L.HasOnu p o ∧ storeResult L p o n r fid = L' := by
  rw [storeResource_eq]
  split_ifs with h <;> simp [h]

theorem storeResource_eq_none {L : Ledger} {p o n : UInt32} {r : GoInt32} {fid : UInt64} :
    storeResource L p o n r fid = none ↔ ¬ L.HasOnu p o := by
  rw [storeResource_eq]
  split_ifs with h <;> simp [h]

theorem port_storeResult (L : Ledger) (p o n : UInt32) (r : GoInt32) (fid : UInt64)
    (p' o' n' : UInt32) :
    (storeResult L p o n r fid).port p' o' n' =
      if p' = p ∧ o' = o ∧ n' = n then (L.port p o n).set r ((L.flowsAt p o n r).set fid true)
      else L.port p' o' n' := by
  unfold storeResult Ledger.flowsAt Ledger.port
  by_cases hp : p' = p
  · subst hp
    by_cases ho : o' = o
    · subst ho
      by_cases hn : n' = n
      · subst hn; simp
      · simp [hn]
    · simp [ho]
  · simp [hp]

theorem hasKey_storeResult (L : Ledger) (p o n : UInt32) (r : GoInt32) (fid : UInt64)
    (p' o' n' : UInt32) (r' : GoInt32) :
    (storeResult L p o n r fid).HasKey p' o' n' r' ↔
      L.HasKey p' o' n' r' ∨ (p' = p ∧ o' = o ∧ n' = n ∧ r' = r) := by
  unfold Ledger.HasKey
  rw [port_storeResult]
  split_ifs with h
  · obtain ⟨rfl, rfl, rfl⟩ := h
    simp [or_comm]
  · exact ⟨.inl, fun h' => h'.elim id fun ⟨h1, h2, h3, _⟩ => absurd ⟨h1, h2, h3⟩ h⟩

theorem has_storeResult (L : Ledger) (p o n : UInt32) (r : GoInt32) (fid : UInt64)
    (p' o' n' : UInt32) (r' : GoInt32) (fid' : UInt64) :
    (storeResult L p o n r fid).Has p' o' n' r' fid' ↔
      L.Has p' o' n' r' fid' ∨ (p' = p ∧ o' = o ∧ n' = n ∧ r' = r ∧ fid' = fid) := by
  unfold Ledger.Has Ledger.flowsAt
  rw [port_storeResult]
  split_ifs with h
  · obtain ⟨rfl, rfl, rfl⟩ := h
    by_cases hr : r' = r
    · subst hr; simp [Ledger.flowsAt, or_comm]
    · simp [hr]
  · exact ⟨.inl, fun h' => h'.elim id fun ⟨h1, h2, h3, _⟩ => absurd ⟨h1, h2, h3⟩ h⟩

theorem hasOnu_storeResult (L : Ledger) (p o n : UInt32) (r : GoInt32) (fid : UInt64)
    (p' o' : UInt32) (h : L.HasOnu p o) :
    (storeResult L p o n r fid).HasOnu p' o' ↔ L.HasOnu p' o' := by
  unfold storeResult Ledger.HasOnu
  by_cases hp : p' = p
  · subst hp
    by_cases ho : o' = o
    · subst ho; simpa using h
    · simp [ho]
  · simp [hp]

/-- What `storeGemPortIdByFlow` builds when the ONU's map exists: one `storeResult` per GEM
port. -/
def storeGemsResult (G : Ledger) (p o n : UInt32) (gems : List GoInt32) (fid : UInt64) : Ledger :=
  gems.foldl (fun G g => storeResult G p o n g fid) G

@[simp] theorem storeGemsResult_nil (G : Ledger) (p o n : UInt32) (fid : UInt64) :
    storeGemsResult G p o n [] fid = G := rfl

@[simp] theorem storeGemsResult_cons (G : Ledger) (p o n : UInt32) (g : GoInt32)
    (gems : List GoInt32) (fid : UInt64) :
    storeGemsResult G p o n (g :: gems) fid = storeGemsResult (storeResult G p o n g fid) p o n gems fid :=
  rfl

theorem hasKey_storeGemsResult (p o n : UInt32) (fid : UInt64) (p' o' n' : UInt32) (r' : GoInt32) :
    ∀ (gems : List GoInt32) (G : Ledger), (storeGemsResult G p o n gems fid).HasKey p' o' n' r' ↔
      G.HasKey p' o' n' r' ∨ (p' = p ∧ o' = o ∧ n' = n ∧ r' ∈ gems)
  | [], G => by simp
  | g :: gems, G => by
    rw [storeGemsResult_cons, hasKey_storeGemsResult p o n fid p' o' n' r' gems, hasKey_storeResult]
    simp only [List.mem_cons, and_or_left, or_assoc]

theorem has_storeGemsResult (p o n : UInt32) (fid : UInt64) (p' o' n' : UInt32) (r' : GoInt32)
    (fid' : UInt64) :
    ∀ (gems : List GoInt32) (G : Ledger), (storeGemsResult G p o n gems fid).Has p' o' n' r' fid' ↔
      G.Has p' o' n' r' fid' ∨ (p' = p ∧ o' = o ∧ n' = n ∧ r' ∈ gems ∧ fid' = fid)
  | [], G => by simp
  | g :: gems, G => by
    rw [storeGemsResult_cons, has_storeGemsResult p o n fid p' o' n' r' fid' gems, has_storeResult]
    simp only [List.mem_cons, or_and_right, and_or_left, or_assoc]

theorem hasOnu_storeGemsResult (p o n : UInt32) (fid : UInt64) (p' o' : UInt32) :
    ∀ (gems : List GoInt32) (G : Ledger), G.HasOnu p o →
      ((storeGemsResult G p o n gems fid).HasOnu p' o' ↔ G.HasOnu p' o')
  | [], G, _ => Iff.rfl
  | g :: gems, G, h => by
    rw [storeGemsResult_cons, hasOnu_storeGemsResult p o n fid p' o' gems _
      ((hasOnu_storeResult G p o n g fid p o h).mpr h), hasOnu_storeResult G p o n g fid p' o' h]

theorem storeGemPortId_eq (o : OltDevice) (p ou n : UInt32) (g : GoInt32) (fid : UInt64) :
    storeGemPortId o p ou n g fid =
      if o.gemPortIDs.HasOnu p ou then some { o with gemPortIDs := storeResult o.gemPortIDs p ou n g fid }
      else none := by
  unfold storeGemPortId
  rw [storeResource_eq]
  split_ifs <;> rfl

theorem storeAllocId_eq (o : OltDevice) (flow : Flow) :
    storeAllocId o flow =
      if o.allocIDs.HasOnu (uint32 flow.accessIntfId) (uint32 flow.onuId) then
        some { o with allocIDs := (storeResult o.allocIDs (uint32 flow.accessIntfId)
          (uint32 flow.onuId) flow.portNo flow.allocId flow.flowId) }
      else none := by
  unfold storeAllocId
  rw [storeResource_eq]
  split_ifs <;> rfl

/-- The loop of `storeGemPortIdByFlow` panics at its first GEM port when the ONU's map is missing,
and otherwise stores every GEM port. -/
theorem foldlM_storeGemPortId {α : Type} (f : α → GoInt32) (p ou n : UInt32) (fid : UInt64) :
    ∀ (l : List α) (o : OltDevice),
      l.foldlM (fun o x => storeGemPortId o p ou n (f x) fid) o =
        if l.isEmpty ∨ o.gemPortIDs.HasOnu p ou then
          some { o with gemPortIDs := storeGemsResult o.gemPortIDs p ou n (l.map f) fid }
        else none
  | [], o => by simp
  | x :: l, o => by
    rw [List.foldlM_cons, storeGemPortId_eq]
    by_cases h : o.gemPortIDs.HasOnu p ou
    · have h' := (hasOnu_storeResult o.gemPortIDs p ou n (f x) fid p ou h).mpr h
      rw [if_pos h]
      exact (foldlM_storeGemPortId f p ou n fid l _).trans (by simp [h, h'])
    · simp [h]

/-- What `storeGemPortIdByFlow` builds when the ONU's map exists. -/
def flowGemsResult (G : Ledger) (flow : Flow) : Ledger :=
  storeGemsResult G (uint32 flow.accessIntfId) (uint32 flow.onuId) flow.portNo (gemPorts flow)
    flow.flowId

theorem storeGemPortIdByFlow_eq (o : OltDevice) (flow : Flow) :
    storeGemPortIdByFlow o flow =
      if gemPorts flow = [] ∨ o.gemPortIDs.HasOnu (uint32 flow.accessIntfId) (uint32 flow.onuId)
      then some { o with gemPortIDs := flowGemsResult o.gemPortIDs flow } else none := by
  unfold storeGemPortIdByFlow flowGemsResult gemPorts
  cases flow.replicateFlow
  · simpa using foldlM_storeGemPortId id (uint32 flow.accessIntfId) (uint32 flow.onuId)
      flow.portNo flow.flowId [flow.gemportId] o
  · simp only [if_pos rfl]
    rw [foldlM_storeGemPortId (fun gem : (Σ _ : UInt32, UInt32) => int32 gem.2)]
    simp

/-! ## Freeing -/

/-- One visit of the innermost loop of `free`, on the value under the resource being visited: the
flow is deleted when it is the flow visited (`hit`), and the value becomes absent when its set is
then empty. -/
def freeVisit (fid : UInt64) (v : Option FlowSet) (hit : Bool) : Option FlowSet :=
  let v := if hit then v.map (·.delete fid) else v
  if (v.getD ∅).isEmpty then none else v

/-- What the loops of `free` leave of a resource whose set was `S`: nothing when the flow was its
only one, its set without the flow otherwise, and an empty set as it was, since the innermost loop
does not run on it. -/
def freeResult (fid : UInt64) (S : FlowSet) : Option FlowSet :=
  if S.isEmpty then some S else if (S.delete fid).isEmpty then none else some (S.delete fid)

theorem lookup_freeVisitBody (fid : UInt64) (r : GoInt32) (R : GoMap GoInt32 FlowSet) (f : UInt64)
    (k : GoInt32) :
    (freeVisitBody fid r R f).lookup k =
      if k = r then freeVisit fid (R.lookup r) (decide (fid = f)) else R.lookup k := by
  -- the resources after the flow's `delete`, and the value they hold under `r`
  have h1 : ∀ k', (if fid = f then R.modify r (·.delete fid) else R).lookup k' =
      if k' = r then (if decide (fid = f) then (R.lookup r).map (·.delete fid) else R.lookup r)
      else R.lookup k' := by
    intro k'
    by_cases hf : fid = f <;> by_cases hk : k' = r <;> simp [hf, hk, GoMap.lookup_modify]
  unfold freeVisitBody freeVisit
  generalize (if fid = f then R.modify r (·.delete fid) else R) = R1 at h1 ⊢
  generalize (if decide (fid = f) then (R.lookup r).map (·.delete fid) else R.lookup r) = v at h1 ⊢
  have hget : R1.get r = v.getD ∅ := by simp [GoMap.get, h1]
  simp only [hget]
  split_ifs with he hk hk <;> simp [GoMap.lookup_delete, h1, *]

/-- The innermost loop changes only the value under the resource it iterates, one visit at a
time. -/
theorem lookup_foldl_freeVisitBody (fid : UInt64) (r : GoInt32) :
    ∀ (l : List (Σ _ : UInt64, Bool)) (R : GoMap GoInt32 FlowSet) (k : GoInt32),
      (l.foldl (fun R f => freeVisitBody fid r R f.1) R).lookup k =
        if k = r then l.foldl (fun v f => freeVisit fid v (decide (fid = f.1))) (R.lookup r)
        else R.lookup k
  | [], R, k => by split_ifs with h <;> simp [h]
  | f :: l, R, k => by
    rw [List.foldl_cons, lookup_foldl_freeVisitBody fid r l _ k]
    by_cases h : k = r
    · subst h; simp [lookup_freeVisitBody]
    · simp [h, lookup_freeVisitBody]

/-- Once a resource is gone, the rest of the loop leaves it gone. -/
theorem foldl_freeVisit_none (fid : UInt64) :
    ∀ l : List (Σ _ : UInt64, Bool),
      l.foldl (fun v f => freeVisit fid v (decide (fid = f.1))) none = none
  | [] => rfl
  | f :: l => by
    have : freeVisit fid none (decide (fid = f.1)) = none := by
      unfold freeVisit; split_ifs <;> simp
    simp only [List.foldl_cons, this, foldl_freeVisit_none fid l]

/-- The innermost loop over a list of distinct flows, on a non-empty set `T`: the set loses the
flow if the list visits it, and the resource is gone if the set is then empty. -/
theorem foldl_freeVisit_some (fid : UInt64) :
    ∀ (l : List (Σ _ : UInt64, Bool)) (T : FlowSet), l.NodupKeys → T.isEmpty = false →
      l.foldl (fun v f => freeVisit fid v (decide (fid = f.1))) (some T) =
        if fid ∈ l.keys then (if (T.delete fid).isEmpty then none else some (T.delete fid))
        else some T
  | [], T, _, _ => by simp
  | f :: l, T, nd, hT => by
    rw [List.nodupKeys_cons] at nd
    simp only [List.foldl_cons, List.keys_cons, List.mem_cons]
    by_cases hf : fid = f.1
    · have hv : freeVisit fid (some T) (decide (fid = f.1)) =
          if (T.delete fid).isEmpty then none else some (T.delete fid) := by
        simp [freeVisit, hf]
      have hl : fid ∉ l.keys := hf ▸ nd.1
      rw [hv, if_pos (Or.inl hf)]
      split_ifs with he
      · exact foldl_freeVisit_none fid l
      · rw [foldl_freeVisit_some fid l _ nd.2 (by simpa using he), if_neg hl]
    · have hv : freeVisit fid (some T) (decide (fid = f.1)) = some T := by
        simp [freeVisit, hf, hT]
      rw [hv]
      simp only [hf, false_or]
      exact foldl_freeVisit_some fid l T nd.2 hT

/-- A resource's whole innermost loop is `freeResult` of its set. -/
theorem foldl_freeVisit_entries (fid : UInt64) (S : FlowSet) :
    S.entries.foldl (fun v f => freeVisit fid v (decide (fid = f.1))) (some S) = freeResult fid S := by
  unfold freeResult
  by_cases hS : S.isEmpty
  · have : S.entries = [] := List.isEmpty_iff.mp hS
    simp [this, hS]
  · rw [foldl_freeVisit_some fid S.entries S S.toAList.nodupKeys (by simpa using hS)]
    have hmem : fid ∈ S.entries.keys ↔ fid ∈ S := Iff.rfl
    by_cases hf : fid ∈ S
    · simp [hmem.mpr hf, hS]
    · simp [hmem, hf, hS, GoMap.delete_of_not_mem hf]

/-- The two inner loops over a port, from any point of the outer one: the resources visited hold
`freeResult` of their sets, the others what they held. -/
theorem lookup_foldl_freeInPort (fid : UInt64) :
    ∀ (es : List (Σ _ : GoInt32, FlowSet)) (R : GoMap GoInt32 FlowSet) (k : GoInt32),
      es.NodupKeys → (∀ e ∈ es, R.lookup e.1 = some e.2) →
      (es.foldl (fun R e => e.2.entries.foldl (fun R f => freeVisitBody fid e.1 R f.1) R) R).lookup k =
        match es.dlookup k with
        | some S => freeResult fid S
        | none => R.lookup k
  | [], R, k, _, _ => rfl
  | e :: es, R, k, nd, hR => by
    rw [List.nodupKeys_cons] at nd
    have hstep : ∀ k', (e.2.entries.foldl (fun R f => freeVisitBody fid e.1 R f.1) R).lookup k' =
        if k' = e.1 then freeResult fid e.2 else R.lookup k' := by
      intro k'
      rw [lookup_foldl_freeVisitBody, hR e (List.mem_cons_self _ _), foldl_freeVisit_entries]
    simp only [List.foldl_cons]
    rw [lookup_foldl_freeInPort fid es _ k nd.2]
    · by_cases hk : k = e.1
      · subst hk
        rw [List.dlookup_eq_none.mpr nd.1, List.dlookup_cons_eq, hstep, if_pos rfl]
      · rw [List.dlookup_cons_ne _ _ hk, hstep, if_neg hk]
    · intro e' he'
      have hne : e'.1 ≠ e.1 := fun h => nd.1 (h ▸ List.mem_keys_of_mem he')
      rw [hstep, if_neg hne]
      exact hR e' (List.mem_cons_of_mem _ he')

theorem lookup_freeInPort (R : GoMap GoInt32 FlowSet) (fid : UInt64) (r : GoInt32) :
    (freeInPort R fid).lookup r = (R.lookup r).bind (freeResult fid) := by
  unfold freeInPort
  rw [lookup_foldl_freeInPort fid R.entries R r R.toAList.nodupKeys
    (fun e he => (GoMap.mk_mem_entries R).mp he)]
  rw [GoMap.lookup_eq_dlookup]
  cases R.entries.dlookup r <;> rfl

theorem port_freeResource (L : Ledger) (fid : UInt64) (p o n : UInt32) :
    (freeResource L fid).port p o n = freeInPort (L.port p o n) fid := by
  unfold freeResource Ledger.port
  rw [GoMap.get_rangeUpdate _ _ _ rfl, GoMap.get_rangeUpdate _ _ _ rfl,
    GoMap.get_rangeUpdate _ _ _ rfl]

/-- `free` removes the flow from every resource's set. -/
theorem has_freeResource (L : Ledger) (fid : UInt64) (p o n : UInt32) (r : GoInt32)
    (fid' : UInt64) :
    (freeResource L fid).Has p o n r fid' ↔ L.Has p o n r fid' ∧ fid' ≠ fid := by
  unfold Ledger.Has Ledger.flowsAt GoMap.get
  rw [port_freeResource, lookup_freeInPort]
  cases (L.port p o n).lookup r with
  | none => simp
  | some S =>
    simp only [Option.some_bind, Option.getD_some, freeResult]
    split_ifs with h1 h2
    · simp only [Option.getD_some]
      have := (GoMap.isEmpty_iff_not_mem S).mp h1 fid'
      exact iff_of_false this fun h => this h.1
    · have := (GoMap.isEmpty_iff_not_mem _).mp h2 fid'
      simp only [GoMap.mem_delete, not_and, not_not] at this
      simp only [Option.getD_none, GoMap.default_eq_empty, GoMap.not_mem_empty, false_iff, not_and]
      exact fun hm hne => this hne hm
    · simp [and_comm]

/-- `free` keeps a resource unless the flow was the only one in its set. -/
theorem hasKey_freeResource (L : Ledger) (fid : UInt64) (p o n : UInt32) (r : GoInt32) :
    (freeResource L fid).HasKey p o n r ↔
      L.HasKey p o n r ∧ ((L.flowsAt p o n r).isEmpty ∨ ∃ fid' ≠ fid, L.Has p o n r fid') := by
  unfold Ledger.HasKey Ledger.Has Ledger.flowsAt GoMap.get
  rw [GoMap.mem_iff_lookup, GoMap.mem_iff_lookup, port_freeResource, lookup_freeInPort]
  cases (L.port p o n).lookup r with
  | none => simp
  | some S =>
    simp only [Option.some_bind, Option.getD_some, Option.isSome_some, true_and, freeResult]
    split_ifs with h1 h2
    · simp [h1]
    · have := (GoMap.isEmpty_iff_not_mem _).mp h2
      simp only [GoMap.mem_delete, not_and, not_not] at this
      simp only [Option.isSome_none, Bool.false_eq_true, h1, false_or, false_iff, not_exists,
        not_and]
      exact this
    · have := mt (GoMap.isEmpty_iff_not_mem _).mpr h2
      push_neg at this
      obtain ⟨f, hf⟩ := this
      simp only [GoMap.mem_delete] at hf
      simp only [Option.isSome_some, true_iff]
      exact Or.inr ⟨f, hf.1, hf.2⟩

/-- `free` keeps every ONU's map. -/
theorem hasOnu_freeResource (L : Ledger) (fid : UInt64) (p o : UInt32) :
    (freeResource L fid).HasOnu p o ↔ L.HasOnu p o := by
  unfold freeResource Ledger.HasOnu
  rw [GoMap.get_rangeUpdate _ _ _ rfl, GoMap.lookup_rangeUpdate]
  cases (L.get p).lookup o <;> simp

/-! ## Freeing, against the spec's `free`

The spec's `free(flow)` removes the flow ID from every resource entry and deletes an entry once its
set is empty. The loops of the code agree with it on every ledger whose resources all have a flow;
on an empty set, which their innermost loop never visits, they keep the entry (`freeResult`).
-/

/-- Modelled from the spec: what `free(flow)` (§4.3) leaves of a resource's flow set, the set
without the flow, and no entry once the set is empty. -/
def freeSpec (fid : UInt64) (S : FlowSet) : Option FlowSet :=
  if (S.delete fid).isEmpty then none else some (S.delete fid)

/-- Modelled from the spec: ledger `L'` is ledger `L` after `free(flow)` of the flow ID `fid`.
Every resource's set loses the flow and the resources left without a flow are deleted; the maps of
the PONs, ONUs and ports all stay. -/
structure Ledger.FreedOf (L : Ledger) (fid : UInt64) (L' : Ledger) : Prop where
  pons : ∀ p, p ∈ L' ↔ p ∈ L
  onus : ∀ p o, o ∈ L'.get p ↔ o ∈ L.get p
  ports : ∀ p o n, n ∈ (L'.get p).get o ↔ n ∈ (L.get p).get o
  resources : ∀ p o n r, (L'.port p o n).lookup r = ((L.port p o n).lookup r).bind (freeSpec fid)

/-- Every resource of the ledger has a flow: no flow set is empty. -/
def Ledger.FlowSetsNonempty (L : Ledger) : Prop :=
  ∀ p o n r, L.HasKey p o n r → ∃ fid, L.Has p o n r fid

theorem freeResult_of_mem {fid f : UInt64} {S : FlowSet} (hf : f ∈ S) :
    freeResult fid S = freeSpec fid S := by
  have hS : S.isEmpty = false :=
    Bool.eq_false_iff.mpr fun he => (GoMap.isEmpty_iff_not_mem S).mp he f hf
  simp only [freeResult, freeSpec, hS, Bool.false_eq_true, if_false]

/-- On a ledger whose resources all have a flow, the loops of `free` compute the spec's `free`. -/
theorem Ledger.FlowSetsNonempty.freedOf {L : Ledger} (h : L.FlowSetsNonempty) (fid : UInt64) :
    L.FreedOf fid (freeResource L fid) where
  pons _ := GoMap.mem_rangeUpdate _ _ _
  onus _ _ := by rw [freeResource, GoMap.get_rangeUpdate _ _ _ rfl, GoMap.mem_rangeUpdate]
  ports _ _ _ := by
    rw [freeResource, GoMap.get_rangeUpdate _ _ _ rfl, GoMap.get_rangeUpdate _ _ _ rfl,
      GoMap.mem_rangeUpdate]
  resources p o n r := by
    rw [port_freeResource, lookup_freeInPort]
    cases hS : (L.port p o n).lookup r with
    | none => rfl
    | some S =>
      obtain ⟨f, hf⟩ := h p o n r ((GoMap.mem_iff_lookup _ _).mpr (by simp [hS]))
      rw [Ledger.Has, Ledger.flowsAt, GoMap.get_of_lookup hS] at hf
      exact freeResult_of_mem hf

/-! ## Validating -/

/-- A resource key under an ONU and a port of a PON's map, as the loops of `validateFlow` meet it:
an entry of the PON's map, one of its ports, and one of that port's resources. -/
theorem mem_port_iff (M : GoMap UInt32 (GoMap UInt32 (GoMap GoInt32 FlowSet))) (o n : UInt32)
    (r : GoInt32) :
    r ∈ (M.get o).get n ↔
      ∃ x ∈ M.entries, x.1 = o ∧ ∃ u ∈ x.2.entries, u.1 = n ∧ ∃ a ∈ u.2.entries, a.1 = r := by
  simp only [GoMap.mem_iff_entries, GoMap.mem_entries_get]
  constructor
  · rintro ⟨a, ⟨u, ⟨x, hx, rfl, hu⟩, rfl, ha⟩, rfl⟩
    exact ⟨x, hx, rfl, u, hu, rfl, a, ha, rfl⟩
  · rintro ⟨x, hx, rfl, u, hu, rfl, a, ha, rfl⟩
    exact ⟨a, ⟨u, ⟨x, hx, rfl, hu⟩, rfl, ha⟩, rfl⟩

/-- The Alloc-ID loop passes exactly when no other ONU of the flow's PON holds its Alloc-ID. -/
theorem validateAllocId_eq_none (A : Ledger) (flow : Flow) :
    validateAllocId A flow = none ↔
      ∀ o n, o ≠ uint32 flow.onuId → ¬ A.HasKey (uint32 flow.accessIntfId) o n flow.allocId := by
  unfold validateAllocId Ledger.HasKey Ledger.port
  simp only [mem_port_iff, List.findSome?_eq_none_iff, ite_eq_left_iff, ite_eq_right_iff,
    Option.some_ne_none, imp_false]
  constructor
  · rintro h o n ho ⟨x, hx, rfl, u, hu, rfl, a, ha, hr⟩
    exact h x hx ho u hu a ha hr
  · intro h x hx ho u hu a ha hr
    exact h x.1 u.1 ho ⟨x, hx, rfl, u, hu, rfl, a, ha, hr⟩

/-- The GEM-port loop passes exactly when no other ONU of the flow's PON holds one of its GEM
ports. -/
theorem validateGemPorts_eq_none (G : Ledger) (flow : Flow) :
    validateGemPorts G flow = none ↔
      ∀ o n g, o ≠ uint32 flow.onuId → g ∈ gemPorts flow →
        ¬ G.HasKey (uint32 flow.accessIntfId) o n g := by
  unfold validateGemPorts Ledger.HasKey Ledger.port gemPorts
  cases hrep : flow.replicateFlow
  · simp only [Bool.false_eq_true, if_false, mem_port_iff, List.findSome?_eq_none_iff,
      ite_eq_left_iff, ite_eq_right_iff, Option.some_ne_none, imp_false, List.mem_singleton]
    constructor
    · rintro h o n g ho rfl ⟨x, hx, rfl, u, hu, rfl, a, ha, hg⟩
      exact h x hx ho u hu a ha hg
    · intro h x hx ho u hu a ha hg
      exact h x.1 u.1 a.1 ho hg ⟨x, hx, rfl, u, hu, rfl, a, ha, rfl⟩
  · simp only [if_true, mem_port_iff, List.findSome?_eq_none_iff, ite_eq_left_iff,
      ite_eq_right_iff, Option.some_ne_none, imp_false, List.mem_map]
    constructor
    · rintro h o n g ho ⟨fg, hfg, rfl⟩ ⟨x, hx, rfl, u, hu, rfl, a, ha, hg⟩
      exact h x hx ho u hu a ha fg hfg hg
    · intro h x hx ho u hu a ha fg hfg hg
      exact h x.1 u.1 a.1 ho ⟨fg, hfg, hg.symm⟩ ⟨x, hx, rfl, u, hu, rfl, a, ha, rfl⟩

/-- `validateFlow` passes exactly when no other ONU of the flow's PON holds one of its GEM ports
or its Alloc-ID. -/
theorem validateFlow_eq_none (o : OltDevice) (flow : Flow) :
    validateFlow o flow = none ↔
      (∀ onu n g, onu ≠ uint32 flow.onuId → g ∈ gemPorts flow →
        ¬ o.gemPortIDs.HasKey (uint32 flow.accessIntfId) onu n g) ∧
      (∀ onu n, onu ≠ uint32 flow.onuId →
        ¬ o.allocIDs.HasKey (uint32 flow.accessIntfId) onu n flow.allocId) := by
  rw [← validateGemPorts_eq_none, ← validateAllocId_eq_none]
  unfold validateFlow
  cases validateGemPorts o.gemPortIDs flow <;> simp [Option.orElse]

/-! ## Resetting

`ActivateOnu` empties an ONU's map, `InitOlt` and `CreateOLT` set PON-level maps to empty maps, and
`clearAllResources` empties a whole ledger: none of them adds a resource key.
-/

/-- A ledger that records no resource: `CreateOLT`, `InitOlt` and a reboot leave such ledgers. -/
def Ledger.Clear (L : Ledger) : Prop := ∀ p o n r, ¬ L.HasKey p o n r

/-- A recorded flow is recorded under a resource key. -/
theorem Ledger.hasKey_of_has {L : Ledger} {p o n : UInt32} {r : GoInt32} {fid : UInt64}
    (h : L.Has p o n r fid) : L.HasKey p o n r := by
  by_contra hk
  have hr : (L.port p o n).lookup r = none := by
    simpa [Ledger.HasKey, GoMap.mem_iff_lookup] using hk
  simp [Ledger.Has, Ledger.flowsAt, GoMap.get_of_lookup_none hr] at h

theorem Ledger.not_has_of_clear {L : Ledger} (h : L.Clear) (p o n : UInt32) (r : GoInt32)
    (fid : UInt64) : ¬ L.Has p o n r fid :=
  fun hf => h p o n r (Ledger.hasKey_of_has hf)

theorem Ledger.clear_empty : (∅ : Ledger).Clear := by
  simp [Ledger.Clear, Ledger.HasKey, Ledger.port]

theorem port_set_empty (L : Ledger) (p p' o n : UInt32) :
    Ledger.port (L.set p ∅) p' o n = if p' = p then ∅ else L.port p' o n := by
  unfold Ledger.port
  split_ifs with h
  · subst h; simp
  · simp [h]

theorem Ledger.Clear.set_empty {L : Ledger} (h : L.Clear) (p : UInt32) :
    Ledger.Clear (L.set p ∅) := by
  intro p' o n r
  unfold Ledger.HasKey
  rw [port_set_empty]
  split_ifs
  · simp
  · exact h p' o n r

theorem Ledger.Clear.initPons {L : Ledger} (h : L.Clear) (n : Nat) : (L.initPons n).Clear := by
  unfold Ledger.initPons
  induction List.range n generalizing L with
  | nil => exact h
  | cons p l ih => exact ih (Ledger.Clear.set_empty h _)

/-- `ActivateOnu`'s reset empties the ONU's map and leaves every other; it needs the PON's map. -/
theorem port_resetOnu {L L' : Ledger} {p o : UInt32} (h : L.resetOnu p o = some L')
    (p' o' n : UInt32) : L'.port p' o' n = if p' = p ∧ o' = o then ∅ else L.port p' o' n := by
  obtain ⟨v, v', hv, hv', rfl⟩ := GoMap.lookup_update? h
  cases hv'
  unfold Ledger.port
  by_cases hp : p' = p
  · subst hp
    rw [GoMap.get_set_self, GoMap.get_of_lookup hv]
    by_cases ho : o' = o
    · subst ho; simp
    · simp [ho]
  · simp [hp]

theorem resetOnu_eq_none {L : Ledger} {p o : UInt32} : L.resetOnu p o = none ↔ L.lookup p = none := by
  unfold Ledger.resetOnu
  rw [GoMap.update?_eq_none]
  cases L.lookup p <;> simp

theorem hasKey_resetOnu {L L' : Ledger} {p o : UInt32} (h : L.resetOnu p o = some L')
    (p' o' n : UInt32) (r : GoInt32) :
    L'.HasKey p' o' n r ↔ L.HasKey p' o' n r ∧ ¬ (p' = p ∧ o' = o) := by
  unfold Ledger.HasKey
  rw [port_resetOnu h]
  split_ifs with hpo <;> simp [hpo]

theorem has_resetOnu {L L' : Ledger} {p o : UInt32} (h : L.resetOnu p o = some L')
    (p' o' n : UInt32) (r : GoInt32) (fid : UInt64) :
    L'.Has p' o' n r fid ↔ L.Has p' o' n r fid ∧ ¬ (p' = p ∧ o' = o) := by
  unfold Ledger.Has Ledger.flowsAt
  rw [port_resetOnu h]
  split_ifs with hpo <;> simp [hpo]

end Bbsim
