import Bbsim.Devices.Types

/-!
# Finding ports and ONUs

The OLT's PON ports and their ONUs are made once by `CreateOLT` and never added or removed, so a
handler finds them by a linear search and changes them in place. A port or an ONU is modelled by
its position: `getPonById` returns the position of the first PON port with the ID, as the `range`
loop of `GetPonById` does, and `OltDevice.modifyOnu` changes the ONU at a position. `PonPort`'s own
lookups live in `pon.go`, which is not among the sources; they are modelled after `FindOnuById`,
which performs the same search over one port.
-/

namespace Bbsim

/-- The first element of a list that `p` accepts, with its position: the `range` loop that
returns at its first match. -/
def findWithIdx? {α : Type} (p : α → Bool) : List α → Option (Nat × α)
  | [] => none
  | a :: l => if p a then some (0, a) else (findWithIdx? p l).map fun x => (x.1 + 1, x.2)

theorem findWithIdx?_eq_some {α : Type} {p : α → Bool} :
    ∀ {l : List α} {i : Nat} {a : α}, findWithIdx? p l = some (i, a) → l[i]? = some a ∧ p a = true
  | b :: l, i, a, h => by
    unfold findWithIdx? at h
    split_ifs at h with hb
    · cases h; exact ⟨by simp, hb⟩
    · obtain ⟨⟨j, c⟩, hj, he⟩ := Option.map_eq_some'.mp h
      cases he
      simpa using findWithIdx?_eq_some (l := l) hj

theorem findWithIdx?_eq_none {α : Type} {p : α → Bool} :
    ∀ {l : List α}, findWithIdx? p l = none ↔ ∀ a ∈ l, p a = false
  | [] => by simp [findWithIdx?]
  | b :: l => by
    unfold findWithIdx?
    split_ifs with hb
    · simp [hb]
    · simp [findWithIdx?_eq_none (l := l), hb]

/-- `GetPonById`: the first PON port with the ID, by position, or the error it returns. -/
def getPonById (o : OltDevice) (id : UInt32) : Except RpcError (Nat × PonPort) :=
  match findWithIdx? (fun pon => pon.id == id) o.pons with
  | some x => .ok x
  | none => .error (.errorf ("Cannot find PonPort with id " ++ toString id ++ " in OLT " ++ toString o.id))

/-- `HasPon`. -/
def hasPon (o : OltDevice) (id : UInt32) : Bool := o.pons.any (·.id == id)

/-- `GetPonById` finds every port that `HasPon` sees. -/
theorem getPonById_of_hasPon {o : OltDevice} {id : UInt32} (h : hasPon o id = true) :
    ∃ i pon, getPonById o id = .ok (i, pon) := by
  unfold getPonById
  cases hf : findWithIdx? (fun pon => pon.id == id) o.pons with
  | some x => exact ⟨x.1, x.2, rfl⟩
  | none =>
    obtain ⟨pon, hmem, hid⟩ := List.any_eq_true.mp h
    exact absurd hid (by simp [findWithIdx?_eq_none.mp hf pon hmem])

/-- `HasPon` sees every port that `GetPonById` finds. -/
theorem hasPon_of_getPonById {o : OltDevice} {id : UInt32} {x : Nat × PonPort}
    (h : getPonById o id = .ok x) : hasPon o id = true := by
  unfold getPonById at h
  split at h
  · obtain ⟨hi, hid⟩ := findWithIdx?_eq_some ‹_›
    exact List.any_eq_true.mpr ⟨_, List.getElem?_mem hi, hid⟩
  · cases h

/-- `HasPon` sees every PON port of the OLT. -/
theorem hasPon_of_mem {o : OltDevice} {pon : PonPort} (h : pon ∈ o.pons) : hasPon o pon.id = true :=
  List.any_eq_true.mpr ⟨pon, h, beq_self_eq_true _⟩

/-- `HasNni`. -/
def hasNni (o : OltDevice) (id : UInt32) : Bool := o.nnis.any (·.id == id)

/-- `HasNni` sees every NNI port of the OLT. -/
theorem hasNni_of_mem {o : OltDevice} {nni : NniPort} (h : nni ∈ o.nnis) : hasNni o nni.id = true :=
  List.any_eq_true.mpr ⟨nni, h, beq_self_eq_true _⟩

/-- Modelled from the spec: `PonPort.GetOnuById` of `pon.go`, which `FindOnuById` calls, the first
ONU of the port with the ID, by position, or the port's error. -/
def PonPort.getOnuById (c : Collaborators) (pon : PonPort) (id : UInt32) : Except RpcError (Nat × Onu) :=
  match findWithIdx? (fun onu => onu.id == id) pon.onus with
  | some x => .ok x
  | none => .error (c.onuNotFound pon.id id)

/-- Modelled from the spec: `PonPort.GetOnuBySn` of `pon.go`, which `FindOnuBySn` calls, the first
ONU of the port with the serial number, by position. -/
def PonPort.getOnuBySn (pon : PonPort) (sn : SerialNumber) : Option (Nat × Onu) :=
  findWithIdx? (fun onu => onu.serialNumber == sn) pon.onus

/-- `GetOnuByFlowId`: the first ONU, over all PON ports, whose `FlowIds` hold the flow ID, by the
positions of its port and of itself. -/
def getOnuByFlowId (o : OltDevice) (flowId : UInt64) : Except RpcError (Nat × Nat) :=
  match o.pons.enum.findSome? (fun pon =>
      (findWithIdx? (fun onu => onu.flowIds.contains flowId) pon.2.onus).map fun x => (pon.1, x.1)) with
  | some x => .ok x
  | none => .error (.errorf ("Cannot find Onu by flowId " ++ toString flowId))

/-- A change in place of the ONU at position `j` of the PON port at position `i`. -/
def OltDevice.modifyOnu (o : OltDevice) (i j : Nat) (f : Onu → Onu) : OltDevice :=
  { o with pons := o.pons.modify (fun pon => { pon with onus := pon.onus.modify f j }) i }

/-- A change in place of the PON port at position `i`. -/
def OltDevice.modifyPon (o : OltDevice) (i : Nat) (f : PonPort → PonPort) : OltDevice :=
  { o with pons := o.pons.modify f i }

/-- Modelled from the spec: `Onu.DeleteFlow` of `onu.go` removes the key from the ONU's flow list
(§4.4). -/
def Onu.deleteFlow (onu : Onu) (key : FlowKey) : Onu := { onu with flows := onu.flows.erase key }

/-! ## What the changes in place leave alone -/

@[simp] theorem modifyOnu_allocIDs (o : OltDevice) (i j : Nat) (f : Onu → Onu) :
    (o.modifyOnu i j f).allocIDs = o.allocIDs := rfl

@[simp] theorem modifyOnu_gemPortIDs (o : OltDevice) (i j : Nat) (f : Onu → Onu) :
    (o.modifyOnu i j f).gemPortIDs = o.gemPortIDs := rfl

@[simp] theorem modifyOnu_flows (o : OltDevice) (i j : Nat) (f : Onu → Onu) :
    (o.modifyOnu i j f).flows = o.flows := rfl

@[simp] theorem modifyOnu_channelOpen (o : OltDevice) (i j : Nat) (f : Onu → Onu) :
    (o.modifyOnu i j f).channelOpen = o.channelOpen := rfl

@[simp] theorem modifyOnu_enablePerf (o : OltDevice) (i j : Nat) (f : Onu → Onu) :
    (o.modifyOnu i j f).enablePerf = o.enablePerf := rfl

@[simp] theorem modifyOnu_internalState (o : OltDevice) (i j : Nat) (f : Onu → Onu) :
    (o.modifyOnu i j f).internalState = o.internalState := rfl

@[simp] theorem modifyPon_allocIDs (o : OltDevice) (i : Nat) (f : PonPort → PonPort) :
    (o.modifyPon i f).allocIDs = o.allocIDs := rfl

@[simp] theorem modifyPon_gemPortIDs (o : OltDevice) (i : Nat) (f : PonPort → PonPort) :
    (o.modifyPon i f).gemPortIDs = o.gemPortIDs := rfl

@[simp] theorem modifyPon_flows (o : OltDevice) (i : Nat) (f : PonPort → PonPort) :
    (o.modifyPon i f).flows = o.flows := rfl

end Bbsim
