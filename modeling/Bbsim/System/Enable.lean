import Bbsim.System.Settled

/-!
# `Enable`, `DisableOlt`, `ReenableOlt`, `DisablePonIf` and `EnablePonIf`, then the dispatch loop

`Enable` starts the dispatch loop `processOltMessages` and sends on the OLT's channel the OLT's
indication `UP`, then `UP` for each NNI port, then, as its activation mode and whether the call is
a reboot say, `UP` for PON ports. The channel is unbuffered, so the loop takes the messages in the
order sent. Handled one after another with nothing else in between, from any reachable state, they
never panic, and they leave the OLT `enabled` and up and every port that `Enable` sent `UP` for up
(`enable_then_dispatch`). Right after `CreateOLT` the device they leave is given exactly: the OLT
and its NNI port up, and the PON ports up and `enabled` or left as created, as the activation mode
says (`createOLT_then_enable`). A PON port's move moves its ONUs too, as the enter callbacks of its
machine in `pon.go` do (`PonPort.enter`).

`DisableOlt` sends `DOWN` for each enabled PON port and then the OLT's `DOWN`; `ReenableOlt` sends
the OLT's `UP` and then `UP` for each disabled PON port. What their messages do is given exactly
(`disableOlt_reenableOlt_then_dispatch`), and one after the other they give the device back, with
the OLT `enabled` and up, and every PON port that has left `created` `enabled` and up, also one that
was disabled before, with its ONUs moved by the enter callbacks of the port's moves
(`disableOlt_then_reenableOlt`). `DisablePonIf` and `EnablePonIf` send their
port's indication on the channel and write the ONUs' indications to the stream themselves
(`setPonIf_messages`); one after the other on an enabled port they give the device back with the
port up (`disablePonIf_then_enablePonIf`).

The loop looks a port up by its ID and changes the first port with the ID, so what a message does
to the ports rests on their IDs being distinct. `CreateOLT` numbers the PON ports `0..NumPon-1`
and makes one NNI port, and no step changes the IDs (`Reachable.settled_portIds`). A message then
changes the port with its ID and no other (`dispatch_ponIndication`, `dispatch_nniIndication`), and
a run of messages for distinct ports changes each of them once (`runOps_portIndications`).
-/

namespace Bbsim

/-- The message of a send on the OLT's channel, which the dispatch loop takes in the order sent. -/
def Effect.oltMessage : Effect → Option Message
  | .sendOlt m => some m
  | _ => none

/-! ## Ports changed in place -/

/-- Changing the element at `i` of a list with distinct keys changes the element with its key, and
no other. -/
theorem modify_const_eq_map {α β : Type} [DecidableEq β] {key : α → β} {l : List α} {i : Nat}
    {a : α} (f : α → α) (hnd : (l.map key).Nodup) (ha : l[i]? = some a) :
    l.modify (fun _ => f a) i = l.map fun b => if key b = key a then f b else b := by
  refine List.ext_getElem? fun j => ?_
  rw [List.getElem?_modify, List.getElem?_map]
  cases hb : l[j]? with
  | none => rfl
  | some b =>
    by_cases hij : i = j
    · subst hij
      obtain rfl : b = a := Option.some.inj (hb.symm.trans ha)
      simp
    · have hi : i < (l.map key).length := by simpa using (List.getElem?_eq_some_iff.mp ha).1
      have hk : key b ≠ key a := fun hk => hij (List.getElem?_inj hi hnd (by simp [ha, hb, hk]))
      simp [hij, hk]

/-- In a list with distinct keys, an element's key is a key of a filter of the list exactly when
the element passes the filter. -/
theorem mem_map_filter_iff {α β : Type} {key : α → β} {l : List α} {q : α → Bool} {a : α}
    (hnd : (l.map key).Nodup) (ha : a ∈ l) : key a ∈ (l.filter q).map key ↔ q a := by
  constructor
  · intro h
    obtain ⟨b, hb, hk⟩ := List.mem_map.mp h
    obtain ⟨hbl, hq⟩ := List.mem_filter.mp hb
    rwa [← List.inj_on_of_nodup_map hnd hbl ha hk]
  · exact fun hq => List.mem_map_of_mem _ (List.mem_filter.mpr ⟨ha, hq⟩)

/-! ## One message -/

/-- The `OperState` machine goes to the message's state, from either state. -/
@[simp] theorem OperState.fire_tx_getD (s t : OperState) : (t.fire s.tx).getD t = s := by
  cases s <;> cases t <;> rfl

/-- A PON message's `OperState` event leaves the port in the message's state. -/
@[simp] theorem PonPort.fireOper_fst (pon : PonPort) (s : OperState) :
    (pon.fireOper s.tx).1 = { pon with operState := s } := by
  have h := OperState.fire_tx_getD s pon.operState
  cases pon
  unfold PonPort.fireOper
  split <;> simp_all

/-- A PON port's `InternalState` event leaves its `OperState`. -/
theorem PonPort.fireInternal_operState (c : Collaborators) (m : ActivationMode) (pon : PonPort)
    (tx : Tx) : (pon.fireInternal c m tx).operState = pon.operState := by
  unfold PonPort.fireInternal; split <;> rfl

section Dispatch

variable {c : Collaborators} {o : OltDevice} {s : OperState} {p : UInt32}

/-- A PON message for a port of a device whose PON ports have distinct IDs moves both machines of
that port, and its ONUs by the enter callbacks, and changes nothing else. -/
theorem dispatch_ponIndication (hnd : (o.pons.map PonPort.id).Nodup)
    (hp : p ∈ o.pons.map PonPort.id) :
    ∃ inds, processMessage c o (.ponIndication s p) = some ({ o with
      pons := o.pons.map fun pon => if pon.id = p then
        ({ pon with operState := s }).fireInternal c o.controlledActivation s.tx else pon }, inds) := by
  obtain ⟨i, pon, hget⟩ := getPonById_of_hasPon ((hasPon_iff_mem o p).mpr hp)
  obtain ⟨hi, hid⟩ := getPonById_eq_ok hget
  refine ⟨(pon.fireOper s.tx).2, ?_⟩
  have hmod := modify_const_eq_map
    (fun pon : PonPort => ({ pon with operState := s }).fireInternal c o.controlledActivation s.tx)
    hnd hi
  subst hid
  simp only [processMessage, hget, PonPort.fireOper_fst, OltDevice.modifyPon]
  rw [hmod]

/-- An NNI message for a port of a device whose NNI ports have distinct IDs sets that port's
`OperState` to the message's, and changes nothing else. -/
theorem dispatch_nniIndication (hnd : (o.nnis.map NniPort.id).Nodup)
    (hp : p ∈ o.nnis.map NniPort.id) :
    ∃ inds, processMessage c o (.nniIndication s p) = some ({ o with
      nnis := o.nnis.map fun nni => if nni.id = p then { nni with operState := s } else nni },
      inds) := by
  have hsome : findWithIdx? (fun nni => nni.id == p) o.nnis ≠ none := fun h => by
    obtain ⟨n, hn, rfl⟩ := List.mem_map.mp hp
    simpa using findWithIdx?_eq_none.mp h n hn
  obtain ⟨⟨k, nni⟩, hfind⟩ := Option.ne_none_iff_exists'.mp hsome
  obtain ⟨hk, hid⟩ := findWithIdx?_eq_some hfind
  refine ⟨[.nniOper nni.id s], ?_⟩
  simp only [processMessage, hfind, OperState.fire_tx_getD, List.set_eq_modify, Option.bind_eq_bind,
    Option.some_bind]
  rw [modify_const_eq_map (fun nni : NniPort => { nni with operState := s }) hnd hk,
    show nni.id = p by simpa using hid]

/-! ## Messages one after another -/

/-- A run of two lists of steps is the run of the first, then the run of the second. -/
theorem runOps_append (o : OltDevice) :
    ∀ l₁ l₂ : List Op, runOps c o (l₁ ++ l₂) = (runOps c o l₁).bind fun o' => runOps c o' l₂
  | [], _ => rfl
  | op :: l₁, l₂ => by
    simp only [List.cons_append, runOps, Option.bind_assoc]
    congr 1
    funext r
    exact runOps_append r.dev l₁ l₂

/-- Messages for distinct ports of one kind, each of which the loop finds, handled one after
another: each port they name is changed as its message says, once, and nothing else changes. What a
message does to its port, `F o`, may read the device's fields other than the ports. -/
theorem runOps_portIndications {α : Type} (ports : OltDevice → List α)
    (setPorts : OltDevice → List α → OltDevice) (key : α → UInt32) (msg : UInt32 → Message)
    (F : OltDevice → α → α) (hget : ∀ o l, ports (setPorts o l) = l)
    (hset : ∀ o l l', setPorts (setPorts o l) l' = setPorts o l')
    (hself : ∀ o, setPorts o (ports o) = o) (hF : ∀ o l, F (setPorts o l) = F o)
    (hkey : ∀ o a, key (F o a) = key a)
    (hmsg : ∀ {o p}, ((ports o).map key).Nodup → p ∈ (ports o).map key → ∃ inds,
      processMessage c o (msg p) =
        some (setPorts o ((ports o).map fun a => if key a = p then F o a else a), inds)) :
    ∀ (ids : List UInt32) (o : OltDevice), ((ports o).map key).Nodup → ids.Nodup →
      (∀ p ∈ ids, p ∈ (ports o).map key) →
      runOps c o (ids.map fun p => .dispatch (msg p)) =
        some (setPorts o ((ports o).map fun a => if key a ∈ ids then F o a else a))
  | [], o, _, _, _ => by simp [runOps, hself]
  | p :: ids, o, hnd, hids, hps => by
    obtain ⟨inds, h₁⟩ := hmsg hnd (hps p (.head _))
    obtain ⟨hp, hids⟩ := List.nodup_cons.mp hids
    have hkeys : ((ports o).map fun a => if key a = p then F o a else a).map key =
        (ports o).map key := by
      rw [List.map_map]
      exact List.map_congr_left fun a _ => by
        simp only [Function.comp_apply]; split_ifs <;> simp [hkey]
    have ih := runOps_portIndications ports setPorts key msg F hget hset hself hF hkey hmsg ids
      (setPorts o ((ports o).map fun a => if key a = p then F o a else a)) (by rwa [hget, hkeys])
      hids fun q hq => by rw [hget, hkeys]; exact hps q (.tail _ hq)
    simp only [List.map_cons, runOps, Op.step, h₁, Option.map_some', Option.some_bind, ih, hset,
      hget, hF, List.map_map]
    refine congrArg (fun l => some (setPorts o l)) (List.map_congr_left fun a _ => ?_)
    by_cases ha : key a = p
    · simp [ha, hkey, hp]
    · simp [ha]

/-- PON messages for distinct PON ports of a device whose PON ports have distinct IDs. -/
theorem runOps_ponIndications (s : OperState) (ids : List UInt32)
    (hnd : (o.pons.map PonPort.id).Nodup) (hids : ids.Nodup)
    (hps : ∀ p ∈ ids, p ∈ o.pons.map PonPort.id) :
    runOps c o (ids.map fun p => .dispatch (.ponIndication s p)) = some { o with
      pons := o.pons.map fun pon => if pon.id ∈ ids then
        ({ pon with operState := s }).fireInternal c o.controlledActivation s.tx else pon } :=
  runOps_portIndications OltDevice.pons (fun o l => { o with pons := l }) PonPort.id
    (.ponIndication s)
    (fun (o : OltDevice) (pon : PonPort) =>
      ({ pon with operState := s }).fireInternal c o.controlledActivation s.tx)
    (fun _ _ => rfl) (fun _ _ _ => rfl) (fun _ => rfl) (fun _ _ => by rfl)
    (fun _ _ => PonPort.fireInternal_id ..) dispatch_ponIndication ids o hnd hids hps

/-- NNI messages for distinct NNI ports of a device whose NNI ports have distinct IDs. -/
theorem runOps_nniIndications (s : OperState) (ids : List UInt32)
    (hnd : (o.nnis.map NniPort.id).Nodup) (hids : ids.Nodup)
    (hps : ∀ p ∈ ids, p ∈ o.nnis.map NniPort.id) :
    runOps c o (ids.map fun p => .dispatch (.nniIndication s p)) = some { o with
      nnis := o.nnis.map fun nni => if nni.id ∈ ids then { nni with operState := s } else nni } :=
  runOps_portIndications OltDevice.nnis (fun o l => { o with nnis := l }) NniPort.id
    (.nniIndication s) (fun _ nni => { nni with operState := s }) (fun _ _ => rfl)
    (fun _ _ _ => rfl) (fun _ => rfl) (fun _ _ => rfl) (fun _ _ => rfl) dispatch_nniIndication ids
    o hnd hids hps

/-- The PON ports of a filter of the ports are ports of the device. -/
theorem mem_filter_ponIds {o : OltDevice} {q : PonPort → Bool} {p : UInt32}
    (hp : p ∈ (o.pons.filter q).map PonPort.id) : p ∈ o.pons.map PonPort.id := by
  obtain ⟨pon, hpon, rfl⟩ := List.mem_map.mp hp
  exact List.mem_map_of_mem _ (List.mem_filter.mp hpon).1

/-- PON messages for the PON ports that pass a filter, in their order, change exactly those. -/
theorem runOps_ponIndications_filter (s : OperState) (q : PonPort → Prop) [DecidablePred q]
    (hnd : (o.pons.map PonPort.id).Nodup) :
    runOps c o (((o.pons.filter fun pon => decide (q pon)).map PonPort.id).map fun p =>
        .dispatch (.ponIndication s p)) =
      some { o with
        pons := o.pons.map fun pon =>
          if q pon then ({ pon with operState := s }).fireInternal c o.controlledActivation s.tx
          else pon } := by
  rw [runOps_ponIndications s _ hnd (hnd.sublist ((List.filter_sublist _).map _))
    fun p hp => mem_filter_ponIds hp]
  refine congrArg (fun l => some { o with pons := l }) (List.map_congr_left fun pon hpon => ?_)
  simp only [mem_map_filter_iff hnd hpon, decide_eq_true_eq]

/-- An OLT message moves the OLT's `InternalState` by `enable` for `UP` and `disable` for `DOWN`,
and sets its `OperState` to the message's. -/
theorem dispatch_oltIndication (s : OperState) :
    processMessage c o (.oltIndication s) = some ({ o with
      internalState :=
        (o.internalState.fire (if s = .up then .enable else .disable)).getD o.internalState,
      operState := s }, [.olt s]) := by
  have htx : (if s = .up then OltInternalTx.enable else .disable) = .enable ∨
      (if s = .up then OltInternalTx.enable else .disable) = .disable := by
    split_ifs <;> simp
  simp only [processMessage, internalEvent_getD htx, Option.bind_eq_bind, Option.some_bind,
    OperState.fire_tx_getD]

/-- The `enable` event takes an OLT that rests in `initialized`, `enabled` or `disabled` to
`enabled`; it refuses the event in `enabled`, which is where it would go. -/
theorem OltInternalState.fire_enable_getD {st : OltInternalState}
    (hs : st = .initialized ∨ st = .enabled ∨ st = .disabled) :
    (st.fire .enable).getD st = .enabled := by
  rcases hs with rfl | rfl | rfl <;> rfl

/-- The `disable` event takes an OLT that rests in `enabled` or `disabled` to `disabled`, and
leaves one in `initialized`, where the machine refuses it. -/
theorem OltInternalState.fire_disable_getD {st : OltInternalState}
    (hs : st = .initialized ∨ st = .enabled ∨ st = .disabled) :
    (st.fire .disable).getD st = if st = .initialized then .initialized else .disabled := by
  rcases hs with rfl | rfl | rfl <;> rfl

end Dispatch

/-! ## `Enable`, then the loop -/

section Enable

variable {c : Collaborators} {o : OltDevice}

/-- Every reachable state is settled, and its PON ports and its NNI ports have distinct IDs: those
`CreateOLT` gives them, which no step changes. -/
theorem Reachable.settled_portIds (h : Reachable c o) :
    o.Settled ∧ (o.pons.map PonPort.id).Nodup ∧ (o.nnis.map NniPort.id).Nodup := by
  induction h with
  | @create cfg _ _ _ hc =>
    obtain ⟨_, -, rfl, -, -⟩ := createOLT_cases hc
    obtain ⟨hp, hn, -⟩ := createOLT_eq_some hc
    refine ⟨createOLT_settled hc, ?_, by simp [hn]⟩
    rw [hp, List.map_map]
    refine List.Nodup.map_on (fun a ha b hb hab => ?_) (List.nodup_range _)
    have hlt : ∀ x ∈ List.range cfg.ponPorts.toNat, x < UInt32.size := fun x hx =>
      (List.mem_range.mp hx).trans (UInt32.toNat_lt _)
    simpa [UInt32.toNat_ofNat_of_lt (hlt a ha), UInt32.toNat_ofNat_of_lt (hlt b hb)] using
      congrArg UInt32.toNat hab
  | step _ hs ih =>
    have hports := Op.step_ports hs
    refine ⟨ih.1.step hs, (ponIds_of_ports hports).symm ▸ ih.2.1, ?_⟩
    have hn := congrArg Prod.snd hports
    simp only [OltDevice.ports] at hn
    exact hn ▸ ih.2.2

/-- The messages of sends on the OLT's channel. -/
theorem filterMap_oltMessage_sendOlt {α : Type} (f : α → Message) (l : List α) :
    (l.map fun a => Effect.sendOlt (f a)).filterMap Effect.oltMessage = l.map f := by
  induction l <;> simp [*, Effect.oltMessage]

/-- `Enable`'s sends: the OLT's `UP`, one `UP` for each NNI port, then `UP` for some of the PON
ports, in their order. -/
theorem enableSends_eq (o : OltDevice) (b : Bool) :
    ∃ L : List UInt32, L.Sublist (o.pons.map PonPort.id) ∧
      enableSends o b = .sendOlt (.oltIndication .up) ::
        ((o.nnis.map NniPort.id).map fun p => .sendOlt (.nniIndication .up p)) ++
          L.map fun p => .sendOlt (.ponIndication .up p) := by
  unfold enableSends
  split_ifs
  · exact ⟨(o.pons.filter (·.internalState = .disabled)).map PonPort.id,
      (List.filter_sublist _).map _, by simp [Function.comp_def]⟩
  · exact ⟨o.pons.map PonPort.id, .refl _, by simp [Function.comp_def]⟩
  · exact ⟨[], List.nil_sublist _, by simp⟩

/-- `Enable` on an OLT that is not rebooting: the enable context, its sends, and, unless
`enablePerf` is on, the start of `periodicPortStats`. -/
theorem enable_of_ne_deleted (hdel : o.internalState ≠ .deleted) :
    Bbsim.enable o = ⟨{ o with enableContext := true },
      enableSends o o.enableContext ++ (if o.enablePerf then [] else [.startPortStats]), .ok ()⟩ := by
  rw [Bbsim.enable, if_neg hdel]

/-- The goroutine of `periodicPortStats` sends nothing on the OLT's channel. -/
theorem filterMap_oltMessage_portStats (l : List Effect) (b : Bool) :
    (l ++ if b then [] else [Effect.startPortStats]).filterMap Effect.oltMessage =
      l.filterMap Effect.oltMessage := by
  split_ifs <;> simp [Effect.oltMessage]

/-- `Enable`, then the dispatch loop handling its sends in the order sent, with nothing else in
between, from any reachable state: no step panics, and the OLT ends `enabled` and up with its enable
context set, every NNI port up, and every PON port that `Enable` sent `UP` for up. -/
theorem enable_then_dispatch (h : Reachable c o) :
    ∃ o', runOps c (Bbsim.enable o).dev
        (((Bbsim.enable o).effects.filterMap Effect.oltMessage).map .dispatch) = some o' ∧
      o'.internalState = .enabled ∧ o'.operState = .up ∧ o'.enableContext = true ∧
      (∀ nni ∈ o'.nnis, nni.operState = .up) ∧
      ∀ pon ∈ o'.pons, Effect.sendOlt (.ponIndication .up pon.id) ∈ (Bbsim.enable o).effects →
        pon.operState = .up := by
  obtain ⟨hs, hpon, hnni⟩ := h.settled_portIds
  have hdel : o.internalState ≠ .deleted := by rcases hs.state with h | h | h <;> simp [h]
  obtain ⟨L, hL, hsends⟩ := enableSends_eq o o.enableContext
  have hops : ((enableSends o o.enableContext).filterMap Effect.oltMessage).map Op.dispatch =
      .dispatch (.oltIndication .up) ::
        ((o.nnis.map NniPort.id).map fun p => .dispatch (.nniIndication .up p)) ++
          L.map fun p => .dispatch (.ponIndication .up p) := by
    rw [hsends]
    simp only [List.filterMap_cons, Effect.oltMessage, List.filterMap_append,
      filterMap_oltMessage_sendOlt]
    simp only [List.map_cons, List.map_append, List.map_map]
    rfl
  have h₁ : processMessage c { o with enableContext := true } (.oltIndication .up) =
      some ({ o with enableContext := true, internalState := .enabled, operState := .up },
        [.olt .up]) := by
    rw [dispatch_oltIndication, if_pos rfl, OltInternalState.fire_enable_getD hs.state]
  have h₃ := runOps_nniIndications (c := c) .up _
    (o := { o with enableContext := true, internalState := .enabled, operState := .up }) hnni hnni
    fun p hp => hp
  have h₄ := runOps_ponIndications (c := c) .up L (o := { o with
      enableContext := true, internalState := .enabled, operState := .up,
      nnis := o.nnis.map fun nni =>
        if nni.id ∈ o.nnis.map NniPort.id then { nni with operState := .up } else nni })
    hpon (hpon.sublist hL) fun p hp => hL.subset hp
  rw [enable_of_ne_deleted hdel]
  refine ⟨_, by
    dsimp only
    rw [filterMap_oltMessage_portStats, hops, List.cons_append, runOps.eq_2, Op.step, h₁,
      Option.map_some', Option.some_bind, runOps_append, h₃, Option.some_bind, h₄],
    rfl, rfl, rfl, fun nni hn => ?_, fun pon hp hmem => ?_⟩
  · obtain ⟨b, hb, rfl⟩ := List.mem_map.mp hn
    rw [if_pos (List.mem_map_of_mem _ hb)]
  · obtain ⟨b, -, rfl⟩ := List.mem_map.mp hp
    split
    · exact PonPort.fireInternal_operState ..
    · rename_i hbL
      rw [if_neg hbL, hsends] at hmem
      exact absurd (by split_ifs at hmem <;> simpa using hmem) hbL

/-- `Enable` on the sample OLT just created, then its messages. -/
theorem enable_then_dispatch_created :
    ∃ o, createdOlt = some o ∧ Reachable sampleCollaborators o ∧
      ∃ o', runOps sampleCollaborators (Bbsim.enable o).dev
          (((Bbsim.enable o).effects.filterMap Effect.oltMessage).map .dispatch) = some o' ∧
        o'.internalState = .enabled ∧ o'.operState = .up ∧ o'.enableContext = true ∧
        (∀ nni ∈ o'.nnis, nni.operState = .up) ∧
        ∀ pon ∈ o'.pons, Effect.sendOlt (.ponIndication .up pon.id) ∈ (Bbsim.enable o).effects →
          pon.operState = .up := by
  obtain ⟨o, ho⟩ : ∃ o, createdOlt = some o := ⟨_, rfl⟩
  have h := Reachable.create ho
  exact ⟨o, ho, h, enable_then_dispatch h⟩

/-! ## Bringing the OLT up -/

/-- `CreateOLT` leaves the enable context unset, and the activation mode that the configuration
names, or `Default`. -/
theorem createOLT_enableContext {cfg : GlobalConfig} {nni : Option NniPort} {signature : UInt32}
    (h : createOLT c cfg nni signature = some o) :
    o.enableContext = false ∧ o.controlledActivation = cfg.controlledActivation.getD .default := by
  obtain ⟨_, o₁, -, h₁, h⟩ := createOLT_cases h
  obtain ⟨-, ho₁⟩ := foldlM_createPon_eq_some _ h₁
  obtain ⟨-, -, _, _, -, rfl⟩ := initOlt_cases h
  rw [ho₁]
  exact ⟨rfl, rfl⟩

/-- The messages of a first `Enable`: the OLT's `UP`, `UP` for each NNI port, then `UP` for every
PON port in the activation modes `Default` and `OnlyONU`, and for none in the others. -/
theorem enableSends_first_messages (o : OltDevice) :
    ((enableSends o false).filterMap Effect.oltMessage).map Op.dispatch =
      .dispatch (.oltIndication .up) ::
        ((o.nnis.map NniPort.id).map fun p => .dispatch (.nniIndication .up p)) ++
          (if o.controlledActivation = .default ∨ o.controlledActivation = .onlyOnu then
            o.pons.map PonPort.id else []).map fun p => .dispatch (.ponIndication .up p) := by
  unfold enableSends
  simp only [Bool.false_eq_true, if_false]
  split_ifs <;>
  · simp only [List.filterMap_cons, Effect.oltMessage, List.filterMap_append,
      filterMap_oltMessage_sendOlt, List.filterMap_nil, List.map_cons, List.map_append, List.map_map,
      List.map_nil]
    rfl

/-- `CreateOLT`, then `Enable` and its messages handled by the dispatch loop with nothing else in
between, where a PON port's machine goes from `created` to `enabled` on `enable`: the OLT comes up
`enabled` and up with its enable context set and its NNI port up. In the activation modes `Default`
and `OnlyONU` every PON port comes up `enabled`, its ONUs moved by the enter callbacks of that move;
in `OnlyPON` and `Both` the PON ports stay as `CreateOLT` made them, `created` and down, for
`EnablePonIf` to bring up. Nothing else changes. -/
theorem createOLT_then_enable {cfg : GlobalConfig} {nni : NniPort} {signature : UInt32}
    (hc : createOLT c cfg (some nni) signature = some o)
    (hen : c.ponTransition .enable .created = some .enabled) :
    runOps c (Bbsim.enable o).dev
        (((Bbsim.enable o).effects.filterMap Effect.oltMessage).map .dispatch) = some { o with
      enableContext := true, internalState := .enabled, operState := .up,
      nnis := [{ nni with operState := .up }],
      pons := if cfg.controlledActivation.getD .default = .default ∨
          cfg.controlledActivation.getD .default = .onlyOnu then
        o.pons.map fun pon => { pon.enter c (cfg.controlledActivation.getD .default) .created .enabled with
          internalState := .enabled, operState := .up }
        else o.pons } := by
  obtain ⟨hp, hn, hst, -⟩ := createOLT_eq_some hc
  obtain ⟨hctx, hmode⟩ := createOLT_enableContext hc
  obtain ⟨-, hpon, hnni⟩ := (Reachable.create hc).settled_portIds
  have hdel : o.internalState ≠ .deleted := by rw [hst]; nofun
  have h₁ : processMessage c { o with enableContext := true } (.oltIndication .up) =
      some ({ o with enableContext := true, internalState := .enabled, operState := .up },
        [.olt .up]) := by
    rw [dispatch_oltIndication, if_pos rfl, hst]
    rfl
  set L : List UInt32 := if o.controlledActivation = .default ∨ o.controlledActivation = .onlyOnu
    then o.pons.map PonPort.id else [] with hL
  have hLsub : L.Sublist (o.pons.map PonPort.id) := by
    rw [hL]; split_ifs
    exacts [.refl _, List.nil_sublist _]
  have h₃ := runOps_nniIndications (c := c) .up _
    (o := { o with enableContext := true, internalState := .enabled, operState := .up }) hnni hnni
    fun p hp => hp
  have h₄ := runOps_ponIndications (c := c) .up L (o := { o with
      enableContext := true, internalState := .enabled, operState := .up,
      nnis := o.nnis.map fun nni =>
        if nni.id ∈ o.nnis.map NniPort.id then { nni with operState := .up } else nni })
    hpon (hpon.sublist hLsub) fun p hp => hLsub.subset hp
  rw [enable_of_ne_deleted hdel]
  dsimp only
  rw [filterMap_oltMessage_portStats, hctx, enableSends_first_messages, List.cons_append,
    runOps.eq_2, Op.step, h₁, Option.map_some', Option.some_bind, runOps_append, h₃,
    Option.some_bind, h₄]
  have hnnis : (o.nnis.map fun nni =>
      if nni.id ∈ o.nnis.map NniPort.id then { nni with operState := .up } else nni) =
      [{ nni with operState := .up }] := by
    simp [hn]
  have hpons : (o.pons.map fun pon => if pon.id ∈ L then
      ({ pon with operState := .up }).fireInternal c o.controlledActivation OperState.up.tx
      else pon) =
      if cfg.controlledActivation.getD .default = .default ∨
          cfg.controlledActivation.getD .default = .onlyOnu then
        o.pons.map fun pon => { pon.enter c (cfg.controlledActivation.getD .default) .created .enabled with
          internalState := .enabled, operState := .up }
      else o.pons := by
    rw [hL, hmode]
    split_ifs
    · refine List.map_congr_left fun pon hpon' => ?_
      have hcreated : pon.internalState = .created := by
        rw [hp] at hpon'
        obtain ⟨i, -, rfl⟩ := List.mem_map.mp hpon'
        rfl
      simp [List.mem_map_of_mem _ hpon', PonPort.fireInternal, hcreated, hen, OperState.tx,
        PonPort.enter, hmode]
    · simp
  rw [hnnis, hpons]

/-- The sample OLT brought up: its configuration asks for the `Default` activation mode, so its
PON port comes up `enabled`. -/
theorem createOLT_then_enable_sample :
    ∃ o, createdOlt = some o ∧
      sampleCollaborators.ponTransition .enable .created = some .enabled ∧
      runOps sampleCollaborators (Bbsim.enable o).dev
          (((Bbsim.enable o).effects.filterMap Effect.oltMessage).map .dispatch) = some { o with
        enableContext := true, internalState := .enabled, operState := .up,
        nnis := [{ (⟨0, .up⟩ : NniPort) with operState := .up }],
        pons := if sampleConfig.controlledActivation.getD .default = .default ∨
            sampleConfig.controlledActivation.getD .default = .onlyOnu then
          o.pons.map fun pon => { pon.enter sampleCollaborators
            (sampleConfig.controlledActivation.getD .default) .created .enabled with
              internalState := .enabled, operState := .up }
          else o.pons } :=
  ⟨_, rfl, rfl, createOLT_then_enable
    (show createOLT sampleCollaborators sampleConfig (some ⟨0, .up⟩) 0 = some _ from rfl) rfl⟩

/-! ## `DisableOlt` and `ReenableOlt`, then the loop -/

/-- `DisableOlt`'s messages: `DOWN` for each enabled PON port, in their order, then the OLT's
`DOWN`. -/
theorem disableOlt_messages (o : OltDevice) :
    ((disableOlt o).effects.filterMap Effect.oltMessage).map Op.dispatch =
      (((o.pons.filter (·.internalState = .enabled)).map PonPort.id).map fun p =>
        .dispatch (.ponIndication .down p)) ++ [.dispatch (.oltIndication .down)] := by
  simp only [disableOlt, List.filterMap_append, filterMap_oltMessage_sendOlt, List.filterMap_cons,
    List.filterMap_nil, Effect.oltMessage, List.map_append, List.map_map]
  rfl

/-- `ReenableOlt`'s messages: the OLT's `UP`, then `UP` for each disabled PON port, in their
order. -/
theorem reenableOlt_messages (o : OltDevice) :
    ((reenableOlt o).effects.filterMap Effect.oltMessage).map Op.dispatch =
      .dispatch (.oltIndication .up) :: (((o.pons.filter (·.internalState = .disabled)).map
        PonPort.id).map fun p => .dispatch (.ponIndication .up p)) := by
  simp only [reenableOlt, List.filterMap_cons, Effect.oltMessage, filterMap_oltMessage_sendOlt,
    List.map_cons, List.map_map]
  rfl

/-- The device after `DisableOlt`'s messages. -/
theorem runOps_disableOlt (h : Reachable c o) :
    runOps c o (((disableOlt o).effects.filterMap Effect.oltMessage).map .dispatch) = some { o with
      pons := o.pons.map fun pon =>
        if pon.internalState = .enabled then
          ({ pon with operState := .down }).fireInternal c o.controlledActivation .disable
        else pon,
      internalState := if o.internalState = .initialized then .initialized else .disabled,
      operState := .down } := by
  obtain ⟨hs, hpon, -⟩ := h.settled_portIds
  rw [disableOlt_messages, runOps_append, runOps_ponIndications_filter .down _ hpon,
    Option.some_bind, runOps.eq_2, Op.step, dispatch_oltIndication, if_neg nofun,
    OltInternalState.fire_disable_getD hs.state]
  rfl

/-- The device after `ReenableOlt`'s messages. -/
theorem runOps_reenableOlt (h : Reachable c o) :
    runOps c o (((reenableOlt o).effects.filterMap Effect.oltMessage).map .dispatch) = some { o with
      internalState := .enabled, operState := .up,
      pons := o.pons.map fun pon =>
        if pon.internalState = .disabled then
          ({ pon with operState := .up }).fireInternal c o.controlledActivation .enable
        else pon } := by
  obtain ⟨hs, hpon, -⟩ := h.settled_portIds
  rw [reenableOlt_messages, runOps.eq_2, Op.step, dispatch_oltIndication, if_pos rfl,
    OltInternalState.fire_enable_getD hs.state, Option.map_some', Option.some_bind]
  exact runOps_ponIndications_filter (o := { o with internalState := .enabled, operState := .up })
    .up _ hpon

/-- `DisableOlt` and `ReenableOlt`, each followed by the dispatch loop handling its sends in the
order sent with nothing else in between, from any reachable state. Neither panics. `DisableOlt`
moves every enabled PON port down by `disable`, and the OLT down and to `disabled`, unless it was
only `initialized`, where the machine refuses `disable`. `ReenableOlt` moves every disabled PON port
up by `enable`, and the OLT up and to `enabled`. Nothing else changes. -/
theorem disableOlt_reenableOlt_then_dispatch (h : Reachable c o) :
    runOps c o (((disableOlt o).effects.filterMap Effect.oltMessage).map .dispatch) = some { o with
      pons := o.pons.map fun pon =>
        if pon.internalState = .enabled then
          ({ pon with operState := .down }).fireInternal c o.controlledActivation .disable
        else pon,
      internalState := if o.internalState = .initialized then .initialized else .disabled,
      operState := .down } ∧
    runOps c o (((reenableOlt o).effects.filterMap Effect.oltMessage).map .dispatch) = some { o with
      internalState := .enabled, operState := .up,
      pons := o.pons.map fun pon =>
        if pon.internalState = .disabled then
          ({ pon with operState := .up }).fireInternal c o.controlledActivation .enable
        else pon } :=
  ⟨runOps_disableOlt h, runOps_reenableOlt h⟩

/-- `DisableOlt` and `ReenableOlt` on the sample OLT just created, then their messages. -/
theorem disableOlt_reenableOlt_then_dispatch_created :
    ∃ o, createdOlt = some o ∧ Reachable sampleCollaborators o ∧
      runOps sampleCollaborators o
          (((disableOlt o).effects.filterMap Effect.oltMessage).map .dispatch) =
        some { o with
          pons := o.pons.map fun pon => if pon.internalState = .enabled then
            ({ pon with operState := .down }).fireInternal sampleCollaborators
              o.controlledActivation .disable else pon,
          internalState := if o.internalState = .initialized then .initialized else .disabled,
          operState := .down } ∧
      runOps sampleCollaborators o
          (((reenableOlt o).effects.filterMap Effect.oltMessage).map .dispatch) =
        some { o with
          internalState := .enabled, operState := .up,
          pons := o.pons.map fun pon => if pon.internalState = .disabled then
            ({ pon with operState := .up }).fireInternal sampleCollaborators
              o.controlledActivation .enable else pon } := by
  obtain ⟨o, ho⟩ : ∃ o, createdOlt = some o := ⟨_, rfl⟩
  have h := Reachable.create ho
  exact ⟨o, ho, h, disableOlt_reenableOlt_then_dispatch h⟩

/-- `DisableOlt` then `ReenableOlt`, each followed by the dispatch loop handling its messages, from
any reachable state, where a PON port's machine goes from `enabled` to `disabled` on `disable` and
back on `enable`: the device comes back as it was, with the OLT `enabled` and up, and every PON port
that has left `created` `enabled` and up, also one that was disabled before `DisableOlt`. The ONUs
of such a port are moved by the enter callbacks of each move of the port: from `enabled` to
`disabled` if it was enabled, then back. -/
theorem disableOlt_then_reenableOlt (h : Reachable c o)
    (hdisable : c.ponTransition .disable .enabled = some .disabled)
    (henable : c.ponTransition .enable .disabled = some .enabled) :
    ∃ o₁, runOps c o (((disableOlt o).effects.filterMap Effect.oltMessage).map .dispatch) =
        some o₁ ∧
      runOps c o₁ (((reenableOlt o₁).effects.filterMap Effect.oltMessage).map .dispatch) =
        some { o with
          internalState := .enabled, operState := .up,
          pons := o.pons.map fun pon =>
            if pon.internalState = .created then pon
            else { ((if pon.internalState = .enabled then
                pon.enter c o.controlledActivation .enabled .disabled else pon).enter c
                  o.controlledActivation .disabled .enabled) with
              internalState := .enabled, operState := .up } } := by
  have h₁ := runOps_disableOlt h
  refine ⟨_, h₁, ?_⟩
  rw [runOps_reenableOlt (h.runOps h₁), List.map_map]
  refine congrArg (fun l => some { o with internalState := .enabled, operState := .up, pons := l })
    (List.map_congr_left fun pon _ => ?_)
  rcases pon with ⟨id, _ | _ | _, operState, onus⟩
  · rfl
  · simp [PonPort.fireInternal, hdisable, henable, PonPort.enter]
  · simp [PonPort.fireInternal, henable, PonPort.enter]

/-- `DisableOlt` then `ReenableOlt` on the sample OLT just created, whose PON ports' machine the
sample's table moves both ways. -/
theorem disableOlt_then_reenableOlt_created :
    ∃ o, createdOlt = some o ∧ Reachable sampleCollaborators o ∧
      sampleCollaborators.ponTransition .disable .enabled = some .disabled ∧
      sampleCollaborators.ponTransition .enable .disabled = some .enabled ∧
      ∃ o₁, runOps sampleCollaborators o
          (((disableOlt o).effects.filterMap Effect.oltMessage).map .dispatch) = some o₁ ∧
        runOps sampleCollaborators o₁
            (((reenableOlt o₁).effects.filterMap Effect.oltMessage).map .dispatch) =
          some { o with
            internalState := .enabled, operState := .up,
            pons := o.pons.map fun pon => if pon.internalState = .created then pon
              else { ((if pon.internalState = .enabled then
                  pon.enter sampleCollaborators o.controlledActivation .enabled .disabled
                  else pon).enter sampleCollaborators o.controlledActivation .disabled .enabled) with
                internalState := .enabled, operState := .up } } := by
  obtain ⟨o, ho⟩ : ∃ o, createdOlt = some o := ⟨_, rfl⟩
  have h := Reachable.create ho
  exact ⟨o, ho, h, rfl, rfl, disableOlt_then_reenableOlt h rfl rfl⟩

/-! ## `DisablePonIf` and `EnablePonIf`, then the loop -/

/-- `DisablePonIf` and `EnablePonIf` on a PON port of the device leave the device as it is and
send one message on the OLT's channel, the port's indication; the ONUs' indications go to the
stream. -/
theorem setPonIf_messages {p : UInt32} (s : OperState) (hp : p ∈ o.pons.map PonPort.id) :
    ∃ r, setPonIf o p s = some r ∧ r.dev = o ∧
      r.effects.filterMap Effect.oltMessage = [.ponIndication s p] := by
  obtain ⟨i, pon, hget⟩ := getPonById_of_hasPon ((hasPon_iff_mem o p).mpr hp)
  refine ⟨⟨o, .sendOlt (.ponIndication s p) :: pon.onus.map (sendOnuIndication p s), .ok ()⟩,
    by simp only [setPonIf, hget], rfl, ?_⟩
  simp [Effect.oltMessage, sendOnuIndication, List.filterMap_map, Function.comp_def]

/-- `DisablePonIf` then `EnablePonIf` on an enabled PON port, each followed by the dispatch loop
handling its message, from any reachable state, where a PON port's machine goes from `enabled` to
`disabled` on `disable` and back on `enable`: nothing panics, and the device comes back as it was,
with the port up and its ONUs moved by the enter callbacks of both moves. -/
theorem disablePonIf_then_enablePonIf (h : Reachable c o) {pon : PonPort} (hpon : pon ∈ o.pons)
    (hen : pon.internalState = .enabled)
    (hdisable : c.ponTransition .disable .enabled = some .disabled)
    (henable : c.ponTransition .enable .disabled = some .enabled) :
    ∃ r₁ o₁ r₂, disablePonIf o pon.id = some r₁ ∧
      runOps c r₁.dev ((r₁.effects.filterMap Effect.oltMessage).map .dispatch) = some o₁ ∧
      enablePonIf o₁ pon.id = some r₂ ∧
      runOps c r₂.dev ((r₂.effects.filterMap Effect.oltMessage).map .dispatch) = some { o with
        pons := o.pons.map fun q => if q.id = pon.id then
          { (q.enter c o.controlledActivation .enabled .disabled).enter c o.controlledActivation
              .disabled .enabled with operState := .up }
          else q } := by
  obtain ⟨-, hnd, -⟩ := h.settled_portIds
  have hp : pon.id ∈ o.pons.map PonPort.id := List.mem_map_of_mem _ hpon
  obtain ⟨r₁, hr₁, rfl, he₁⟩ := setPonIf_messages .down hp
  have h₁ := runOps_ponIndications (c := c) .down [pon.id] hnd (List.nodup_singleton _)
    (by simpa using hp)
  set o₁ : OltDevice := { r₁.dev with pons := r₁.dev.pons.map fun q : PonPort =>
    if q.id ∈ [pon.id] then
      ({ q with operState := .down }).fireInternal c r₁.dev.controlledActivation OperState.down.tx
    else q }
  have hids : o₁.pons.map PonPort.id = r₁.dev.pons.map PonPort.id := by
    refine (List.map_map _ _ _).trans (List.map_congr_left fun q _ => ?_)
    simp only [Function.comp_apply]; split_ifs <;> simp
  obtain ⟨r₂, hr₂, hd₂, he₂⟩ := setPonIf_messages (o := o₁) .up (hids ▸ hp)
  have h₂ := runOps_ponIndications (c := c) .up [pon.id] (hids ▸ hnd) (List.nodup_singleton _)
    fun q hq => by rw [List.mem_singleton.mp hq, hids]; exact hp
  refine ⟨r₁, o₁, r₂, hr₁, by rw [he₁]; exact h₁, hr₂, ?_⟩
  rw [he₂, hd₂]
  refine h₂.trans (congrArg (fun l => some { r₁.dev with pons := l }) ?_)
  rw [List.map_map]
  refine List.map_congr_left fun q hq => ?_
  by_cases hqid : q.id = pon.id
  · obtain rfl : q = pon := List.inj_on_of_nodup_map hnd hq hpon hqid
    simp [hen, PonPort.fireInternal, hdisable, henable, OperState.tx, PonPort.enter, o₁]
  · simp [hqid]

/-- `DisablePonIf` then `EnablePonIf` on the PON port of the sample OLT once `Enable`'s messages
have enabled it, whose machine the sample's table moves both ways. -/
theorem disablePonIf_then_enablePonIf_enabled :
    ∃ o pon, (createdOlt.bind fun o => runOps sampleCollaborators o [.enable,
        .dispatch (.oltIndication .up), .dispatch (.nniIndication .up 0),
        .dispatch (.ponIndication .up 0)]) = some o ∧
      Reachable sampleCollaborators o ∧ pon ∈ o.pons ∧ pon.internalState = .enabled ∧
      sampleCollaborators.ponTransition .disable .enabled = some .disabled ∧
      sampleCollaborators.ponTransition .enable .disabled = some .enabled ∧
      ∃ r₁ o₁ r₂, disablePonIf o pon.id = some r₁ ∧
        runOps sampleCollaborators r₁.dev
          ((r₁.effects.filterMap Effect.oltMessage).map .dispatch) = some o₁ ∧
        enablePonIf o₁ pon.id = some r₂ ∧
        runOps sampleCollaborators r₂.dev
          ((r₂.effects.filterMap Effect.oltMessage).map .dispatch) = some { o with
            pons := o.pons.map fun q => if q.id = pon.id then
              { (q.enter sampleCollaborators o.controlledActivation .enabled .disabled).enter
                  sampleCollaborators o.controlledActivation .disabled .enabled with operState := .up }
              else q } := by
  have h := (Reachable.create (show createdOlt = some _ from rfl)).runOps
    (show runOps sampleCollaborators _ [.enable, .dispatch (.oltIndication .up),
      .dispatch (.nniIndication .up 0), .dispatch (.ponIndication .up 0)] = some _ from rfl)
  exact ⟨_, _, rfl, h, .head _, rfl, rfl, rfl,
    disablePonIf_then_enablePonIf h (.head _) rfl rfl rfl⟩

end Enable

end Bbsim
