import Bbsim.Concurrency.Channel
import Bbsim.System.Enable

/-!
# No fault without a reboot

Only `RestartOLT` closes the OLT's channel, and no step adds, removes or renumbers a port
(`runOps_ports`). A request that sends on the channel names a port it found (`Rpc.handle_fits`), and
so does `Enable` (`enableSends_fit`); the port is still there when the loop takes the message
(`Message.namesPortOf_of_ports`), and the loop's lookups find it (`processMessage_of_namesPortOf`).

So while no reboot runs, whatever the schedule of the goroutines of `Enable` and of requests that do
not panic on any reachable device with the OLT's ports, the dispatch loop beside them never faults:
no send finds the channel closed, and no lookup of the loop panics. The loop handling a message is
the step `dispatch` of the device, a handler run on the device it finds, with its device written
back, is the step of its request, and the new context of `Enable` is the device the step `enable`
leaves. So every device of the interleaving is one that a run of steps reaches from the start
(`runWorld_refines_runOps`), and every invariant of the reachable states holds between any two
steps of the interleaving.

A reboot beside the other goroutines can make one of them fault: a send after the channel is
closed, or a panic in the reboot's own code. It cannot make the loop fault. The ports are all the
loop reads to find a message's port, and a reboot keeps them too (`restartDelete_ports`,
`internalEvent_ports`), so whatever the goroutines and the schedule, the loop's next step after any
run that has not faulted does not fault (`runWorld_loop_never_faults`).

The other way round, the runs of steps are those of the interleavings. With one request's goroutine
beside the loop, the loop takes its messages in the order sent, one at a time, so the schedule does
not matter: once the goroutine has ended and the loop is idle, the device is the one the loop
reaches handling the request's messages one after another (`runWorld_alone_refines`), as the
sequential results of `System.Enable` take it.
-/

namespace Bbsim

/-! ## The ports the loop looks up -/

section Ports

variable {c : Collaborators} {o o' : OltDevice}

/-- `HasNni` reads only the ports. -/
theorem hasNni_of_ports (h : o'.ports = o.ports) (id : UInt32) : hasNni o' id = hasNni o id := by
  have hids (d : OltDevice) : hasNni d id = true ↔ id ∈ d.nnis.map (·.id) := by
    simp only [hasNni, List.any_eq_true, beq_iff_eq, List.mem_map]
  exact Bool.eq_iff_iff.mpr (by
    rw [hids, hids, show o'.nnis.map (·.id) = o.nnis.map (·.id) from congrArg Prod.snd h])

/-- Whether a message names a port reads only the ports. -/
theorem Message.namesPortOf_of_ports (h : o'.ports = o.ports) (m : Message) :
    m.namesPortOf o' = m.namesPortOf o := by
  cases m <;> simp only [Message.namesPortOf, hasPon_of_ports h, hasNni_of_ports h]

/-- The loop handles a message that names one of the device's ports without a panic: its lookup of
the PON or NNI port finds it, and the OLT's `enable` and `disable` events have no callback. -/
theorem processMessage_of_namesPortOf {m : Message} (hm : m.namesPortOf o = true) :
    ∃ p, processMessage c o m = some p := by
  cases m with
  | oltIndication s =>
    simp only [processMessage, Option.bind_eq_bind]
    rw [internalEvent_getD (by cases s <;> simp)]
    exact ⟨_, rfl⟩
  | nniIndication s id =>
    cases hf : findWithIdx? (·.id == id) o.nnis with
    | none =>
      obtain ⟨nni, hn, hid⟩ := List.any_eq_true.mp hm
      exact absurd hid (by simp [findWithIdx?_eq_none.mp hf nni hn])
    | some x => simp [processMessage, hf]
  | ponIndication s id =>
    obtain ⟨i, pon, hp⟩ := getPonById_of_hasPon hm
    simp [processMessage, hp]
  | _ => exact ⟨_, rfl⟩

/-- On a reachable device, which is never `deleted`, the step `enable` makes the new context. -/
theorem runOps_enable (h : Reachable c o) :
    runOps c o [.enable] = some { o with enableContext := true } := by
  have hd : o.internalState ≠ .deleted := by
    rcases h.settled.state with hs | hs | hs <;> simp [hs]
  simp only [runOps, Op.step, Bbsim.enable, if_neg hd, Option.some_bind]

end Ports

/-! ## The acts of a handler's effects -/

/-- An effect that fits a device with `o`'s ports becomes a send of a message that names one of
`o`'s ports, or a write. -/
theorem Effect.act_of_fits {o d : OltDevice} {e : Effect} {a : Act} (he : e.fits d = true)
    (hp : d.ports = o.ports) (ha : e.act = some a) :
    (∃ m, a = .send m ∧ m.namesPortOf o = true) ∨ ∃ ind, a = .write ind := by
  cases e with
  | sendOlt m =>
    cases ha
    exact .inl ⟨m, rfl, (Message.namesPortOf_of_ports hp m).symm.trans he⟩
  | write ind => cases ha; exact .inr ⟨ind, rfl⟩
  | sendOnu | publish | startPortStats => cases ha

/-! ## Acts that cannot fault -/

/-- What a goroutine may do beside the loop without a fault, while no reboot runs and the ports are
`o`'s: send a message that names one of the ports, write, take or release the lock, run code that
never panics on a reachable device and leaves one that steps reach from it, or run a handler that
does not panic on a reachable device with the ports, leaves one that steps reach from it, and whose
effects fit it. Only `RestartOLT` closes the channel. -/
def Act.Safe (c : Collaborators) (o : OltDevice) : Act → Prop
  | .send m => m.namesPortOf o = true
  | .close => False
  | .run f => ∀ d, Reachable c d → ∃ d' b, f d = some (d', b) ∧ ∃ ops, runOps c d ops = some d'
  | .call f => ∀ d, Reachable c d → d.ports = o.ports → ∃ r, f d = some r ∧
      (∃ ops, runOps c d ops = some r.dev) ∧ ∀ e ∈ r.effects, e.fits d = true
  | _ => True

/-- What every interleaving keeps: the device is one that steps reach from `o`, the message in
flight names one of `o`'s ports, and every goroutine has only safe acts left. -/
structure World.Safe (c : Collaborators) (o : OltDevice) (w : World) : Prop where
  reached : ∃ ops, runOps c o ops = some w.dev
  inFlight : ∀ n m, w.inFlight = some (n, m) → m.namesPortOf o = true
  goroutines : ∀ g ∈ w.goroutines, ∀ a ∈ g, a.Safe c o

section Safe

variable {c : Collaborators} {o : OltDevice} {w : World}

/-- An effect that fits a device with `o`'s ports is a safe act. -/
theorem Effect.act_safe {d : OltDevice} {e : Effect} {a : Act} (he : e.fits d = true)
    (hp : d.ports = o.ports) (ha : e.act = some a) : a.Safe c o := by
  rcases Effect.act_of_fits he hp ha with ⟨m, rfl, hm⟩ | ⟨ind, rfl⟩
  exacts [hm, trivial]

/-- The goroutine of `Enable` started on a device with `o`'s ports, or of a request that does not
panic on a reachable device with those ports, has only safe acts. -/
theorem Call.program_safe {d : OltDevice} {call : Call} (hp : d.ports = o.ports)
    (hcall : call = .enable ∨ ∃ req, call = .rpc req ∧
      ∀ d, Reachable c d → d.ports = o.ports → req.handle c d ≠ none) :
    ∀ a ∈ call.program c d, a.Safe c o := by
  rcases hcall with rfl | ⟨req, rfl, hreq⟩
  · intro a ha
    simp only [Call.program, enableProgram, List.cons_append, List.singleton_append,
      List.nil_append, List.mem_cons, List.mem_filterMap] at ha
    rcases ha with rfl | rfl | rfl | rfl | ⟨e, he, hact⟩
    · exact fun d' _ => ⟨d', _, rfl, [], rfl⟩
    · trivial
    · exact fun d' hd' => ⟨_, true, rfl, [.enable], runOps_enable hd'⟩
    · trivial
    · exact Effect.act_safe (enableSends_fit d _ e he) hp hact
  · intro a ha
    rw [Call.program, Rpc.program, List.mem_singleton] at ha
    subst ha
    intro d' hd' hp'
    obtain ⟨r, hr⟩ := Option.ne_none_iff_exists'.mp (hreq d' hd' hp')
    exact ⟨r, hr, ⟨[.rpc req], by simp [runOps, Op.step, hr]⟩, Rpc.handle_fits hr⟩

/-- No step faults, and each keeps the invariant. -/
theorem World.Safe.step (h : Reachable c o) (hw : w.Safe c o) (who : Who) :
    ∃ w', w.step c who = .ok w' ∧ w'.Safe c o := by
  obtain ⟨ops, hops⟩ := hw.reached
  have hr : Reachable c w.dev := h.runOps hops
  cases who with
  | goroutine k =>
    cases hk : w.goroutines[k]? with
    | none => exact ⟨w, by simp only [World.step, hk], hw⟩
    | some g =>
      cases g with
      | nil => exact ⟨w, by simp only [World.step, hk], hw⟩
      | cons a rest =>
        have ha := hw.goroutines _ (List.getElem?_mem hk) a (List.mem_cons_self _ _)
        have hg := World.advance_forall hw.goroutines hk fun _ hx => .inl hx
        cases a with
        | send m =>
          simp only [World.step, hk, hr.settled.channelOpen, Bool.not_true,
            Bool.false_eq_true, if_false]
          split_ifs
          · exact ⟨w, rfl, hw⟩
          · exact ⟨_, rfl, ⟨ops, hops⟩, (fun _ _ he => by cases he; exact ha), hg⟩
        | write ind =>
          simp only [World.step, hk]
          exact ⟨_, rfl, ⟨ops, hops⟩, hw.inFlight, hg⟩
        | lock =>
          simp only [World.step, hk]
          split_ifs
          · exact ⟨w, rfl, hw⟩
          · exact ⟨_, rfl, ⟨ops, hops⟩, hw.inFlight, hg⟩
        | unlock =>
          simp only [World.step, hk]
          exact ⟨_, rfl, ⟨ops, hops⟩, hw.inFlight, hg⟩
        | close => exact ha.elim
        | run f =>
          obtain ⟨d, b, hf, ops', hops'⟩ := ha w.dev hr
          have hd : ∃ ops, runOps c o ops = some d :=
            ⟨ops ++ ops', by rw [runOps_append, hops]; exact hops'⟩
          simp only [World.step, hk, hf]
          cases b
          · exact ⟨_, rfl, hd, hw.inFlight,
              World.advance_forall hw.goroutines hk fun _ hx => absurd hx (List.not_mem_nil _)⟩
          · exact ⟨_, rfl, hd, hw.inFlight, hg⟩
        | call f =>
          obtain ⟨r, hf, ⟨ops', hops'⟩, hfit⟩ := ha w.dev hr (runOps_ports hops)
          simp only [World.step, hk, hf]
          refine ⟨_, rfl, ⟨ops ++ ops', by rw [runOps_append, hops]; exact hops'⟩, hw.inFlight,
            World.advance_forall hw.goroutines hk fun x hx => ?_⟩
          rcases List.mem_append.mp hx with hx | hx
          · obtain ⟨e, he, hact⟩ := List.mem_filterMap.mp hx
            exact .inr (Effect.act_safe (hfit e he) (runOps_ports hops) hact)
          · exact .inl hx
  | loop =>
    cases hfl : w.inFlight with
    | none => exact ⟨w, by simp only [World.step, hfl], hw⟩
    | some x =>
      obtain ⟨n, m⟩ := x
      have hm : m.namesPortOf w.dev = true :=
        (Message.namesPortOf_of_ports (runOps_ports hops) m).trans (hw.inFlight n m hfl)
      obtain ⟨⟨d, inds⟩, hp⟩ := processMessage_of_namesPortOf (c := c) hm
      simp only [World.step, hfl, hp]
      refine ⟨_, rfl, ⟨ops ++ [.dispatch m], ?_⟩, (fun _ _ he => by cases he), hw.goroutines⟩
      rw [runOps_append, hops]
      simp [runOps, Op.step, hp]

/-- No schedule faults, and every one keeps the invariant. -/
theorem World.Safe.runWorld (h : Reachable c o) :
    ∀ {w : World} (sched : List Who), w.Safe c o →
      ∃ w', Bbsim.runWorld c w sched = .ok w' ∧ w'.Safe c o
  | w, [], hw => ⟨w, rfl, hw⟩
  | w, who :: sched, hw => by
    obtain ⟨w₁, h₁, hw₁⟩ := hw.step h who
    obtain ⟨w', h', hw'⟩ := World.Safe.runWorld h sched hw₁
    exact ⟨w', by simp only [Bbsim.runWorld, h₁]; exact h', hw'⟩

end Safe

/-! ## Every interleaving without a reboot -/

section Interleavings

variable {c : Collaborators} {o : OltDevice}

/-- While no reboot runs, the dispatch loop and the goroutines of `Enable` and of requests that do
not panic on a reachable device with the OLT's ports, each started on a device with those ports,
never fault, whatever the schedule: no send finds the channel closed and no lookup of the loop
panics. Each handler runs on the device it finds and writes its device back, so the device at the
end is one that a run of steps reaches from the start, and it is reachable as well. -/
theorem runWorld_refines_runOps (h : Reachable c o) {calls : List (OltDevice × Call)}
    (hcalls : ∀ p ∈ calls, p.1.ports = o.ports ∧
      (p.2 = .enable ∨ ∃ req, p.2 = .rpc req ∧
        ∀ d, Reachable c d → d.ports = o.ports → req.handle c d ≠ none))
    (sched : List Who) :
    ∃ w ops, runWorld c (World.start o (calls.map fun p => p.2.program c p.1)) sched = .ok w ∧
      runOps c o ops = some w.dev := by
  have hw : (World.start o (calls.map fun p => p.2.program c p.1)).Safe c o := by
    refine ⟨⟨[], rfl⟩, (fun _ _ he => by cases he), fun g hg => ?_⟩
    obtain ⟨p, hp, rfl⟩ := List.mem_map.mp hg
    exact Call.program_safe (hcalls p hp).1 (hcalls p hp).2
  obtain ⟨w, hrun, hw'⟩ := hw.runWorld h sched
  obtain ⟨ops, hops⟩ := hw'.reached
  exact ⟨w, ops, hrun, hops⟩

/-- From the enabled sample OLT, `Enable` and `DisableOlt` side by side with the loop, which takes
`Enable`'s first message, then `DisableOlt`'s, between the steps of `Enable`. -/
theorem runWorld_refines_runOps_enabled :
    ∃ o, enabledOlt = some o ∧ Reachable sampleCollaborators o ∧
      (∀ p ∈ [(o, Call.enable), (o, .rpc .disableOlt)], p.1.ports = o.ports ∧
        (p.2 = .enable ∨ ∃ req, p.2 = .rpc req ∧ ∀ d, Reachable sampleCollaborators d →
          d.ports = o.ports → req.handle sampleCollaborators d ≠ none)) ∧
      ∃ w ops, runWorld sampleCollaborators (World.start o
          ([(o, Call.enable), (o, .rpc .disableOlt)].map
            fun p => p.2.program sampleCollaborators p.1))
          [.goroutine 0, .goroutine 0, .goroutine 0, .goroutine 0, .goroutine 0, .goroutine 1,
            .loop, .goroutine 1, .loop, .goroutine 0] = .ok w ∧
        runOps sampleCollaborators o ops = some w.dev := by
  have hcalls (o : OltDevice) : ∀ p ∈ [(o, Call.enable), (o, Call.rpc .disableOlt)],
      p.1.ports = o.ports ∧
        (p.2 = .enable ∨ ∃ req, p.2 = .rpc req ∧ ∀ d, Reachable sampleCollaborators d →
          d.ports = o.ports → req.handle sampleCollaborators d ≠ none) := by
    simp only [List.mem_cons, List.mem_singleton, List.not_mem_nil, or_false]
    rintro p (rfl | rfl)
    exacts [⟨rfl, .inl rfl⟩, ⟨rfl, .inr ⟨_, rfl, fun _ _ _ => Option.some_ne_none _⟩⟩]
  have hr := (Reachable.create (show createdOlt = some _ from rfl)).runOps
    (show runOps sampleCollaborators _ [.enable, .dispatch (.oltIndication .up),
      .dispatch (.ponIndication .up 0)] = some _ from rfl)
  exact ⟨_, rfl, hr, hcalls _, runWorld_refines_runOps hr (hcalls _) _⟩

end Interleavings

/-! ## The loop, reboots included -/

/-- What a goroutine may do so that the loop never faults, reboots included: send a message that
names one of `o`'s ports, run code that keeps the ports, or run a handler that keeps them and whose
effects fit the device it runs on. -/
def Act.KeepsPorts (o : OltDevice) : Act → Prop
  | .send m => m.namesPortOf o = true
  | .run f => ∀ d d' b, f d = some (d', b) → d'.ports = d.ports
  | .call f => ∀ d r, f d = some r → r.dev.ports = d.ports ∧ ∀ e ∈ r.effects, e.fits d = true
  | _ => True

/-- What every interleaving keeps, reboots included: the ports are `o`'s, the message in flight
names one of them, and every act left keeps them. -/
structure World.PortsKept (o : OltDevice) (w : World) : Prop where
  ports : w.dev.ports = o.ports
  inFlight : ∀ n m, w.inFlight = some (n, m) → m.namesPortOf o = true
  goroutines : ∀ g ∈ w.goroutines, ∀ a ∈ g, a.KeepsPorts o

section Reboots

variable {c : Collaborators} {o : OltDevice} {w w' : World}

/-- The loop never faults: a message in flight names a port, which its lookup finds. -/
theorem World.PortsKept.loop (hw : w.PortsKept o) : ∃ w', w.step c .loop = .ok w' := by
  cases hfl : w.inFlight with
  | none => exact ⟨w, by simp only [World.step, hfl]⟩
  | some x =>
    obtain ⟨n, m⟩ := x
    obtain ⟨⟨d, inds⟩, hp⟩ := processMessage_of_namesPortOf (c := c)
      ((Message.namesPortOf_of_ports hw.ports m).trans (hw.inFlight n m hfl))
    simp only [World.step, hfl, hp]
    exact ⟨_, rfl⟩

/-- Every step that does not fault keeps the invariant. -/
theorem World.PortsKept.step (hw : w.PortsKept o) {who : Who} (h : w.step c who = .ok w') :
    w'.PortsKept o := by
  cases who with
  | goroutine k =>
    dsimp only [World.step] at h
    split at h
    · cases h; exact hw
    · cases h; exact hw
    · rename_i m rest hk
      split_ifs at h
      · cases h; exact hw
      · cases h
        exact ⟨hw.ports, fun _ _ he => by
          cases he; exact hw.goroutines _ (List.getElem?_mem hk) _ (List.mem_cons_self _ _),
          World.advance_forall hw.goroutines hk fun _ hx => .inl hx⟩
    · rename_i ind rest hk
      cases h
      exact ⟨hw.ports, hw.inFlight, World.advance_forall hw.goroutines hk fun _ hx => .inl hx⟩
    · rename_i rest hk
      cases h; split
      · exact hw
      · exact ⟨hw.ports, hw.inFlight, World.advance_forall hw.goroutines hk fun _ hx => .inl hx⟩
    · rename_i rest hk
      cases h
      exact ⟨hw.ports, hw.inFlight, World.advance_forall hw.goroutines hk fun _ hx => .inl hx⟩
    · rename_i rest hk
      split_ifs at h
      cases h
      exact ⟨hw.ports, hw.inFlight, World.advance_forall hw.goroutines hk fun _ hx => .inl hx⟩
    · rename_i f rest hk
      have hf := hw.goroutines _ (List.getElem?_mem hk) _ (List.mem_cons_self _ _) w.dev
      split at h
      · cases h
      · cases h
        exact ⟨(hf _ _ ‹_›).trans hw.ports, hw.inFlight,
          World.advance_forall hw.goroutines hk fun _ hx => .inl hx⟩
      · cases h
        exact ⟨(hf _ _ ‹_›).trans hw.ports, hw.inFlight,
          World.advance_forall hw.goroutines hk fun _ hx => absurd hx (List.not_mem_nil _)⟩
    · rename_i f rest hk
      have hf := hw.goroutines _ (List.getElem?_mem hk) _ (List.mem_cons_self _ _) w.dev
      split at h
      · cases h
      · rename_i r hr
        cases h
        obtain ⟨hports, hfit⟩ := hf r hr
        refine ⟨hports.trans hw.ports, hw.inFlight, World.advance_forall hw.goroutines hk
          fun x hx => ?_⟩
        rcases List.mem_append.mp hx with hx | hx
        · obtain ⟨e, he, hact⟩ := List.mem_filterMap.mp hx
          rcases Effect.act_of_fits (hfit e he) hw.ports hact with ⟨m, rfl, hm⟩ | ⟨ind, rfl⟩
          exacts [.inr hm, .inr trivial]
        · exact .inl hx
  | loop =>
    dsimp only [World.step] at h
    split at h
    · cases h; exact hw
    · split at h
      · cases h
      · cases h
        exact ⟨(processMessage_frame ‹_›).1.trans hw.ports, (fun _ _ he => by cases he),
          hw.goroutines⟩

/-- A whole run keeps the invariant. -/
theorem World.PortsKept.runWorld : ∀ {w : World} {sched : List Who}, w.PortsKept o →
    Bbsim.runWorld c w sched = .ok w' → w'.PortsKept o
  | _, [], hw, h => by cases h; exact hw
  | _, who :: sched, hw, h => by
    unfold Bbsim.runWorld at h
    split at h
    · cases h
    · exact (hw.step ‹_›).runWorld h

end Reboots

/-! ## One handler beside the loop -/

/-- The message an act sends on the OLT's channel. -/
def Act.message : Act → Option Message
  | .send m => some m
  | _ => none

/-- What a run of the goroutine of request `req` alone beside the loop keeps. Either the handler has
not run, and the device is the start device `o`; or it has run on `o`, the goroutine has done a part
`pre` of the acts of its reply, and the loop has handled the messages of `pre` in the order sent,
all but the one in flight. -/
def Alone (c : Collaborators) (o : OltDevice) (req : Rpc) (w : World) : Prop :=
  (w.goroutines = [Rpc.program c req] ∧ w.dev = o ∧ w.inFlight = none) ∨
  ∃ r, req.handle c o = some r ∧ ∃ pre rest handled,
    r.effects.filterMap Effect.act = pre ++ rest ∧ w.goroutines = [rest] ∧
    pre.filterMap Act.message = handled ++ (w.inFlight.map Prod.snd).toList ∧
    runOps c o (.rpc req :: handled.map .dispatch) = some w.dev

section Alone

variable {c : Collaborators} {o : OltDevice} {req : Rpc} {w w' : World}

/-- The messages of a request's goroutine are those its handler sends on the OLT's channel. -/
theorem filterMap_act_message (es : List Effect) :
    (es.filterMap Effect.act).filterMap Act.message = es.filterMap Effect.oltMessage := by
  rw [List.filterMap_filterMap]
  congr 1
  funext e
  cases e <;> rfl

/-- The acts of a handler's effects are sends on the OLT's channel and writes. -/
theorem Effect.act_send_or_write {es : List Effect} :
    ∀ a ∈ es.filterMap Effect.act, a.message.isSome ∨ ∃ ind, a = .write ind := by
  intro a ha
  obtain ⟨e, -, he⟩ := List.mem_filterMap.mp ha
  cases e <;> cases he
  exacts [.inl rfl, .inr ⟨_, rfl⟩]

/-- Before the handler runs, the loop is idle, and the goroutine's one step runs the handler on the
start device: its device is written back and the goroutine goes on with its reply's acts. -/
theorem Alone.step_call (hg : w.goroutines = [Rpc.program c req]) (hd : w.dev = o)
    (hfl : w.inFlight = none) {who : Who} (h : w.step c who = .ok w') : Alone c o req w' := by
  cases who with
  | goroutine k =>
    dsimp only [World.step] at h
    split at h <;> rename_i hk <;> rw [hg] at hk
    · cases h; exact .inl ⟨hg, hd, hfl⟩
    · cases h; exact .inl ⟨hg, hd, hfl⟩
    all_goals
      obtain ⟨rfl, hprog⟩ := getElem?_singleton_eq_some hk
      simp only [Rpc.program, List.cons.injEq, Act.call.injEq, reduceCtorEq, false_and] at hprog
    -- only the handler's call is left
    obtain ⟨rfl, rfl⟩ := hprog
    split at h
    · cases h
    · rename_i r hr
      cases h
      rw [hd] at hr
      refine .inr ⟨r, hr, [], r.effects.filterMap Effect.act ++ [], [], by simp,
        by simp [World.advance, hg], by simp [World.advance, hfl], ?_⟩
      simp [runOps, Op.step, hr]
  | loop =>
    dsimp only [World.step] at h
    rw [hfl] at h
    cases h
    exact .inl ⟨hg, hd, hfl⟩

/-- After the handler has run, each step that does not fault keeps what a run of one goroutine of
sends and writes keeps: a send the loop takes is the next message in flight, and the loop handling
it is the step `dispatch`. -/
theorem Alone.step_acts {r : Reply} (hr : req.handle c o = some r) {pre rest : List Act}
    {handled : List Message} (hacts : r.effects.filterMap Effect.act = pre ++ rest)
    (hg : w.goroutines = [rest])
    (hm : pre.filterMap Act.message = handled ++ (w.inFlight.map Prod.snd).toList)
    (hrun : runOps c o (.rpc req :: handled.map .dispatch) = some w.dev) {who : Who}
    (h : w.step c who = .ok w') : Alone c o req w' := by
  have hsw : ∀ a ∈ rest, a.message.isSome ∨ ∃ ind, a = .write ind := fun a ha =>
    Effect.act_send_or_write a (hacts ▸ List.mem_append_right _ ha)
  have hother {a : Act} {rest' : List Act} (hk : w.goroutines[0]? = some (a :: rest'))
      (ha : a.message = none) (hw : ∀ ind, a ≠ .write ind) : False := by
    rw [hg] at hk
    cases hk
    rcases hsw a (List.mem_cons_self _ _) with h | ⟨ind, rfl⟩
    · simp [ha] at h
    · exact hw ind rfl
  cases who with
  | goroutine k =>
    dsimp only [World.step] at h
    split at h
    · cases h; exact .inr ⟨r, hr, pre, rest, handled, hacts, hg, hm, hrun⟩
    · cases h; exact .inr ⟨r, hr, pre, rest, handled, hacts, hg, hm, hrun⟩
    · rename_i m rest' hk
      rw [hg] at hk
      obtain ⟨rfl, rfl⟩ := getElem?_singleton_eq_some hk
      split_ifs at h with hch hfl
      · cases h; exact .inr ⟨r, hr, pre, _, handled, hacts, hg, hm, hrun⟩
      · cases h
        rw [Option.not_isSome_iff_eq_none] at hfl
        refine .inr ⟨r, hr, pre ++ [.send m], rest', handled, by simp [hacts],
          by simp [World.advance, hg], ?_, hrun⟩
        simp [List.filterMap_append, hm, hfl, Act.message]
    · rename_i ind rest' hk
      rw [hg] at hk
      obtain ⟨rfl, rfl⟩ := getElem?_singleton_eq_some hk
      cases h
      exact .inr ⟨r, hr, pre ++ [.write ind], rest', handled, by simp [hacts],
        by simp [World.advance, hg], by simpa [List.filterMap_append, Act.message] using hm, hrun⟩
    all_goals
      rename_i hk
      obtain ⟨rfl, -⟩ := getElem?_singleton_eq_some (hg ▸ hk)
      exact (hother hk rfl fun _ => by simp).elim
  | loop =>
    dsimp only [World.step] at h
    split at h
    · cases h; exact .inr ⟨r, hr, pre, rest, handled, hacts, hg, hm, hrun⟩
    · rename_i n m hfl
      split at h
      · cases h
      · rename_i d inds hp
        cases h
        refine .inr ⟨r, hr, pre, rest, handled ++ [m], hacts, hg, by simpa [hfl] using hm, ?_⟩
        rw [List.map_append, ← List.cons_append, runOps_append, hrun]
        simp [runOps, Op.step, hp]

/-- Each step that does not fault keeps it. -/
theorem Alone.step (hw : Alone c o req w) {who : Who} (h : w.step c who = .ok w') :
    Alone c o req w' := by
  rcases hw with ⟨hg, hd, hfl⟩ | ⟨r, hr, pre, rest, handled, hacts, hg, hm, hrun⟩
  exacts [Alone.step_call hg hd hfl h, Alone.step_acts hr hacts hg hm hrun h]

/-- A whole run keeps it. -/
theorem Alone.runWorld : ∀ {w : World} {sched : List Who}, Alone c o req w →
    Bbsim.runWorld c w sched = .ok w' → Alone c o req w'
  | _, [], hw, h => by cases h; exact hw
  | _, who :: sched, hw, h => by
    unfold Bbsim.runWorld at h
    split at h
    · cases h
    · exact Alone.runWorld (hw.step ‹_›) h

/-- One request's goroutine alone beside the loop: whatever the schedule, once the goroutine has
ended and the loop is idle, the handler has run on the start device, and the device is the one the
steps reach that run the request and then let the loop handle its messages one after another in the
order sent. -/
theorem runWorld_alone_refines {sched : List Who}
    (h : runWorld c (World.start o [Rpc.program c req]) sched = .ok w)
    (hend : w.goroutines = [[]]) (hidle : w.inFlight = none) :
    ∃ r, req.handle c o = some r ∧
      runOps c o (.rpc req :: (r.effects.filterMap Effect.oltMessage).map .dispatch) =
        some w.dev := by
  rcases Alone.runWorld (.inl ⟨rfl, rfl, rfl⟩) h with ⟨hg, -, -⟩ |
    ⟨r, hr, pre, rest, handled, hacts, hg, hm, hrun⟩
  · rw [hend, List.singleton_inj] at hg
    cases hg
  · refine ⟨r, hr, ?_⟩
    rw [hend, List.singleton_inj] at hg
    subst hg
    simp only [hidle, Option.map_none', Option.toList_none, List.append_nil] at hm
    rw [List.append_nil] at hacts
    rwa [← filterMap_act_message, hacts, hm]

/-- `DisableOlt` on the enabled sample OLT beside the loop, whose second send waits for the loop to
handle the first. -/
theorem runWorld_alone_refines_disableOlt :
    ∃ o w, enabledOlt = some o ∧
      runWorld sampleCollaborators (World.start o [Rpc.program sampleCollaborators .disableOlt])
        [.goroutine 0, .goroutine 0, .loop, .goroutine 0, .loop] = .ok w ∧
      w.goroutines = [[]] ∧ w.inFlight = none ∧
      ∃ r, Rpc.handle sampleCollaborators o .disableOlt = some r ∧
        runOps sampleCollaborators o
          (.rpc .disableOlt :: (r.effects.filterMap Effect.oltMessage).map .dispatch) =
        some w.dev := by
  obtain ⟨o, w, ho, h, hend, hidle⟩ : ∃ o w, enabledOlt = some o ∧
      runWorld sampleCollaborators (World.start o [Rpc.program sampleCollaborators .disableOlt])
        [.goroutine 0, .goroutine 0, .loop, .goroutine 0, .loop] = .ok w ∧
      w.goroutines = [[]] ∧ w.inFlight = none := ⟨_, _, rfl, rfl, rfl, rfl⟩
  exact ⟨o, w, ho, h, hend, hidle, runWorld_alone_refines h hend hidle⟩

end Alone

end Bbsim
