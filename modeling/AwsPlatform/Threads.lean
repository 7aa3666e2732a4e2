import Mathlib.Data.List.Forall2
import Mathlib.Data.List.Nodup
import AwsPlatform.Settings

/-! Endpoints configured from several threads at once: the checks and the critical section are one
step each, interleaved in any order, and the negotiation is linearizable at the mutex. -/
namespace AwsPlatform

/-- Where a thread is in its `platform_config_endpoint` call. -/
inductive ThreadPc where
  | start
  /-- Past the checks, waiting for the mutex with the endpoint and `optname`. -/
  | waiting (ep : Endpoint) (optname : Option EpOption)
  | returned (ret : Int)

structure Thread where
  call : EndpointCall
  pc : ThreadPc

/-- A critical section as it ran: its thread, what it showed the negotiator and what the call
returned. -/
structure CriticalSection where
  thread : Nat
  input : Bool × Capability
  ret : Int

/-- The process and the threads configuring endpoints in it, with the critical sections in the
order they took the mutex: a record the model keeps and the code does not. -/
structure Domain where
  process : Process
  threads : List Thread
  history : List CriticalSection

/-- The next step of thread `chosen` from process `s`: where the thread goes, the process after
the step and the critical section it ran, if any. `none` once it has returned, or when the step
faults. -/
def Thread.step (b : Build) (p : Params) (chosen : Nat) (s : Process) :
    Thread → Option (ThreadPc × Process × Option CriticalSection)
  | ⟨call, .start⟩ =>
    match call.endpoint with
    | none => some (.returned (-EINVAL), s, none)
    | some ep =>
      match (checkEndpoint b p call ep).run s with
      | .ok (.exit ret, s') => some (.returned ret, s', none)
      | .ok (.negotiate optname, s') => some (.waiting ep optname, s', none)
      | .error _ => none
  | ⟨call, .waiting ep optname⟩ =>
    let protocol := s.ncclOfiSelectedProtocol
    match (negotiateEndpoint b call.world ep protocol optname).run s with
    | .ok (ret, s') =>
      some (.returned ret, s',
        some ⟨chosen, (p5Exempt call.world protocol s, capability b ep optname), ret⟩)
    | .error _ => none
  | ⟨_, .returned _⟩ => none

/-- The scheduler runs thread `chosen` one step. -/
def Domain.step (b : Build) (p : Params) (d : Domain) (chosen : Nat) : Option Domain :=
  match d.threads[chosen]? with
  | none => none
  | some thread =>
    (thread.step b p chosen d.process).map fun (pc, s, ran) =>
      ⟨s, d.threads.set chosen ⟨thread.call, pc⟩, d.history ++ ran.toList⟩

/-- A schedule names the thread that runs at each step; every interleaving is one. -/
def Domain.runSchedule (b : Build) (p : Params) : Domain → List Nat → Option Domain
  | d, [] => some d
  | d, chosen :: rest => (d.step b p chosen).bind fun d' => d'.runSchedule b p rest

/-- What the critical sections so far showed the negotiator, in order. -/
def Domain.inputs (d : Domain) : List (Bool × Capability) := d.history.map CriticalSection.input

/-- The machine's verdict on each input in turn. -/
def NegotiationState.verdicts (state : NegotiationState) :
    List (Bool × Capability) → List Verdict
  | [] => []
  | (p5, answer) :: rest => (state.next p5 answer).2 :: (state.next p5 answer).1.verdicts rest

theorem NegotiationState.run_snoc (state : NegotiationState)
    (inputs : List (Option (Bool × Capability))) (p5 : Bool) (answer : Capability) :
    state.run (inputs ++ [some (p5, answer)]) = ((state.run inputs).next p5 answer).1 := by
  induction inputs generalizing state with
  | nil => rfl
  | cons input rest ih => rcases input with _ | ⟨_, _⟩ <;> exact ih _

theorem NegotiationState.verdicts_snoc (state : NegotiationState)
    (inputs : List (Bool × Capability)) (p5 : Bool) (answer : Capability) :
    state.verdicts (inputs ++ [(p5, answer)]) =
      state.verdicts inputs ++ [((state.run (inputs.map some)).next p5 answer).2] := by
  induction inputs generalizing state with
  | nil => rfl
  | cons input rest ih => exact congrArg _ (ih _)

/-- What every domain reached from machine state `start` keeps: the statics are where the
machine is after the critical sections so far; each call the machine failed at its turn returned
nonzero; each thread ran at most one critical section, and returned the code recorded for it;
`need_ordering` is false until the domain is configured. -/
structure Domain.Linearized (start : NegotiationState) (d : Domain) : Prop where
  state : d.process.negotiation = start.run (d.inputs.map some)
  verdicts : List.Forall₂ (fun v c => v = Verdict.fail → c.ret ≠ 0) (start.verdicts d.inputs)
    d.history
  once : (d.history.map CriticalSection.thread).Nodup
  returned : ∀ c ∈ d.history, ∃ call, d.threads[c.thread]? = some ⟨call, .returned c.ret⟩
  inv : d.process.ncclProtoConfigured = false → d.process.needOrdering = false

theorem Domain.Linearized.initial {d : Domain} (fresh : d.history = [])
    (inv : d.process.ncclProtoConfigured = false → d.process.needOrdering = false) :
    d.Linearized d.process.negotiation :=
  ⟨by simp [Domain.inputs, fresh, NegotiationState.run], by rw [Domain.inputs, fresh]; exact .nil,
    by simp [fresh], by simp [fresh], inv⟩

/-- Along a run that ends ordered, every call the machine did not fail carried an endpoint that set
in-order delivery: the exemption and an unsupported answer both leave the machine unordered for
good. -/
theorem NegotiationState.accepted_set_of_ordered : ∀ {state : NegotiationState}
    {cs : List CriticalSection},
    state.run ((cs.map CriticalSection.input).map some) = .configuredOrdered →
    List.Forall₂ (fun v c => v = Verdict.fail → c.ret ≠ 0)
      (state.verdicts (cs.map CriticalSection.input)) cs →
    ∀ c ∈ cs, c.ret = 0 → c.input.2 = .set
  | _, [], _, _ => fun _ mem => nomatch mem
  | state, ⟨_, (p5, answer), _⟩ :: rest, ordered, .cons head tail => by
    intro c mem accepted
    rcases List.mem_cons.mp mem with rfl | later
    · have stuck : ∀ inputs,
          NegotiationState.configuredUnordered.run inputs ≠ .configuredOrdered := fun inputs => by
        rw [NegotiationState.run_configured (by decide)]; decide
      have proceeds : (state.next p5 answer).2 ≠ .fail := fun fail => head fail accepted
      cases state <;> cases p5 <;> cases answer <;>
        first | rfl | exact absurd rfl proceeds | exact absurd ordered (stuck _)
    · exact @NegotiationState.accepted_set_of_ordered (state.next p5 answer).1 rest ordered tail c
        later accepted

theorem Domain.Linearized.not_ran {start : NegotiationState} {d : Domain} {chosen : Nat}
    {thread : Thread} (lin : d.Linearized start) (found : d.threads[chosen]? = some thread)
    (running : ∀ ret, thread.pc ≠ .returned ret) :
    chosen ∉ d.history.map CriticalSection.thread := by
  intro mem
  obtain ⟨c, ran, rfl⟩ := List.mem_map.mp mem
  obtain ⟨_, returned⟩ := lin.returned c ran
  rw [found] at returned
  cases returned
  exact running c.ret rfl

section Schedules

variable {b : Build} {p : Params}

/-- What one step of a thread can do: the checks of a thread at its start, which change the
process as the code before the mutex may and run no critical section, or the critical section of
a waiting thread, after which it has returned. -/
theorem Thread.step_cases {chosen : Nat} {s s' : Process} {thread : Thread} {pc : ThreadPc}
    {ran : Option CriticalSection} (stepped : thread.step b p chosen s = some (pc, s', ran)) :
    (thread.pc = .start ∧ Process.BeforeMutex s s' ∧ ran = none) ∨
      ∃ ep optname ret, thread.pc = .waiting ep optname ∧ pc = .returned ret ∧
        (negotiateEndpoint b thread.call.world ep s.ncclOfiSelectedProtocol optname).run s =
          .ok (ret, s') ∧
        ran = some ⟨chosen, (p5Exempt thread.call.world s.ncclOfiSelectedProtocol s,
          capability b ep optname), ret⟩ := by
  obtain ⟨call, _ | ⟨ep, optname⟩ | _⟩ := thread
  · simp only [Thread.step] at stepped
    split at stepped
    · cases stepped
      exact .inl ⟨rfl, IsRefl.refl s, rfl⟩
    · split at stepped <;> cases stepped <;>
        exact .inl ⟨rfl, (checkEndpoint_spec ‹_›).1, rfl⟩
  · simp only [Thread.step] at stepped
    split at stepped <;> cases stepped
    exact .inr ⟨ep, optname, _, rfl, rfl, ‹_›, rfl⟩
  · simp [Thread.step] at stepped

/-- What one step of the scheduler can do: `Thread.step_cases` on the chosen thread, with the
thread list and the record updated. -/
theorem Domain.step_cases {d d' : Domain} {chosen : Nat} (stepped : d.step b p chosen = some d') :
    ∃ call, (∃ pc, d.threads[chosen]? = some ⟨call, .start⟩ ∧
        Process.BeforeMutex d.process d'.process ∧
        d'.threads = d.threads.set chosen ⟨call, pc⟩ ∧ d'.history = d.history) ∨
      ∃ ep optname ret, d.threads[chosen]? = some ⟨call, .waiting ep optname⟩ ∧
        (negotiateEndpoint b call.world ep d.process.ncclOfiSelectedProtocol optname).run
          d.process = .ok (ret, d'.process) ∧
        d'.threads = d.threads.set chosen ⟨call, .returned ret⟩ ∧
        d'.history = d.history ++ [⟨chosen, (p5Exempt call.world d.process.ncclOfiSelectedProtocol
          d.process, capability b ep optname), ret⟩] := by
  unfold Domain.step at stepped
  split at stepped
  · cases stepped
  · rename_i thread found
    obtain ⟨⟨pc, s, ran⟩, moved, rfl⟩ := Option.map_eq_some'.mp stepped
    obtain ⟨call, pc₀⟩ := thread
    refine ⟨call, ?_⟩
    rcases Thread.step_cases moved with
      ⟨rfl, before, rfl⟩ | ⟨ep, optname, ret, rfl, rfl, run, rfl⟩
    · exact .inl ⟨pc, found, before, rfl, by simp⟩
    · exact .inr ⟨ep, optname, ret, found, run, rfl, rfl⟩

theorem Domain.step_linearized {start : NegotiationState} {d d' : Domain} {chosen : Nat}
    (lin : d.Linearized start) (stepped : d.step b p chosen = some d') : d'.Linearized start := by
  obtain ⟨call, step⟩ := Domain.step_cases stepped
  cases step with
  | inl checks =>
    obtain ⟨pc, found, before, threads, history⟩ := checks
    have fresh := lin.not_ran found fun _ => nofun
    refine ⟨?_, ?_, ?_, fun c mem => ?_, ?_⟩
    · rw [before.negotiation, lin.state, Domain.inputs, Domain.inputs, history]
    · rw [Domain.inputs, history]; exact lin.verdicts
    · rw [history]; exact lin.once
    · rw [history] at mem
      rw [threads, List.getElem?_set_ne fun same => fresh (List.mem_map.mpr ⟨c, mem, same.symm⟩)]
      exact lin.returned c mem
    · rw [before.statics.1, before.statics.2]; exact lin.inv
  | inr critical =>
    obtain ⟨ep, optname, ret, found, run, threads, history⟩ := critical
    obtain ⟨moved, failing, -, inv⟩ := (negotiateEndpoint_spec run).follows lin.inv
    have fresh := lin.not_ran found fun _ => nofun
    refine ⟨?_, ?_, ?_, fun c mem => ?_, inv⟩
    · rw [moved, lin.state]
      simp only [Domain.inputs, history, List.map_append, List.map_cons, List.map_nil,
        NegotiationState.run_snoc]
    · simp only [Domain.inputs, history, List.map_append, List.map_cons, List.map_nil,
        NegotiationState.verdicts_snoc]
      exact List.rel_append lin.verdicts (.cons (fun fail => failing (by rwa [lin.state])) .nil)
    · simp only [history, List.map_append, List.map_cons, List.map_nil]
      exact lin.once.append (List.nodup_singleton _) (List.disjoint_singleton.mpr fresh)
    · rw [threads]
      rcases List.mem_append.mp (history ▸ mem) with old | new
      · rw [List.getElem?_set_ne fun same => fresh (List.mem_map.mpr ⟨c, old, same.symm⟩)]
        exact lin.returned c old
      · rw [List.mem_singleton.mp new]
        exact ⟨call, List.getElem?_set_self (List.getElem?_eq_some_iff.mp found).1⟩

theorem Domain.step_endpointStep {d d' : Domain} {chosen : Nat}
    (stepped : d.step b p chosen = some d') : EndpointStep d.process d'.process := by
  obtain ⟨_, ⟨_, _, before, _⟩ | ⟨_, _, _, _, run, _⟩⟩ :=
    Domain.step_cases stepped
  · exact EndpointStep.of_beforeMutex before
  · exact (negotiateEndpoint_spec run).step

theorem Domain.runSchedule_induction (P : Domain → Prop)
    (each : ∀ {d d' : Domain} {chosen : Nat}, P d → d.step b p chosen = some d' → P d') :
    ∀ (schedule : List Nat) {d d' : Domain}, P d → d.runSchedule b p schedule = some d' → P d'
  | [], _, _, holds, ran => Option.some.inj ran ▸ holds
  | _ :: rest, _, _, holds, ran => by
    obtain ⟨_, stepped, ran⟩ := Option.bind_eq_some.mp ran
    exact Domain.runSchedule_induction P each rest (each holds stepped) ran

end Schedules

/-- However the threads' steps interleave, the negotiation is linearizable at its mutex. From a
domain where `need_ordering` is false until configured and no critical section has run, every
schedule ends with the statics where the three-state machine ends after the critical sections in
the order they took the mutex; each call the machine failed at its turn returned nonzero; and each
thread ran at most one critical section and returned the code recorded for it. -/
theorem interleaved_calls_linearize (b : Build) (p : Params) (schedule : List Nat)
    {d d' : Domain} (fresh : d.history = [])
    (inv : d.process.ncclProtoConfigured = false → d.process.needOrdering = false)
    (ran : d.runSchedule b p schedule = some d') : d'.Linearized d.process.negotiation :=
  Domain.runSchedule_induction _ Domain.step_linearized schedule (.initial fresh inv) ran

/-- A p4d host where every allocation and `setenv` succeeds. -/
def p4dWorld : World :=
  ⟨some ⟨"p4d.24xlarge\n".toList, false⟩, true, fun _ => true, fun _ => true⟩

/-- Two threads in a fresh process of the SENDRECV protocol, the first with an endpoint that
sets in-order delivery, the second with one that does not. -/
def twoEndpointDomain : Domain :=
  ⟨Process.initial (fun _ => none) none 0 (-1) "SENDRECV" (-1),
    [⟨⟨"efa", some orderedEndpoint, .supported, p4dWorld⟩, .start⟩,
      ⟨⟨"efa", some unorderedEndpoint, .supported, p4dWorld⟩, .start⟩], []⟩

/-- Both threads pass their checks and the second takes the mutex first: the domain becomes
unordered, and the first thread's critical section proceeds without asking its endpoint. -/
theorem interleaved_calls_linearize_second_first :
    let b : Build := ⟨true, true, true, true, true, "/usr/share/aws-ofi-nccl/xml"⟩
    let p : Params := ⟨0, 0, -1, none, -1⟩
    ∃ d', twoEndpointDomain.runSchedule b p [0, 1, 1, 0] = some d' ∧
      d'.history.map CriticalSection.thread = [1, 0] ∧
      d'.inputs = [(false, .unsupported), (false, .set)] ∧
      d'.Linearized twoEndpointDomain.process.negotiation := by
  intro b p
  exact ⟨_, rfl, rfl, rfl, interleaved_calls_linearize b p [0, 1, 1, 0] rfl (fun _ => rfl) rfl⟩

/-- However the threads' steps interleave, a domain that ends ordered accepted only endpoints that
set 128-byte in-order delivery: every call whose critical section ran and that returned 0 had such
an endpoint, so no accepted endpoint disagrees with the policy. -/
theorem interleaved_ordered_accepts_only_inorder (b : Build) (p : Params) (schedule : List Nat)
    {d d' : Domain} (fresh : d.history = [])
    (inv : d.process.ncclProtoConfigured = false → d.process.needOrdering = false)
    (ran : d.runSchedule b p schedule = some d')
    (ordered : d'.process.negotiation = .configuredOrdered) :
    ∀ c ∈ d'.history, c.ret = 0 → c.input.2 = .set :=
  have lin :=
    Domain.runSchedule_induction _ Domain.step_linearized schedule (.initial fresh inv) ran
  NegotiationState.accepted_set_of_ordered (lin.state.symm.trans ordered) lin.verdicts

/-- The other order: the first thread takes the mutex first, the domain is ordered, and the
second thread's endpoint, which lacks in-order delivery, is refused. -/
theorem interleaved_ordered_accepts_only_inorder_ordered_first :
    let b : Build := ⟨true, true, true, true, true, "/usr/share/aws-ofi-nccl/xml"⟩
    let p : Params := ⟨0, 0, -1, none, -1⟩
    ∃ d', twoEndpointDomain.runSchedule b p [0, 0, 1, 1] = some d' ∧
      d'.history.map CriticalSection.ret = [0, -ENOTSUP] ∧
      d'.process.negotiation = .configuredOrdered ∧
      ∀ c ∈ d'.history, c.ret = 0 → c.input.2 = .set := by
  intro b p
  exact ⟨_, rfl, rfl, rfl,
    @interleaved_ordered_accepts_only_inorder b p [0, 0, 1, 1] twoEndpointDomain _ rfl
      (fun _ => rfl) rfl rfl⟩

/-- However the threads' steps interleave, the process changes only as an endpoint call may
change it: the statics, with the identity caches kept coherent, the log, and `NCCL_PROTO`, set to
`simple` only where it was unset. -/
theorem interleaved_calls_frame (b : Build) (p : Params) (schedule : List Nat) {d d' : Domain}
    (ran : d.runSchedule b p schedule = some d') : EndpointStep d.process d'.process :=
  Domain.runSchedule_induction (fun d₁ => EndpointStep d.process d₁.process)
    (fun before stepped => IsTrans.trans _ _ _ before (Domain.step_endpointStep stepped))
    schedule (IsRefl.refl _) ran

theorem interleaved_calls_frame_second_first :
    let b : Build := ⟨true, true, true, true, true, "/usr/share/aws-ofi-nccl/xml"⟩
    let p : Params := ⟨0, 0, -1, none, -1⟩
    ∃ d', twoEndpointDomain.runSchedule b p [0, 1, 1, 0] = some d' ∧
      d'.process.env "NCCL_PROTO" = some "simple" ∧
      EndpointStep twoEndpointDomain.process d'.process := by
  intro b p
  exact ⟨_, rfl, by decide, interleaved_calls_frame b p [0, 1, 1, 0] rfl⟩

end AwsPlatform
