import AwsPlatform.Critical

/-! Whole `platform_config_endpoint` calls against the negotiator: the statics move as the
machine moves on the input a call shows it. -/
namespace AwsPlatform

/-- A call with no endpoint returns `-EINVAL`; otherwise the checks run, and the call returns the
code they exit with, or runs the critical section from where they leave the process. -/
theorem platformConfigEndpoint_cases {b : Build} {p : Params} {call : EndpointCall}
    {s s' : Process} {ret : Int} (done : (platformConfigEndpoint b p call).run s = .ok (ret, s')) :
    call.endpoint = none ∧ ret = -EINVAL ∧ s' = s ∨
      ∃ ep c s₁, call.endpoint = some ep ∧ (checkEndpoint b p call ep).run s = .ok (c, s₁) ∧
        (c = .exit ret ∧ s' = s₁ ∨ ∃ optname, c = .negotiate optname ∧
          (negotiateEndpoint b call.world ep s₁.ncclOfiSelectedProtocol optname).run s₁ =
            .ok (ret, s')) := by
  unfold platformConfigEndpoint at done
  cases endpoint : call.endpoint with
  | none => simp only [endpoint] at done; cases done; exact .inl ⟨rfl, rfl, rfl⟩
  | some ep =>
    simp only [endpoint] at done
    cases checked : (checkEndpoint b p call ep).run s with
    | error => simp [checked] at done
    | ok r =>
      obtain ⟨c, s₁⟩ := r
      refine .inr ⟨ep, c, s₁, rfl, checked, ?_⟩
      cases c with
      | exit code =>
        simp only [checked, StateT.run_bind, ok_bind] at done
        cases done
        exact .inl ⟨rfl, rfl⟩
      | negotiate optname =>
        simp only [checked, StateT.run_bind, ok_bind, StateT.run_get] at done
        exact .inr ⟨optname, rfl, done⟩

theorem platformConfigEndpoint_step (b : Build) (p : Params) (call : EndpointCall) :
    Keeps EndpointStep (platformConfigEndpoint b p call) := fun _ _ _ done => by
  rcases platformConfigEndpoint_cases done with ⟨-, -, rfl⟩ |
    ⟨ep, c, s₁, -, checked, ⟨-, rfl⟩ | ⟨optname, -, run⟩⟩
  · exact IsRefl.refl _
  · exact .of_beforeMutex (checkEndpoint_spec checked).1
  · exact (EndpointStep.of_beforeMutex (checkEndpoint_spec checked).1).trans
      (negotiateEndpoint_spec run).step

/-- A property that the checks before the mutex keep, and that the critical section keeps from
wherever the checks leave the process, holds after every `platform_config_endpoint` call. -/
theorem platformConfigEndpoint_preserves {b : Build} {p : Params} {call : EndpointCall}
    (P : Process → Prop) (checks : ∀ {s s' : Process}, P s → Process.BeforeMutex s s' → P s')
    (critical : ∀ {ep : Endpoint} {optname : Option EpOption} {s s' : Process} {ret : Int}, P s →
      (negotiateEndpoint b call.world ep s.ncclOfiSelectedProtocol optname).run s = .ok (ret, s') →
        P s') :
    Keeps (Preserves P) (platformConfigEndpoint b p call) := fun _ _ _ done holds => by
  rcases platformConfigEndpoint_cases done with ⟨-, -, rfl⟩ |
    ⟨ep, c, s₁, -, checked, ⟨-, rfl⟩ | ⟨optname, -, run⟩⟩
  · exact holds
  · exact checks holds (checkEndpoint_spec checked).1
  · exact critical (checks holds (checkEndpoint_spec checked).1) run

/-! ## The negotiator's input -/

/-- What a call shows the negotiator: nothing when it returns before the mutex; otherwise the
exemption and the endpoint's answer, as they stand when it takes the mutex. -/
def negotiationInput (b : Build) (p : Params) (call : EndpointCall) (s : Process) :
    Option (Bool × Capability) :=
  match call.endpoint with
  | none => none
  | some ep =>
    match (checkEndpoint b p call ep).run s with
    | .ok (.negotiate optname, s₁) =>
      some (p5Exempt call.world s₁.ncclOfiSelectedProtocol s₁, capability b ep optname)
    | _ => none

/-- The calls that reach the negotiator are the EFA calls on an endpoint, in a CUDA build under
SENDRECV or RDMA, that pass the GDR check and the native RDMA write check. -/
theorem negotiationInput_eq_some_iff {b : Build} {p : Params} {call : EndpointCall} {s : Process}
    {input : Bool × Capability} :
    negotiationInput b p call s = some input ↔
      ∃ ep, call.endpoint = some ep ∧ strEq call.provName "efa" = true ∧ b.haveCuda = true ∧
        ∃ optname, inorderOptname b s.ncclOfiSelectedProtocol = some optname ∧
        ∃ s₁ s₂, (gdrMissing p call).run s = .ok (false, s₁) ∧
          (checkRdmaWrite b p ep s.ncclOfiSelectedProtocol).run s₁ = .ok (0, s₂) ∧
          input = (p5Exempt call.world s.ncclOfiSelectedProtocol s₂, capability b ep optname) := by
  constructor
  · intro asked
    unfold negotiationInput at asked
    cases endpoint : call.endpoint with
    | none => simp [endpoint] at asked
    | some ep =>
      simp only [endpoint] at asked
      cases checked : (checkEndpoint b p call ep).run s with
      | error => simp [checked] at asked
      | ok r =>
        obtain ⟨c, s₂⟩ := r
        cases c with
        | exit => simp [checked] at asked
        | negotiate optname =>
          simp only [checked, Option.some.injEq] at asked
          obtain ⟨before, other, efa⟩ := checkEndpoint_spec checked
          have protocol : s₂.ncclOfiSelectedProtocol = s.ncclOfiSelectedProtocol := by
            rw [before.frame]
          cases provider : strEq call.provName "efa"
          · exact absurd (other provider) (by simp)
          obtain ⟨missing, s₁, gdr, absent, present⟩ := efa provider
          cases missing
          · obtain ⟨ret, rdma, failing, passing⟩ := present rfl
            by_cases zero : ret = 0
            · subst zero
              have through := passing rfl
              cases cuda : b.haveCuda <;>
                cases found : inorderOptname b s.ncclOfiSelectedProtocol <;>
                simp [cuda, found] at through
              subst through
              exact ⟨ep, rfl, rfl, rfl, _, rfl, s₁, s₂, gdr, rdma, by rw [← asked, protocol]⟩
            · exact absurd (failing zero) (by simp)
          · exact absurd (absent rfl) (by simp)
  · rintro ⟨ep, endpoint, efa, cuda, optname, found, s₁, s₂, gdr, rdma, rfl⟩
    have protocol : s₁.ncclOfiSelectedProtocol = s.ncclOfiSelectedProtocol := by
      rw [(gdrMissing_spec gdr).1.frame]
    have checked : (checkEndpoint b p call ep).run s = .ok (.negotiate optname, s₂) := by
      simp [checkEndpoint, efa, gdr, protocol, rdma, cuda, found, pure_eq_ok]
    have protocol₂ : s₂.ncclOfiSelectedProtocol = s.ncclOfiSelectedProtocol := by
      rw [((gdrMissing_spec gdr).1.trans (checkRdmaWrite_spec rdma).1).frame]
    simp [negotiationInput, endpoint, checked, protocol₂]

/-- One call of `platform_config_endpoint` against the machine. -/
def CallFollows (input : Option (Bool × Capability)) (s s' : Process) (ret : Int) : Prop :=
  match input with
  | none => s'.negotiation = s.negotiation ∧ s'.inorderSetopts = s.inorderSetopts
  | some (p5, answer) =>
    s'.negotiation = (s.negotiation.next p5 answer).1 ∧
      ((s.negotiation.next p5 answer).2 = .fail → ret ≠ 0) ∧
      (s.negotiation.asks p5 = false → s'.inorderSetopts = s.inorderSetopts)

theorem platformConfigEndpoint_follows {b : Build} {p : Params} {call : EndpointCall}
    {s s' : Process} {ret : Int} (inv : s.ncclProtoConfigured = false → s.needOrdering = false)
    (done : (platformConfigEndpoint b p call).run s = .ok (ret, s')) :
    CallFollows (negotiationInput b p call s) s s' ret ∧
      (s'.ncclProtoConfigured = false → s'.needOrdering = false) := by
  rcases platformConfigEndpoint_cases done with ⟨endpoint, -, rfl⟩ |
    ⟨ep, c, s₁, endpoint, checked, ⟨rfl, rfl⟩ | ⟨optname, rfl, run⟩⟩
  · exact ⟨by simp [negotiationInput, endpoint, CallFollows], inv⟩
  · have before := (checkEndpoint_spec checked).1
    exact ⟨by simp [negotiationInput, endpoint, checked, CallFollows, before.negotiation,
      before.setopts], by rw [before.statics.1, before.statics.2]; exact inv⟩
  · have before := (checkEndpoint_spec checked).1
    obtain ⟨moved, failing, quiet, inv'⟩ :=
      (negotiateEndpoint_spec run).follows (by rw [before.statics.1, before.statics.2]; exact inv)
    rw [before.negotiation, before.setopts] at *
    exact ⟨by simpa [negotiationInput, endpoint, checked, CallFollows] using
      ⟨moved, failing, quiet⟩, inv'⟩

/-- The inputs a run of calls shows the negotiator, one for each call that returned. -/
def negotiationInputs (b : Build) (p : Params) :
    List EndpointCall → Process → List (Option (Bool × Capability))
  | [], _ => []
  | call :: rest, s =>
    match (platformConfigEndpoint b p call).run s with
    | .error _ => []
    | .ok (_, s') => negotiationInput b p call s :: negotiationInputs b p rest s'

theorem negotiation_run (b : Build) (p : Params) (calls : List EndpointCall) (s : Process)
    (inv : s.ncclProtoConfigured = false → s.needOrdering = false) :
    (runAll (calls.map (platformConfigEndpoint b p)) s).2.1.negotiation =
      s.negotiation.run (negotiationInputs b p calls s) := by
  induction calls generalizing s with
  | nil => rfl
  | cons call rest ih =>
    cases done : (platformConfigEndpoint b p call).run s with
    | error => simp [runAll, negotiationInputs, done, NegotiationState.run]
    | ok r =>
      obtain ⟨ret, s'⟩ := r
      obtain ⟨follows, inv'⟩ := platformConfigEndpoint_follows inv done
      simp only [List.map_cons, runAll, negotiationInputs, done]
      rw [ih s' inv']
      cases input : negotiationInput b p call s with
      | none =>
        simp only [input, CallFollows] at follows
        simp [NegotiationState.run, follows.1]
      | some pair =>
        simp only [input, CallFollows] at follows
        simp [NegotiationState.run, follows.1]

/-- The statics of `platform_config_endpoint` implement the negotiator. Every call from a state
where `need_ordering` is false until the domain is configured moves the pair as the machine
moves, fails when the machine fails it, and sets no in-order option when the machine does not
ask. Over every run, the pair ends where the machine ends. The calls that reach the machine are
exactly the EFA calls on an endpoint, in a CUDA build under SENDRECV or RDMA, that pass the GDR
and native RDMA write checks, each with its exemption and the endpoint's answer. -/
theorem negotiation_refines_machine (b : Build) (p : Params) :
    (∀ call s ret s', (s.ncclProtoConfigured = false → s.needOrdering = false) →
      (platformConfigEndpoint b p call).run s = .ok (ret, s') →
        CallFollows (negotiationInput b p call s) s s' ret) ∧
    (∀ calls s, (s.ncclProtoConfigured = false → s.needOrdering = false) →
      (runAll (calls.map (platformConfigEndpoint b p)) s).2.1.negotiation =
        s.negotiation.run (negotiationInputs b p calls s)) ∧
    (∀ call s input, negotiationInput b p call s = some input ↔
      ∃ ep, call.endpoint = some ep ∧ strEq call.provName "efa" = true ∧ b.haveCuda = true ∧
        ∃ optname, inorderOptname b s.ncclOfiSelectedProtocol = some optname ∧
        ∃ s₁ s₂, (gdrMissing p call).run s = .ok (false, s₁) ∧
          (checkRdmaWrite b p ep s.ncclOfiSelectedProtocol).run s₁ = .ok (0, s₂) ∧
          input = (p5Exempt call.world s.ncclOfiSelectedProtocol s₂, capability b ep optname)) :=
  ⟨fun _ _ _ _ inv done => (platformConfigEndpoint_follows inv done).1,
    fun calls s inv => negotiation_run b p calls s inv, fun _ _ _ => negotiationInput_eq_some_iff⟩

/-! ## A failed `setenv` after an unsupported answer -/

/-- An EFA endpoint that answers every `fi_setopt` with `-FI_EOPNOTSUPP`. -/
def unorderedEndpoint : Endpoint := ⟨(0, true, false), fun _ => -FI_EOPNOTSUPP⟩

/-- An EFA endpoint that sets every option it is asked for. -/
def orderedEndpoint : Endpoint := ⟨(0, true, false), fun _ => 0⟩

/-- A p4d host where `setenv` runs out of memory. -/
def setenvFailingWorld : World :=
  ⟨some ⟨"p4d.24xlarge\n".toList, false⟩, true, fun _ => true, fun _ => false⟩

/-- The first call finds the option unsupported, records the unordered policy, fails to set
`NCCL_PROTO` and returns `-ENOTSUP`; the second call then succeeds without asking for ordering,
with `NCCL_PROTO` still unset and outside the P5 exemption. -/
theorem unordered_recorded_without_nccl_proto :
    let b : Build := ⟨true, true, true, true, true, "/usr/share/aws-ofi-nccl/xml"⟩
    let p : Params := ⟨0, 0, -1, none, -1⟩
    let call : EndpointCall := ⟨"efa", some unorderedEndpoint, .supported, setenvFailingWorld⟩
    let run := runAll ([call, call].map (platformConfigEndpoint b p))
      (Process.initial (fun _ => none) none 0 (-1) "SENDRECV" (-1))
    run.1 = [-ENOTSUP, 0] ∧ run.2.1.env "NCCL_PROTO" = none ∧
      run.2.1.negotiation = .configuredUnordered ∧ run.2.1.inorderSetopts = 1 := by
  decide

/-! ## A configured domain -/

/-- Once `nccl_proto_configured` is set, no run of `platform_config_endpoint` calls changes the
policy: the flag stays set and `need_ordering` keeps its value, whatever the endpoints answer. -/
theorem policy_fixed_once_configured (b : Build) (p : Params) (calls : List EndpointCall)
    (s : Process) (configured : s.ncclProtoConfigured = true) :
    (runAll (calls.map (platformConfigEndpoint b p)) s).2.1.ncclProtoConfigured = true ∧
      (runAll (calls.map (platformConfigEndpoint b p)) s).2.1.needOrdering = s.needOrdering := by
  have stays : s.negotiation ≠ .unconfigured := by
    cases need : s.needOrdering <;> simp [Process.negotiation, configured, need]
  have final := negotiation_run b p calls s (by simp [configured])
  rw [NegotiationState.run_configured stays] at final
  generalize (runAll (calls.map (platformConfigEndpoint b p)) s).2.1 = last at final ⊢
  unfold Process.negotiation at final
  cases c : last.ncclProtoConfigured <;> cases n : last.needOrdering <;>
    cases n' : s.needOrdering <;> simp_all

/-- A domain whose first endpoint set in-order delivery. -/
def orderedDomain : Process :=
  { Process.initial (fun _ => none) none 0 (-1) "SENDRECV" (-1) with
    ncclProtoConfigured := true, needOrdering := true }

theorem policy_fixed_in_ordered_domain :
    orderedDomain.ncclProtoConfigured = true ∧
      let run := runAll ([⟨"efa", some unorderedEndpoint, .supported, setenvFailingWorld⟩].map
        (platformConfigEndpoint ⟨true, true, true, true, true, "/usr/share/aws-ofi-nccl/xml"⟩
          ⟨0, 0, -1, none, -1⟩)) orderedDomain
      run.2.1.ncclProtoConfigured = true ∧ run.2.1.needOrdering = orderedDomain.needOrdering :=
  ⟨rfl, policy_fixed_once_configured _ _ _ orderedDomain rfl⟩

/-- In a domain that chose ordering, every call that reaches the negotiation with an endpoint
that does not set 128-byte in-order delivery fails: it never returns 0. -/
theorem ordered_domain_refuses_unordered {b : Build} {p : Params} {call : EndpointCall}
    {s : Process} {p5 : Bool} {answer : Capability} (ordered : s.negotiation = .configuredOrdered)
    (asked : negotiationInput b p call s = some (p5, answer)) (lacking : answer ≠ .set) :
    (platformConfigEndpoint b p call).run' s ≠ .ok 0 := by
  have inv : s.ncclProtoConfigured = false → s.needOrdering = false := fun unset => by
    simp [Process.negotiation, unset] at ordered
  cases done : (platformConfigEndpoint b p call).run s with
  | error => simp [done]
  | ok r =>
    have follows := (platformConfigEndpoint_follows inv done).1
    rw [asked] at follows
    have fails := follows.2.1 (by rw [ordered]; cases answer <;> simp_all [NegotiationState.next])
    simpa [done] using fails

theorem ordered_domain_refuses_unordered_sendrecv :
    let b : Build := ⟨true, true, true, true, true, "/usr/share/aws-ofi-nccl/xml"⟩
    let p : Params := ⟨0, 0, -1, none, -1⟩
    let call : EndpointCall := ⟨"efa", some unorderedEndpoint, .supported, setenvFailingWorld⟩
    orderedDomain.negotiation = .configuredOrdered ∧
      negotiationInput b p call orderedDomain = some (false, .unsupported) ∧
      Capability.unsupported ≠ .set ∧ (platformConfigEndpoint b p call).run' orderedDomain ≠ .ok 0 :=
  ⟨by decide, by decide, by decide,
    @ordered_domain_refuses_unordered _ _ _ _ false .unsupported (by decide) (by decide)
      (by decide)⟩

end AwsPlatform
