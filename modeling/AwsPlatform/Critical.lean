import AwsPlatform.Checks

/-! The critical section of `platform_config_endpoint`: the P5 test, the ordering block and the
maximum message size. One lemma says what each piece does and returns. -/
namespace AwsPlatform

/-- What one `platform_config_endpoint` call may change: the statics, the lookup caches, which keep
what they held and stay coherent, the log, and `NCCL_PROTO`, set to `simple` only where it was
unset. -/
structure EndpointStep (s s' : Process) : Prop where
  frame : s' = { s with typeInit := s'.typeInit, platformType := s'.platformType,
                        dataInit := s'.dataInit, platformData := s'.platformData,
                        ncclProtoConfigured := s'.ncclProtoConfigured,
                        needOrdering := s'.needOrdering, env := s'.env, calls := s'.calls }
  caches : KeepsCaches s s'
  env : ∀ name, s'.env name = s.env name ∨
    (name = "NCCL_PROTO" ∧ s.env name = none ∧ s'.env name = some "simple")
  cache : CacheInv s → CacheInv s'

theorem EndpointStep.trans {s₁ s₂ s₃ : Process} (first : EndpointStep s₁ s₂)
    (second : EndpointStep s₂ s₃) : EndpointStep s₁ s₃ where
  frame := by rw [second.frame, first.frame]
  caches := IsTrans.trans _ _ _ first.caches second.caches
  env name := by
    rcases first.env name with same₁ | ⟨proto, unset₁, set₁⟩ <;>
      rcases second.env name with same₂ | ⟨proto₂, unset₂, set₂⟩
    · exact .inl (same₂.trans same₁)
    · exact .inr ⟨proto₂, same₁ ▸ unset₂, set₂⟩
    · exact .inr ⟨proto, unset₁, same₂.trans set₁⟩
    · simp [set₁] at unset₂
  cache := second.cache ∘ first.cache

instance : IsPreorder Process EndpointStep where
  refl s := ⟨rfl, IsRefl.refl s, fun _ => .inl rfl, id⟩
  trans _ _ _ := EndpointStep.trans

theorem EndpointStep.of_beforeMutex {s s' : Process} (before : Process.BeforeMutex s s') :
    EndpointStep s s' :=
  ⟨by rw [before.frame], before.caches, fun _ => .inl (by rw [before.frame]), before.cache⟩

/-- Logging a call other than the open of `product_name`. -/
theorem EndpointStep.log (s : Process) {c : ExtCall} (other : c ≠ .fopen productNamePath) :
    EndpointStep s { s with calls := c :: s.calls } :=
  ⟨rfl, KeepsCaches.of_eq rfl rfl rfl rfl, fun _ => .inl rfl, fun inv => inv.log other⟩

/-- Moving the negotiation statics. -/
theorem EndpointStep.flags (s : Process) (configured ordering : Bool) :
    EndpointStep s { s with ncclProtoConfigured := configured, needOrdering := ordering } :=
  ⟨rfl, KeepsCaches.of_eq rfl rfl rfl rfl, fun _ => .inl rfl,
    fun inv => ⟨inv.1, inv.2, inv.3, inv.4⟩⟩

/-! ## The pieces -/

/-- Asking the endpoint only logs its `fi_setopt`: `have_ordering` says whether the option was
set, and the code is nonzero exactly for an error other than "unsupported". -/
theorem tryInorder_spec (b : Build) (ep : Endpoint) (optname : Option EpOption) (s : Process) :
    ∃ ret s₁, (tryInorder b ep optname).run s =
        .ok ((ret, capability b ep optname == .set), s₁) ∧
      s₁ = { s with calls := s₁.calls } ∧ EndpointStep s s₁ ∧
      (ret ≠ 0 ↔ capability b ep optname = .failed) ∧ (ret = 0 ∨ ProviderCode ep ret) := by
  cases optname with
  | none => exact ⟨0, s, rfl, rfl, IsRefl.refl s, by simp [capability], .inl rfl⟩
  | some opt =>
    by_cases declared : b.declWriteInorder
    · refine ⟨if ep.setopt opt = -FI_EOPNOTSUPP ∨ ep.setopt opt = -FI_ENOPROTOOPT then 0
        else ep.setopt opt, { s with calls := .fiSetopt opt (ep.setopt opt) :: s.calls }, ?_, rfl,
        .log s (by simp), ?_, ?_⟩
      · by_cases unsupported : ep.setopt opt = -FI_EOPNOTSUPP ∨ ep.setopt opt = -FI_ENOPROTOOPT <;>
          by_cases zero : ep.setopt opt = 0 <;>
          simp [tryInorder, configureEpInorder, fiSetopt, declared, capability, classify,
            unsupported,
            zero] <;> rfl
      · simp only [capability, declared, if_true, classify]
        split_ifs <;> simp_all
      · split_ifs with unsupported
        · exact .inl rfl
        · by_cases zero : ep.setopt opt = 0
          · exact .inl zero
          · exact .inr ⟨zero, .inr ⟨opt, rfl, not_or.mp unsupported⟩⟩
    · exact ⟨0, s, by simp [tryInorder, configureEpInorder, declared, capability]; rfl, rfl,
        IsRefl.refl s, by simp [capability, declared], .inl rfl⟩

theorem configureNcclProto_run (w : World) (s : Process) :
    (configureNcclProto w).run s =
      match s.env "NCCL_PROTO" with
      | some _ => pure (0, s)
      | none => (setEnv w "NCCL_PROTO" "simple" false).run s := by
  cases proto : s.env "NCCL_PROTO" <;> simp [configureNcclProto, proto]

/-- `configure_nccl_proto` changes the environment only: `NCCL_PROTO` ends up set, unless
`setenv` fails with a nonzero code. -/
theorem configureNcclProto_spec {w : World} {s s' : Process} {ret : Int}
    (done : (configureNcclProto w).run s = .ok (ret, s')) :
    EndpointStep s s' ∧ s' = { s with env := s'.env } ∧
      ((s'.env "NCCL_PROTO").isSome ∨ w.setenvOk "NCCL_PROTO" = false ∧ ret ≠ 0) := by
  rw [configureNcclProto_run] at done
  cases proto : s.env "NCCL_PROTO" with
  | some _ =>
    simp only [proto] at done
    cases done
    exact ⟨IsRefl.refl s, rfl, .inl (by simp [proto])⟩
  | none =>
    simp only [proto, setEnv_run, setenv, Option.isSome_none, Bool.false_and, if_false] at done
    by_cases ok : w.setenvOk "NCCL_PROTO" <;> simp only [ok, if_true, if_false] at done <;>
      cases done
    · refine ⟨⟨rfl, KeepsCaches.of_eq rfl rfl rfl rfl, fun name => ?_,
        fun inv => ⟨inv.1, inv.2, inv.3, inv.4⟩⟩, rfl, .inl (by simp)⟩
      by_cases named : name = "NCCL_PROTO"
      · subst named
        exact .inr ⟨rfl, proto, by simp⟩
      · exact .inl (Env.set_other _ _ named)
    · exact ⟨IsRefl.refl s, rfl, .inr ⟨by simpa using ok, by simp [ENOMEM]⟩⟩

theorem configureEpMaxMsgSize_spec {b : Build} {ep : Endpoint} {s s' : Process} {ret : Int}
    (done : (configureEpMaxMsgSize b ep).run s = .ok (ret, s')) :
    EndpointStep s s' ∧ s' = { s with calls := s'.calls } ∧
      s'.inorderSetopts = s.inorderSetopts ∧ (ret = 0 ∨ ProviderCode ep ret) := by
  by_cases declared : b.declMaxMsgSize
  · simp [configureEpMaxMsgSize, fiSetopt, declared] at done
    obtain ⟨rfl, rfl⟩ := done
    refine ⟨.log s (by simp), rfl, by simp [Process.inorderSetopts, ExtCall.setsInorder], ?_⟩
    split_ifs with unsupported
    · exact .inl rfl
    · by_cases zero : ep.setopt .maxMsgSize = 0
      · exact .inl zero
      · exact .inr ⟨zero, .inr ⟨_, rfl, not_or.mp unsupported⟩⟩
  · simp [configureEpMaxMsgSize, declared] at done
    obtain ⟨rfl, rfl⟩ := done
    exact ⟨IsRefl.refl s, rfl, rfl, .inl rfl⟩

/-- The P5 test answers `p5Exempt` and fills the identity cache at most. -/
theorem isP5Rdma_spec {w : World} {protocol : String} {s s₁ : Process} {p5 : Bool}
    (done : (isP5Rdma w protocol).run s = .ok (p5, s₁)) :
    p5 = p5Exempt w protocol s ∧ Process.BeforeMutex s s₁ := by
  by_cases unset : s.env "NCCL_PROTO" = none <;> by_cases rdma : strcaseEq "RDMA" protocol
  · have tested : s.env "NCCL_PROTO" = none ∧ strcaseEq "RDMA" protocol = true := ⟨unset, rdma⟩
    cases found : (getPlatformType w).run s with
    | error => simp [isP5Rdma, tested, found] at done
    | ok r =>
      obtain ⟨type, s₂⟩ := r
      have before := getPlatformType_beforeMutex w s type s₂ found
      cases type with
      | none => simp [isP5Rdma, tested, found] at done; cases done
      | some type =>
        simp [isP5Rdma, tested, found] at done
        obtain ⟨rfl, rfl⟩ := done
        exact ⟨by simp [p5Exempt, tested, found], before⟩
  all_goals
    simp [isP5Rdma, unset, rdma] at done
    obtain ⟨rfl, rfl⟩ := done
    exact ⟨by simp [p5Exempt, unset, rdma], IsRefl.refl s⟩

@[simp] theorem Process.exemptP5_calls (s : Process) : s.exemptP5.calls = s.calls := by
  unfold Process.exemptP5; split <;> rfl

@[simp] theorem Process.exemptP5_env (s : Process) : s.exemptP5.env = s.env := by
  unfold Process.exemptP5; split <;> rfl

@[simp] theorem Process.exemptP5_configured (s : Process) :
    s.exemptP5.ncclProtoConfigured = true := by
  unfold Process.exemptP5; split <;> simp_all

theorem Process.exemptP5_negotiation (s : Process) :
    s.exemptP5.negotiation =
      if s.negotiation = .unconfigured then .configuredUnordered else s.negotiation := by
  unfold Process.exemptP5 Process.negotiation
  cases configured : s.ncclProtoConfigured <;> cases need : s.needOrdering <;>
    simp [configured, need]

theorem Process.exemptP5_step (s : Process) : EndpointStep s s.exemptP5 := by
  unfold Process.exemptP5
  split
  · exact IsRefl.refl s
  · exact EndpointStep.flags s _ _

/-! ## The critical section -/

/-- What a run of the critical section from `s` to `s'`, returning `ret`, does when `p5` is the
exemption and `answer` the endpoint's: an endpoint step with a code of the endpoint's; one move of
the machine, from statics where `need_ordering` is false until the domain is configured; the
environment kept in a configured domain or under the exemption; and, on the call that finds the
option unsupported without the exemption, `NCCL_PROTO` set or the call failed with `-ENOTSUP`. -/
structure CriticalRun (w : World) (ep : Endpoint) (p5 : Bool) (answer : Capability)
    (s s' : Process) (ret : Int) : Prop where
  step : EndpointStep s s'
  code : ret = 0 ∨ ret = -ENOTSUP ∨ ProviderCode ep ret
  follows : (s.ncclProtoConfigured = false → s.needOrdering = false) →
    s'.negotiation = (s.negotiation.next p5 answer).1 ∧
      ((s.negotiation.next p5 answer).2 = .fail → ret ≠ 0) ∧
      (s.negotiation.asks p5 = false → s'.inorderSetopts = s.inorderSetopts) ∧
      (s'.ncclProtoConfigured = false → s'.needOrdering = false)
  envKept : s.ncclProtoConfigured = true ∨ p5 = true → s'.env = s.env
  proto : s.ncclProtoConfigured = false → s.needOrdering = false → p5 = false →
    answer = .unsupported →
    (s'.env "NCCL_PROTO").isSome ∨ w.setenvOk "NCCL_PROTO" = false ∧ ret = -ENOTSUP

/-- A critical section that only logged calls on the endpoint, on a domain the machine asks. -/
theorem CriticalRun.of_log {w : World} {ep : Endpoint} {p5 : Bool} {answer : Capability}
    {s s' : Process} {ret : Int} (logged : EndpointStep s s')
    (frame : s' = { s with calls := s'.calls })
    (code : ret = 0 ∨ ret = -ENOTSUP ∨ ProviderCode ep ret)
    (machine : (s.ncclProtoConfigured = false → s.needOrdering = false) →
      (s.negotiation.next p5 answer).1 = s.negotiation ∧
        ((s.negotiation.next p5 answer).2 = .fail → ret ≠ 0) ∧ s.negotiation.asks p5 = true)
    (answered : s.ncclProtoConfigured = false → s.needOrdering = false → p5 = false →
      answer ≠ .unsupported) :
    CriticalRun w ep p5 answer s s' ret where
  step := logged
  code := code
  follows inv := by
    obtain ⟨stays, fails, asks⟩ := machine inv
    rw [frame]
    exact ⟨stays.symm, fails, fun quiet => by simp [asks] at quiet, inv⟩
  envKept _ := by rw [frame]
  proto unset unordered unexempt unsupported :=
    absurd unsupported (answered unset unordered unexempt)

theorem configureOrdering_spec {b : Build} {w : World} {ep : Endpoint} {optname : Option EpOption}
    {s s' : Process} {ret : Int} (done : (configureOrdering b w ep optname).run s = .ok (ret, s')) :
    CriticalRun w ep false (capability b ep optname) s s' ret := by
  obtain ⟨code, s₁, asked, frame₁, logged, failed, coded⟩ := tryInorder_spec b ep optname s
  have zero : capability b ep optname ≠ .failed → code = 0 := fun answered => by
    by_contra nonzero
    exact answered (failed.mp nonzero)
  simp only [configureOrdering, StateT.run_bind, StateT.run_get, pure_bind, asked, ok_bind,
    apply_ite (StateT.run · s)] at done
  cases configured : s.ncclProtoConfigured <;> cases need : s.needOrdering
  · -- an unconfigured domain takes the endpoint's answer as its policy
    cases answer : capability b ep optname with
    | failed =>
      simp [configured, need, failed.mpr answer] at done
      cases done
      exact .of_log logged frame₁ (.inr (.inr (coded.resolve_left (failed.mpr answer))))
        (fun _ => by simp [Process.negotiation, configured, need, NegotiationState.next,
          NegotiationState.asks, failed.mpr answer])
        (fun _ _ _ => by simp)
    | set =>
      simp [configured, need, zero (by simp [answer]), answer] at done
      cases done
      exact ⟨logged.trans (.flags _ _ _), .inl rfl,
        fun _ => by simp [Process.negotiation, NegotiationState.next, NegotiationState.asks,
          configured, need],
        by simp [configured], by simp⟩
    | unsupported =>
      simp [configured, need, zero (by simp [answer]), answer] at done
      obtain ⟨⟨r, s₃⟩, proto, result⟩ := map_eq_ok done
      obtain ⟨rfl, rfl⟩ := Prod.mk.inj result
      obtain ⟨step₃, frame₃, set₃⟩ := configureNcclProto_spec proto
      refine ⟨logged.trans ((EndpointStep.flags _ _ _).trans step₃), by split_ifs <;> simp,
        fun _ => ?_, by simp [configured], fun _ _ _ _ => ?_⟩
      · rw [frame₃]
        simp [Process.negotiation, NegotiationState.next, NegotiationState.asks, configured, need]
      · rcases set₃ with set | ⟨failing, nonzero⟩
        · exact .inl set
        · exact .inr ⟨failing, by simp [nonzero]⟩
  · -- statics that the machine does not reach
    have broken : ¬(s.ncclProtoConfigured = false → s.needOrdering = false) := by
      simp [configured, need]
    cases answer : capability b ep optname with
    | failed =>
      simp [configured, need, failed.mpr answer] at done
      cases done
      exact .of_log logged frame₁ (.inr (.inr (coded.resolve_left (failed.mpr answer))))
        (absurd · broken) (fun _ unordered => absurd unordered (by simp [need]))
    | set =>
      simp [configured, need, zero (by simp [answer]), answer] at done
      cases done
      exact ⟨logged.trans (.flags _ _ _), .inl rfl, (absurd · broken), by simp [configured],
        fun _ unordered => absurd unordered (by simp [need])⟩
    | unsupported =>
      simp [configured, need, zero (by simp [answer]), answer] at done
      cases done
      exact .of_log logged frame₁ (.inr (.inl rfl)) (absurd · broken)
        (fun _ unordered => absurd unordered (by simp [need]))
  · -- an unordered domain skips the block
    simp [configured, need] at done
    cases done
    exact ⟨IsRefl.refl s, .inl rfl,
      fun _ => by simp [Process.negotiation, NegotiationState.next, NegotiationState.asks,
        configured, need], fun _ => rfl, fun unset => absurd unset (by simp [configured])⟩
  · -- an ordered domain fails every endpoint that does not set the option
    have unset : s.ncclProtoConfigured ≠ false := by simp [configured]
    cases answer : capability b ep optname with
    | failed =>
      simp [configured, need, failed.mpr answer] at done
      cases done
      exact .of_log logged frame₁ (.inr (.inr (coded.resolve_left (failed.mpr answer))))
        (fun _ => by simp [Process.negotiation, configured, need, NegotiationState.next,
          NegotiationState.asks, failed.mpr answer])
        (absurd · unset)
    | set =>
      simp [configured, need, zero (by simp [answer]), answer] at done
      cases done
      exact .of_log logged frame₁ (.inl rfl)
        (fun _ => by simp [Process.negotiation, configured, need, NegotiationState.next,
          NegotiationState.asks]) (absurd · unset)
    | unsupported =>
      simp [configured, need, zero (by simp [answer]), answer] at done
      cases done
      exact .of_log logged frame₁ (.inr (.inl rfl))
        (fun _ => by simp [Process.negotiation, configured, need, NegotiationState.next,
          NegotiationState.asks, ENOTSUP])
        (absurd · unset)

theorem orderThenSize_spec {b : Build} {w : World} {ep : Endpoint} {protocol : String}
    {optname : Option EpOption} {s s' : Process} {ret : Int}
    (done : (orderThenSize b w ep protocol optname).run s = .ok (ret, s')) :
    CriticalRun w ep false (capability b ep optname) s s' ret := by
  cases ordered : (configureOrdering b w ep optname).run s with
  | error => simp [orderThenSize, ordered] at done
  | ok r =>
    obtain ⟨code, s₁⟩ := r
    have first := configureOrdering_spec ordered
    by_cases zero : code = 0
    · -- the size option only logs its `fi_setopt`
      obtain ⟨step, frame, setopts, sized⟩ : EndpointStep s₁ s' ∧
          s' = { s₁ with calls := s'.calls } ∧ s'.inorderSetopts = s₁.inorderSetopts ∧ (ret = 0 ∨ ProviderCode ep ret) := by
        by_cases rdma : strcaseEq "RDMA" protocol <;>
          simp [orderThenSize, ordered, zero, rdma] at done
        · exact configureEpMaxMsgSize_spec done
        · obtain ⟨rfl, rfl⟩ := done
          exact ⟨IsRefl.refl _, rfl, rfl, .inl rfl⟩
      have env : s'.env = s₁.env := by rw [frame]
      refine ⟨first.step.trans step, sized.imp_right .inr, fun inv => ?_,
        fun kept => env.trans (first.envKept kept), fun unset unordered unexempt unsupported => ?_⟩
      · obtain ⟨moved, failing, quiet, inv₁⟩ := first.follows inv
        rw [frame]
        exact ⟨moved, fun fails => absurd zero (failing fails),
          fun asks => setopts.trans (quiet asks), inv₁⟩
      · rcases first.proto unset unordered unexempt unsupported with set | ⟨-, failing⟩
        · exact .inl (env ▸ set)
        · exact absurd (failing.symm.trans zero) (by simp [ENOTSUP])
    · simp [orderThenSize, ordered, zero] at done
      obtain ⟨rfl, rfl⟩ := done
      exact first

/-- A critical section run after the checks before the mutex. -/
theorem CriticalRun.of_beforeMutex {w : World} {ep : Endpoint} {p5 : Bool} {answer : Capability}
    {s s₁ s' : Process} {ret : Int} (before : Process.BeforeMutex s s₁)
    (run : CriticalRun w ep p5 answer s₁ s' ret) : CriticalRun w ep p5 answer s s' ret := by
  obtain ⟨configured, ordering⟩ := before.statics
  have env : s₁.env = s.env := by rw [before.frame]
  refine ⟨(EndpointStep.of_beforeMutex before).trans run.step, run.code, fun inv => ?_,
    fun kept => (run.envKept (configured ▸ kept)).trans env,
    fun unset unordered => run.proto (configured ▸ unset) (ordering ▸ unordered)⟩
  have follows := run.follows (by rw [configured, ordering]; exact inv)
  rwa [before.negotiation, before.setopts] at follows

/-- A critical section run after the P5 test passed is one step of the machine under the
exemption. -/
theorem CriticalRun.exempt {w : World} {ep : Endpoint} {answer : Capability} {s s' : Process}
    {ret : Int} (run : CriticalRun w ep false answer s.exemptP5 s' ret) :
    CriticalRun w ep true answer s s' ret := by
  refine ⟨(Process.exemptP5_step s).trans run.step, run.code, fun _ => ?_,
    fun _ => (run.envKept (.inl (by simp))).trans (by simp), fun _ _ no => by cases no⟩
  obtain ⟨moved, failing, quiet, inv⟩ := run.follows (by simp)
  have next := NegotiationState.next_exempt s.negotiation true answer
  have asks := NegotiationState.asks_exempt s.negotiation true
  have count : s.exemptP5.inorderSetopts = s.inorderSetopts := by simp [Process.inorderSetopts]
  simp only [if_true] at next asks
  rw [Process.exemptP5_negotiation, next] at moved failing
  rw [Process.exemptP5_negotiation, asks, count] at quiet
  exact ⟨moved, failing, quiet, inv⟩

/-- The critical section refines one step of the negotiator, with the exemption the P5 test
computes and the endpoint's answer. -/
theorem negotiateEndpoint_spec {b : Build} {w : World} {ep : Endpoint} {protocol : String}
    {optname : Option EpOption} {s s' : Process} {ret : Int}
    (done : (negotiateEndpoint b w ep protocol optname).run s = .ok (ret, s')) :
    CriticalRun w ep (p5Exempt w protocol s) (capability b ep optname) s s' ret := by
  cases tested : (isP5Rdma w protocol).run s with
  | error => simp [negotiateEndpoint, tested] at done
  | ok r =>
    obtain ⟨p5, s₁⟩ := r
    obtain ⟨rfl, before⟩ := isP5Rdma_spec tested
    refine CriticalRun.of_beforeMutex before ?_
    cases p5 : p5Exempt w protocol s <;> simp [negotiateEndpoint, tested, p5] at done
    · exact orderThenSize_spec done
    · exact (orderThenSize_spec done).exempt

end AwsPlatform
