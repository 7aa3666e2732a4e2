import AwsPlatform.Reinit

/-! When NCCL's LL and LL128 protocols are safe: an unordered domain needs `NCCL_PROTO` set or the
P5 + RDMA exemption. Endpoint calls keep this wherever their `setenv` gets its memory. -/
namespace AwsPlatform

/-- The P5 + RDMA exemption holds of the process: `NCCL_PROTO` unset, the RDMA protocol, and the
cached identity `p5.48xlarge`. -/
def P5Exempted (s : Process) : Prop :=
  s.env "NCCL_PROTO" = none ∧ strcaseEq "RDMA" s.ncclOfiSelectedProtocol = true ∧
    (s.platformType.any fun type => strEq type "p5.48xlarge") = true

/-- A process whose identity is cached, whose statics are well formed, and whose unordered policy,
once recorded, comes with `NCCL_PROTO` set or the P5 exemption. -/
structure LowLatencySafe (s : Process) : Prop where
  cached : s.typeInit = true
  flags : s.ncclProtoConfigured = false → s.needOrdering = false
  covered : s.negotiation = .configuredUnordered → (s.env "NCCL_PROTO").isSome ∨ P5Exempted s

/-- With the identity cached, the exemption the P5 test computes is the one of the process. -/
theorem p5Exempt_cached {w : World} {s : Process} (cached : s.typeInit = true)
    (exempt : p5Exempt w s.ncclOfiSelectedProtocol s = true) : P5Exempted s := by
  cases type : s.platformType <;>
    simp_all [p5Exempt, P5Exempted, getPlatformType_run, Option.isNone_iff_eq_none]

/-- The checks before the mutex keep the process safe. -/
theorem LowLatencySafe.of_checks {s s' : Process} (safe : LowLatencySafe s)
    (before : Process.BeforeMutex s s') : LowLatencySafe s' := by
  obtain ⟨cached, type⟩ := before.caches.1 safe.cached
  have frame := before.frame
  refine ⟨cached, by rw [frame]; exact safe.flags, fun unordered => ?_⟩
  rcases safe.covered (before.negotiation ▸ unordered) with set | ⟨unset, rdma, p5⟩
  · exact .inl (by rw [frame]; exact set)
  · exact .inr ⟨by rw [frame]; exact unset, by rw [frame]; exact rdma, type ▸ p5⟩

/-- The critical section keeps the process safe for the low-latency protocols, where `setenv`
of `NCCL_PROTO` gets its memory. -/
theorem negotiateEndpoint_lowLatencySafe {b : Build} {w : World} {ep : Endpoint}
    {optname : Option EpOption} {s s' : Process} {ret : Int}
    (enough : w.setenvOk "NCCL_PROTO" = true) (safe : LowLatencySafe s)
    (done : (negotiateEndpoint b w ep s.ncclOfiSelectedProtocol optname).run s = .ok (ret, s')) :
    LowLatencySafe s' := by
  have run := negotiateEndpoint_spec done
  obtain ⟨moved, -, -, flags⟩ := run.follows safe.flags
  obtain ⟨cached, type⟩ := run.step.caches.1 safe.cached
  have protocol : s'.ncclOfiSelectedProtocol = s.ncclOfiSelectedProtocol :=
    (congrArg Process.ncclOfiSelectedProtocol run.step.frame :)
  -- an exemption the process had carries over, unless `NCCL_PROTO` got set
  have carry : P5Exempted s → (s'.env "NCCL_PROTO").isSome ∨ P5Exempted s' := fun exempted => by
    obtain ⟨unset, rdma, p5⟩ := exempted
    rcases run.step.env "NCCL_PROTO" with same | ⟨-, -, now⟩
    · exact .inr ⟨same.trans unset, protocol ▸ rdma, type ▸ p5⟩
    · exact .inl (by rw [now]; rfl)
  refine ⟨cached, flags, fun unordered => ?_⟩
  rw [moved] at unordered
  rcases NegotiationState.next_unordered unordered with was | ⟨unconfigured, exempt | unsupported⟩
  · rcases safe.covered was with set | exempted
    · rcases run.step.env "NCCL_PROTO" with same | ⟨-, -, now⟩
      · exact .inl (same ▸ set)
      · exact .inl (by rw [now]; rfl)
    · exact carry exempted
  · exact carry (p5Exempt_cached safe.cached exempt)
  · cases exempt : p5Exempt w s.ncclOfiSelectedProtocol s
    · have configured := Process.negotiation_unconfigured unconfigured
      rcases run.proto configured (safe.flags configured) exempt unsupported with set | ⟨failed, -⟩
      · exact .inl set
      · simp [enough] at failed
    · exact carry (p5Exempt_cached safe.cached exempt)

/-- Every `platform_config_endpoint` call whose `setenv` of `NCCL_PROTO` gets its memory keeps
the process safe for the low-latency protocols. -/
theorem platformConfigEndpoint_lowLatencySafe (b : Build) (p : Params) (call : EndpointCall)
    (enough : call.world.setenvOk "NCCL_PROTO" = true) :
    Keeps (Preserves LowLatencySafe) (platformConfigEndpoint b p call) :=
  platformConfigEndpoint_preserves _ LowLatencySafe.of_checks
    fun safe done => negotiateEndpoint_lowLatencySafe enough safe done

/-- Once the platform type is cached, a run of `platform_config_endpoint` calls whose `setenv` of
`NCCL_PROTO` never runs out of memory leaves the domain unordered only with `NCCL_PROTO` set or
under the P5 + RDMA exemption, and never ordered without `nccl_proto_configured`. -/
theorem endpointCalls_keep_low_latency_safe (b : Build) (p : Params) (calls : List EndpointCall)
    (s : Process) (enough : ∀ call ∈ calls, call.world.setenvOk "NCCL_PROTO" = true)
    (safe : LowLatencySafe s) :
    LowLatencySafe (runAll (calls.map (platformConfigEndpoint b p)) s).2.1 := by
  refine runAll_invariant _ (fun op mem => ?_) s safe
  obtain ⟨call, member, rfl⟩ := List.mem_map.mp mem
  exact platformConfigEndpoint_lowLatencySafe b p call (enough call member)

/-- The run of the `setenv` failure, on a p4d host where `setenv` works and the type is cached:
both calls return 0, the domain ends unordered, and `NCCL_PROTO` is "simple". -/
theorem endpointCalls_keep_low_latency_safe_p4d :
    let b : Build := ⟨true, true, true, true, true, "/usr/share/aws-ofi-nccl/xml"⟩
    let p : Params := ⟨0, 0, -1, none, -1⟩
    let w : World := ⟨some ⟨"p4d.24xlarge\n".toList, false⟩, true, fun _ => true, fun _ => true⟩
    let call : EndpointCall :=
      ⟨"efa", some ⟨(0, true, false), fun _ => -FI_EOPNOTSUPP⟩, .supported, w⟩
    let start : Process := { Process.initial (fun _ => none) none 0 (-1) "SENDRECV" (-1) with
      typeInit := true, platformType := some "p4d.24xlarge" }
    let run := runAll ([call, call].map (platformConfigEndpoint b p)) start
    (∀ c ∈ [call, call], c.world.setenvOk "NCCL_PROTO" = true) ∧ LowLatencySafe start ∧
      LowLatencySafe run.2.1 ∧ run.1 = [0, 0] ∧ run.2.1.negotiation = .configuredUnordered ∧
        run.2.1.env "NCCL_PROTO" = some "simple" := by
  intro b p w call start run
  have enough : ∀ c ∈ [call, call], c.world.setenvOk "NCCL_PROTO" = true := by simp [call, w]
  have safe : LowLatencySafe start :=
    ⟨rfl, fun _ => rfl, fun unordered => absurd unordered (by decide)⟩
  exact ⟨enough, safe, endpointCalls_keep_low_latency_safe b p [call, call] start enough safe,
    by decide, by decide, by decide⟩

/-! ## From the start of the plugin's run -/

/-- The negotiation statics are untouched. -/
def KeepsStatics (s s' : Process) : Prop :=
  s'.ncclProtoConfigured = s.ncclProtoConfigured ∧ s'.needOrdering = s.needOrdering

instance : IsPreorder Process KeepsStatics where
  refl _ := ⟨rfl, rfl⟩
  trans _ _ _ first second := ⟨second.1.trans first.1, second.2.trans first.2⟩

theorem InitPrefix.keepsStatics {s s' : Process} (pre : InitPrefix s s') : KeepsStatics s s' := by
  rw [pre.frame]; exact ⟨rfl, rfl⟩

/-- `platform_init` never touches the negotiation statics of `platform_config_endpoint`. -/
theorem platformInit_keepsStatics (b : Build) (p : Params) (rt : Runtime) (w : World) :
    Keeps KeepsStatics (platformInit b p rt w) :=
  have statics : ∀ s s', InitPrefix s s' → KeepsStatics s s' := fun _ _ => InitPrefix.keepsStatics
  Keeps.bind (Keeps.mono statics (getPlatformData_initPrefix w)) fun _ =>
  Keeps.bind (Keeps.mono statics selectProvider_initPrefix) fun _ =>
  Keeps.thenIfOk
    (Keeps.ite (Keeps.mono statics (configureCuda_initPrefix _ _ _)) (Keeps.pure _ _)) <|
  Keeps.thenIfOk (Keeps.mono statics (configureTopology_initPrefix _ _ _ _)) <|
  Keeps.bind (Keeps.modify fun _ => ⟨rfl, rfl⟩) fun _ => Keeps.pure _ _

/-- A `platform_init` that returns 0 in a process that has negotiated nothing caches the platform
type, and so makes the process safe for the low-latency protocols. -/
theorem platformInit_establishes_lowLatencySafe {b : Build} {p : Params} {rt : Runtime}
    {w : World} {s s' : Process} (inv : CacheInv s) (unconfigured : s.ncclProtoConfigured = false)
    (unordered : s.needOrdering = false) (done : (platformInit b p rt w).run s = .ok (0, s')) :
    LowLatencySafe s' := by
  obtain ⟨configured, ordering⟩ := platformInit_keepsStatics b p rt w s 0 s' done
  have cached := ((platformInit_initStep p b rt w s 0 s' done).cache inv).data_init
    (platformInit_settles inv done).cached
  refine ⟨cached, fun _ => ordering.trans unordered, fun unordered' => ?_⟩
  simp [Process.negotiation, configured, unconfigured] at unordered'

/-- In the plugin's run from a process that has negotiated nothing, once `platform_init` has
returned 0, every endpoint call whose `setenv` of `NCCL_PROTO` gets its memory leaves the domain
unordered only with `NCCL_PROTO` set or under the P5 + RDMA exemption. -/
theorem pluginCalls_keep_low_latency_safe (b : Build) (p : Params) (rt : Runtime) (w : World)
    (calls : List EndpointCall) (s : Process) (inv : CacheInv s)
    (unconfigured : s.ncclProtoConfigured = false) (unordered : s.needOrdering = false)
    (enough : ∀ call ∈ calls, call.world.setenvOk "NCCL_PROTO" = true)
    (initialized : (runAll (pluginCalls b p rt w calls) s).1.head? = some 0) :
    LowLatencySafe (runAll (pluginCalls b p rt w calls) s).2.1 := by
  cases done : (platformInit b p rt w).run s with
  | error => simp [pluginCalls, runAll, done] at initialized
  | ok r =>
    obtain ⟨ret, s₁⟩ := r
    obtain rfl : ret = 0 := by simpa [pluginCalls, runAll, done] using initialized
    simp only [pluginCalls, runAll, done]
    refine runAll_invariant _ (fun op mem => ?_) s₁
      (platformInit_establishes_lowLatencySafe inv unconfigured unordered done)
    obtain ⟨call, member, rfl⟩ := List.mem_map.mp mem
    exact platformConfigEndpoint_lowLatencySafe b p call (enough call member)

/-- A fresh plugin on a p4d host where `setenv` works, with two endpoints that lack 128-byte
in-order writes: every call returns 0, the domain ends unordered, and `NCCL_PROTO` is "simple". -/
theorem pluginCalls_keep_low_latency_safe_p4d :
    let b : Build := ⟨true, true, true, true, true, "/usr/share/aws-ofi-nccl/xml"⟩
    let p : Params := ⟨0, 0, -1, none, -1⟩
    let rt : Runtime := ⟨1, 18, some (0, 21805), true, false⟩
    let w : World := ⟨some ⟨"p4d.24xlarge\n".toList, false⟩, true, fun _ => true, fun _ => true⟩
    let call : EndpointCall :=
      ⟨"efa", some ⟨(0, true, false), fun _ => -FI_EOPNOTSUPP⟩, .supported, w⟩
    let start := Process.initial (fun _ => none) none 0 (-1) "SENDRECV" (-1)
    let run := runAll (pluginCalls b p rt w [call, call]) start
    run.1 = [0, 0, 0] ∧ LowLatencySafe run.2.1 ∧ run.2.1.negotiation = .configuredUnordered ∧
      run.2.1.env "NCCL_PROTO" = some "simple" := by
  intro b p rt w call start run
  have enough : ∀ c ∈ [call, call], c.world.setenvOk "NCCL_PROTO" = true := by simp [call, w]
  exact ⟨by decide, pluginCalls_keep_low_latency_safe b p rt w [call, call] start
    (cacheInv_initial _ _ _ _ _ _) rfl rfl enough (by decide), by decide, by decide⟩

end AwsPlatform
