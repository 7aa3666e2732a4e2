import AwsPlatform.Refinement
import AwsPlatform.InitBlocks

/-! What every run of the plugin keeps and touches: what the user set stays set, and only the
variables the plugin defaults change. -/
namespace AwsPlatform

/-- What the platform code may do, under parameters `p`, to what the user set before: fill in
what was unset, nothing else. -/
structure KeepsUserSettings (p : Params) (s s' : Process) : Prop where
  env : ∀ name value, s.env name = some value → s'.env name = some value
  providerFilter : (s.env "FI_PROVIDER").isSome → s'.providerFilter = s.providerFilter
  nicDupConns : s.nicDupConns ≠ 0 → s'.nicDupConns = s.nicDupConns
  netLatency : 0 ≤ p.netLatency → s'.netLatency = s.netLatency
  protocol : p.protocol.isSome → s'.ncclOfiSelectedProtocol = s.ncclOfiSelectedProtocol
  domainPerThread : p.domainPerThread ≠ -1 →
    s'.domainPerThread = s.domainPerThread ∨ s'.domainPerThread = p.domainPerThread

instance (p : Params) : IsPreorder Process (KeepsUserSettings p) where
  refl _ := ⟨fun _ _ set => set, fun _ => rfl, fun _ => rfl, fun _ => rfl, fun _ => rfl,
    fun _ => .inl rfl⟩
  trans _ _ _ first second := {
    env := fun n v set => second.env n v (first.env n v set)
    providerFilter := fun set => by
      obtain ⟨v, found⟩ := Option.isSome_iff_exists.mp set
      rw [second.providerFilter (by rw [first.env _ _ found]; rfl), first.providerFilter set]
    nicDupConns := fun nonzero => by
      rw [second.nicDupConns (by rwa [first.nicDupConns nonzero]), first.nicDupConns nonzero]
    netLatency := fun kept => (second.netLatency kept).trans (first.netLatency kept)
    protocol := fun kept => (second.protocol kept).trans (first.protocol kept)
    domainPerThread := fun set => by
      rcases second.domainPerThread set with same | chosen
      · rw [same]; exact first.domainPerThread set
      · exact .inr chosen }

/-! ## Endpoint calls -/

/-- An endpoint call fills in `NCCL_PROTO` at most, so it keeps what the user set. -/
theorem EndpointStep.keepsUserSettings (p : Params) {s s' : Process} (step : EndpointStep s s') :
    KeepsUserSettings p s s' := by
  have env : ∀ n v, s.env n = some v → s'.env n = some v := fun n v set => by
    rcases step.env n with same | ⟨-, unset, -⟩
    · rw [same, set]
    · simp [set] at unset
  rw [step.frame]
  exact ⟨env, fun _ => rfl, fun _ => rfl, fun _ => rfl, fun _ => rfl, fun _ => .inl rfl⟩

/-- A run of `platform_config_endpoint` calls changes the statics, the lookup caches, which keep
what they held and stay coherent, and the log; of the environment only `NCCL_PROTO`, from unset to
`simple`; and no plugin global. -/
theorem endpointCalls_frame (b : Build) (p : Params) (calls : List EndpointCall) (s : Process) :
    EndpointStep s (runAll (calls.map (platformConfigEndpoint b p)) s).2.1 :=
  Keeps.runAll (fun op mem => by
    obtain ⟨call, -, rfl⟩ := List.mem_map.mp mem
    exact platformConfigEndpoint_step b p call) s

/-! ## `platform_init` -/

/-- What one step of `platform_init` may do under parameters `p`: fill in what the user left
unset, keeping the identity caches coherent. -/
structure InitStep (p : Params) (s s' : Process) : Prop where
  settings : KeepsUserSettings p s s'
  cache : CacheInv s → CacheInv s'

instance (p : Params) : IsPreorder Process (InitStep p) where
  refl s := ⟨IsRefl.refl s, id⟩
  trans _ _ _ first second :=
    ⟨IsTrans.trans _ _ _ first.settings second.settings, second.cache ∘ first.cache⟩

theorem selectProvider_env {s s' : Process} {selectEfa : Bool}
    (done : selectProvider.run s = .ok (selectEfa, s')) : s'.env = s.env := by
  cases provider : s.env "FI_PROVIDER" <;> simp [selectProvider, provider] at done <;>
    cases done <;> rfl

section Steps

variable (p : Params)

theorem InitStep.of_beforeMutex {s s' : Process} (before : Process.BeforeMutex s s') :
    InitStep p s s' :=
  ⟨(EndpointStep.of_beforeMutex before).keepsUserSettings p, before.cache⟩

theorem InitStep.of_initBlock {names : List String} {s s' : Process}
    (block : InitBlock names s s') : InitStep p s s' := by
  have env : ∀ n v, s.env n = some v → s'.env n = some v := fun n v set => by
    rcases block.fills n with same | ⟨-, unset⟩
    · rw [same, set]
    · simp [set] at unset
  refine ⟨?_, block.cache⟩
  rw [block.frame]
  exact ⟨env, fun _ => rfl, fun _ => rfl, fun _ => rfl, fun _ => rfl, fun _ => .inl rfl⟩

theorem selectProvider_initStep : Keeps (InitStep p) selectProvider := by
  unfold selectProvider
  refine Keeps.getThen fun s selectEfa s' done => ?_
  cases provider : s.env "FI_PROVIDER" with
  | none =>
    simp only [provider] at done
    cases done
    exact ⟨⟨fun _ _ set => set, by simp [provider], fun _ => rfl, fun _ => rfl, fun _ => rfl,
      fun _ => .inl rfl⟩, fun inv => ⟨inv.1, inv.2, inv.3, inv.4⟩⟩
  | some _ =>
    simp only [provider] at done
    exact Keeps.pure _ _ s selectEfa s' done

theorem platformDefaults_initStep (data : Option PlatformEntry) (selectEfa : Bool) :
    Keeps (InitStep p) (platformDefaults p data selectEfa) :=
  Keeps.modify fun s => ⟨{
    env := fun _ _ set => set
    providerFilter := fun _ => rfl
    nicDupConns := fun nonzero => by cases data <;> simp [nonzero]
    netLatency := fun kept => if_neg (by omega)
    protocol := fun chosen => by
      cases data <;> simp [Option.isSome_iff_ne_none.mp chosen]
    domainPerThread := fun chosen => .inr (if_neg chosen) },
    fun inv => ⟨inv.1, inv.2, inv.3, inv.4⟩⟩

theorem platformInit_initStep (b : Build) (rt : Runtime) (w : World) :
    Keeps (InitStep p) (platformInit b p rt w) :=
  Keeps.bind (Keeps.mono (fun _ _ => InitStep.of_beforeMutex p) (getPlatformData_beforeMutex w))
    fun _ =>
  Keeps.bind (selectProvider_initStep p) fun _ =>
  Keeps.thenIfOk (Keeps.ite (fun _ _ _ done => .of_initBlock p (configureCuda_spec done).1)
    (Keeps.pure _ _)) <|
  Keeps.thenIfOk (fun _ _ _ done => .of_initBlock p (configureTopology_spec done).1) <|
  Keeps.bind (platformDefaults_initStep p _ _) fun _ => Keeps.pure _ _

end Steps

/-- Whatever the user set before `platform_init` keeps its value through `platform_init` and every
`platform_config_endpoint` call after it, from any state: every environment variable that was set,
`*provider_filter` once `FI_PROVIDER` is set, `nic_dup_conns` unless it was 0, `net_latency`
when its parameter is not negative, the selected protocol when its parameter is set, and
`domain_per_thread`, which takes no other value than its parameter when that is not -1. -/
theorem pluginCalls_keep_user_settings (b : Build) (p : Params) (rt : Runtime) (w : World)
    (calls : List EndpointCall) (s : Process) :
    KeepsUserSettings p s (runAll (pluginCalls b p rt w calls) s).2.1 := by
  refine Keeps.runAll (fun op mem => ?_) s
  simp only [pluginCalls, List.mem_cons, List.mem_map] at mem
  rcases mem with rfl | ⟨call, -, rfl⟩
  · exact Keeps.mono (fun _ _ step => step.settings) (platformInit_initStep p b rt w)
  · exact Keeps.mono (fun _ _ => EndpointStep.keepsUserSettings p)
      (platformConfigEndpoint_step b p call)

/-! ## The identity caches over whole runs -/

/-- Over every run of the plugin, `platform_init` and then endpoint calls, identity caches that
were coherent stay coherent: the catalog entry is the scan's answer for the cached identity, and
`product_name` was opened once exactly when the identity was cached. -/
theorem pluginCalls_keep_caches_coherent (b : Build) (p : Params) (rt : Runtime) (w : World)
    (calls : List EndpointCall) (s : Process) (coherent : CacheInv s) :
    CacheInv (runAll (pluginCalls b p rt w calls) s).2.1 := by
  refine runAll_invariant CacheInv (fun op mem => ?_) s coherent
  simp only [pluginCalls, List.mem_cons, List.mem_map] at mem
  rcases mem with rfl | ⟨call, -, rfl⟩
  · exact Keeps.mono (fun _ _ step => step.cache) (platformInit_initStep p b rt w)
  · exact Keeps.mono (fun _ _ step => step.cache) (platformConfigEndpoint_step b p call)

theorem pluginCalls_keep_caches_coherent_from_start :
    let start := Process.initial (fun _ => none) none 0 (-1) "SENDRECV" (-1)
    CacheInv start ∧
      CacheInv (runAll (pluginCalls ⟨true, true, true, true, true, "/usr/share/aws-ofi-nccl/xml"⟩
        ⟨0, 0, -1, none, -1⟩ ⟨1, 18, none, true, false⟩ unidentifiedWorld
        [⟨"efa", some unorderedEndpoint, .supported, unidentifiedWorld⟩]) start).2.1 :=
  ⟨cacheInv_initial _ _ _ _ _ _,
    pluginCalls_keep_caches_coherent _ _ _ _ _ _ (cacheInv_initial _ _ _ _ _ _)⟩

/-! ## The environment a run touches -/

/-- `platform_init` sets no environment variable but the topology file and those of its CUDA
block. -/
theorem platformInit_setsWithin (b : Build) (p : Params) (rt : Runtime) (w : World) :
    Keeps (SetsWithin ("NCCL_TOPO_FILE" :: cudaVarNames rt)) (platformInit b p rt w) :=
  have same : ∀ {s s' : Process}, s'.env = s.env → SetsWithin _ s s' := fun same _ _ => by
    rw [same]
  Keeps.bind (fun s _ s' done =>
    same (congrArg Process.env (getPlatformData_beforeMutex w s _ s' done).frame :)) fun _ =>
  Keeps.bind (fun _ _ _ done => same (selectProvider_env done)) fun _ =>
  Keeps.thenIfOk (Keeps.ite (fun _ _ _ done =>
    ((configureCuda_spec done).1.mono fun _ => List.mem_cons_of_mem _).setsWithin)
    (Keeps.pure _ _)) <|
  Keeps.thenIfOk (fun _ _ _ done => ((configureTopology_spec done).1.mono (by simp)).setsWithin) <|
  Keeps.bind (Keeps.modify fun _ => same rfl) fun _ => Keeps.pure _ _

/-- Over any run, the plugin changes no environment variable but `NCCL_PROTO`, the topology file
and the five variables its CUDA block defaults: every other variable keeps the value it had. -/
theorem pluginCalls_env_footprint (b : Build) (p : Params) (rt : Runtime) (w : World)
    (calls : List EndpointCall) (s : Process) :
    SetsWithin ["NCCL_PROTO", "NCCL_TOPO_FILE", forkSafeVarName rt, "NCCL_NVLS_ENABLE",
      "NCCL_NET_FORCE_FLUSH", "NCCL_NVLSTREE_MAX_CHUNKSIZE", "NCCL_NVLS_CHUNKSIZE"] s
      (runAll (pluginCalls b p rt w calls) s).2.1 := by
  refine Keeps.runAll (fun op mem => ?_) s
  rcases List.mem_cons.mp mem with rfl | endpoint
  · exact Keeps.mono (fun _ _ within n other => within n fun mem =>
      other (List.mem_cons_of_mem _ mem)) (platformInit_setsWithin b p rt w)
  · obtain ⟨call, -, rfl⟩ := List.mem_map.mp endpoint
    exact Keeps.mono (fun _ _ step n other => (step.env n).resolve_right fun ⟨proto, _⟩ =>
      other (proto ▸ List.mem_cons_self _ _)) (platformConfigEndpoint_step b p call)

end AwsPlatform
