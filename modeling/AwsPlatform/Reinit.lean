import AwsPlatform.Globals

/-! A second `platform_init` after one that returned 0: every block finds what the first left, so
it returns 0 and changes nothing, also after endpoint calls. -/
namespace AwsPlatform

/-- A `setenv` that does not overwrite a variable that is set changes nothing. -/
theorem setEnv_of_set {w : World} {name value : String} {s : Process}
    (set : (s.env name).isSome) : (setEnv w name value false).run s = .ok (0, s) := by
  simp [setEnv_run, setenv, set]

/-! ## What each block leaves behind -/

theorem getPlatformData_caches {w : World} {s s' : Process} {data : Option PlatformEntry}
    (inv : CacheInv s) (done : (getPlatformData w).run s = .ok (data, s')) :
    s'.dataInit = true ∧ s'.platformData = data := by
  rw [getPlatformData_run] at done
  split at done
  next cached => cases done; exact ⟨cached, rfl⟩
  next unread =>
    have unset := inv.data_unset (by simpa using unread)
    cases found : (getPlatformType w).run { s with dataInit := true } with
    | error => rw [found] at done; cases done
    | ok r =>
      obtain ⟨type, s₁⟩ := r
      obtain ⟨-, rfl⟩ := getPlatformType_ok found
      rw [found] at done
      cases type <;> simp only [Except.map, Except.ok.injEq, Prod.mk.injEq] at done <;>
        obtain ⟨rfl, rfl⟩ := done
      · exact ⟨rfl, unset⟩
      · exact ⟨rfl, rfl⟩

theorem getPlatformData_cached {w : World} {s : Process} (cached : s.dataInit = true) :
    (getPlatformData w).run s = .ok (s.platformData, s) := by
  rw [getPlatformData_run, if_pos cached]

/-- `select_efa` leaves the provider filter at EFA wherever `FI_PROVIDER` is unset. -/
theorem selectProvider_settles {s s' : Process} {selectEfa : Bool}
    (done : selectProvider.run s = .ok (selectEfa, s')) :
    s'.env "FI_PROVIDER" = none → s'.providerFilter = some "efa" := by
  cases provider : s.env "FI_PROVIDER" <;> simp [selectProvider, provider] at done <;>
    cases done
  · exact fun _ => rfl
  · simp [provider]

theorem selectProvider_of_settled {s : Process}
    (settled : s.env "FI_PROVIDER" = none → s.providerFilter = some "efa") :
    selectProvider.run s =
      .ok ((s.env "FI_PROVIDER").all fun provider => strEq provider "efa", s) := by
  cases provider : s.env "FI_PROVIDER" with
  | none =>
    simp only [selectProvider, provider, StateT.run_bind, StateT.run_get, pure_bind]
    rw [← settled provider]
    rfl
  | some _ => simp [selectProvider, provider]; rfl

/-- The topology block changes no variable the CUDA block settles. -/
theorem CudaSettled.of_topology {rt : Runtime} {data : Option PlatformEntry} {s s' : Process}
    (settled : CudaSettled rt data s.env) (only : SetsWithin ["NCCL_TOPO_FILE"] s s') :
    CudaSettled rt data s'.env := by
  have kept : ∀ n, n ≠ "NCCL_TOPO_FILE" → s'.env n = s.env n :=
    fun n other => only n (by simpa using other)
  have fork : forkSafeVarName rt ≠ "NCCL_TOPO_FILE" := by
    unfold forkSafeVarName; split <;> decide
  obtain ⟨forkSafe, nvlsEnable, forceFlush, nvlstreeChunksize, nvlsChunksize⟩ := settled
  exact ⟨by rwa [kept _ fork], by rwa [kept _ (by decide)], by rwa [kept _ (by decide)],
    by rwa [kept _ (by decide)], by rwa [kept _ (by decide)]⟩

theorem configureCuda_of_settled {w : World} {rt : Runtime} {data : Option PlatformEntry}
    {s : Process} (settled : CudaSettled rt data s.env) :
    (configureCuda w rt data).run s = .ok (0, s) := by
  have fork : (setEnvIfUnset w (forkSafeVarName rt) "1").run s = .ok (0, s) := by
    simp [setEnvIfUnset, settled.forkSafe]
    rfl
  have nvls : (configureNvlsOption w rt).run s = .ok (0, s) := by
    rcases settled.nvlsEnable with set | skipped
    · simp [configureNvlsOption, set]
      rfl
    · cases found : rt.ncclGetVersion with
      | none => simp [configureNvlsOption, found]; rfl
      | some answer =>
        obtain ⟨code, version⟩ := answer
        obtain ⟨rfl, new, quiet⟩ := skipped _ _ found
        simp [configureNvlsOption, found, not_lt.mpr new, logVersion, quiet, pure_eq_ok]
  have flush : (configureForceFlush w data).run s = .ok (0, s) := by
    rcases settled.forceFlush with set | skipped
    · simp [configureForceFlush, Option.isSome_iff_ne_none.mp set]
      rfl
    · simp only [List.get_eq_getElem] at skipped
      simp [configureForceFlush, skipped]
      rfl
  rw [configureCuda, thenIfOk_of_zero fork, thenIfOk_of_zero nvls, thenIfOk_of_zero flush,
    thenIfOk_of_zero (setEnv_of_set settled.nvlstreeChunksize),
    setEnv_of_set settled.nvlsChunksize]

theorem configureTopology_of_settled {b : Build} {w : World} {rt : Runtime}
    {data : Option PlatformEntry} {s : Process} (settled : TopologySettled rt data s) :
    (configureTopology b w rt data).run s = .ok (0, s) := by
  rcases settled with ⟨set, init, present⟩ | ⟨unset, named⟩
  · have logged : (logPlatformType w rt).run s = .ok ((), s) := by
      by_cases logs : rt.infoLogged
      · simp [logPlatformType, getPlatformType_run, init, logs, Option.isSome_iff_ne_none.mp
          (present logs)]
        rfl
      · simp [logPlatformType, getPlatformType_run, init, logs]
    simp [configureTopology, set, logged]
  · simp only [List.get_eq_getElem] at named
    simp [configureTopology, unset, named]
    rfl

/-- The defaults computed again from what they set are the same. -/
theorem platformDefaults_again {p : Params} {data : Option PlatformEntry} {selectEfa : Bool}
    {s s' : Process} (done : (do platformDefaults p data selectEfa; pure 0 : PluginM Int).run s =
      .ok (0, s')) :
    (do platformDefaults p data selectEfa; pure 0 : PluginM Int).run s' = .ok (0, s') := by
  simp only [platformDefaults, StateT.run_bind, StateT.run_modify, ok_bind] at done ⊢
  cases (Prod.mk.inj (Except.ok.inj done)).2
  refine congrArg (fun t => (Except.ok (0, t) : Except Fault (Int × Process))) ?_
  cases data with
  | none => dsimp only; congr 1; split_ifs <;> rfl
  | some e =>
    dsimp only
    congr 1
    · split_ifs <;> simp_all
    · split_ifs <;> rfl
    · split_ifs <;> rfl

/-! ## The second call -/

theorem selectProvider_lookups {s s' : Process} {selectEfa : Bool}
    (done : selectProvider.run s = .ok (selectEfa, s')) :
    s'.dataInit = s.dataInit ∧ s'.platformData = s.platformData := by
  cases provider : s.env "FI_PROVIDER" <;> simp [selectProvider, provider] at done <;>
    cases done <;> exact ⟨rfl, rfl⟩

theorem InitBlock.lookups {names : List String} {s s' : Process} (block : InitBlock names s s') :
    s'.dataInit = s.dataInit ∧ s'.platformData = s.platformData ∧
      s'.providerFilter = s.providerFilter := by
  rw [block.frame]; exact ⟨rfl, rfl, rfl⟩

/-- What a `platform_init` that returned 0 leaves for the next one: the catalog entry cached, the
provider filter chosen, the variables of both blocks settled, and the globals where the defaults
put them. -/
structure InitSettled (b : Build) (p : Params) (rt : Runtime) (s : Process) : Prop where
  cached : s.dataInit = true
  provider : s.env "FI_PROVIDER" = none → s.providerFilter = some "efa"
  cuda : b.haveCuda = true → CudaSettled rt s.platformData s.env
  topology : TopologySettled rt s.platformData s
  defaults : (platformDefaults p s.platformData
      ((s.env "FI_PROVIDER").all fun provider => strEq provider "efa") >>= fun _ => pure 0 :
    PluginM Int).run s = .ok (0, s)

/-- From a settled process, `platform_init` returns 0 and changes nothing, whatever the world
answers: each block finds nothing left to do. -/
theorem platformInit_of_settled {b : Build} {p : Params} {rt : Runtime} (w : World) {s : Process}
    (settled : InitSettled b p rt s) : (platformInit b p rt w).run s = .ok (0, s) := by
  have cuda : (if b.haveCuda then configureCuda w rt s.platformData else pure 0).run s =
      .ok (0, s) := by
    split
    next built => exact configureCuda_of_settled (settled.cuda built)
    next => rfl
  simp only [platformInit, StateT.run_bind, getPlatformData_cached settled.cached, ok_bind,
    selectProvider_of_settled settled.provider]
  rw [thenIfOk_of_zero cuda, thenIfOk_of_zero (configureTopology_of_settled settled.topology)]
  exact settled.defaults

/-- A `platform_init` that returned 0 from a coherent process leaves it settled. -/
theorem platformInit_settles {b : Build} {p : Params} {rt : Runtime} {w : World} {s s' : Process}
    (inv : CacheInv s) (done : (platformInit b p rt w).run s = .ok (0, s')) :
    InitSettled b p rt s' := by
  obtain ⟨data, s₁, selectEfa, s₂, s₃, s₄, found, selected, cuda, topo, defaults⟩ :=
    platformInit_zero done
  obtain ⟨cached₁, stored₁⟩ := getPlatformData_caches inv found
  obtain ⟨cached₂, stored₂⟩ := selectProvider_lookups selected
  have block₃ : InitBlock (cudaVarNames rt) s₂ s₃ := by
    split at cuda
    · exact (configureCuda_spec cuda).1
    · cases cuda
      exact IsRefl.refl s₂
  obtain ⟨block₄, -, settled₄⟩ := configureTopology_spec topo
  obtain ⟨cached₃, stored₃, filter₃⟩ := block₃.lookups
  obtain ⟨cached₄, stored₄, filter₄⟩ := block₄.lookups
  have fork : forkSafeVarName rt ≠ "FI_PROVIDER" := by
    unfold forkSafeVarName; split <;> decide
  have provider₄ : s₄.env "FI_PROVIDER" = s₂.env "FI_PROVIDER" :=
    (block₄.other (by decide)).trans (block₃.setsWithin _ (by simp [cudaVarNames, Ne.symm fork]))
  have chosen := selectProvider_ok selected
  rw [← selectProvider_env selected, ← provider₄] at chosen
  have data₄ : s₄.platformData = data := by rw [stored₄, stored₃, stored₂, stored₁]
  subst data₄ chosen
  have again := platformDefaults_again defaults
  simp only [platformDefaults, StateT.run_bind, StateT.run_modify, ok_bind] at defaults
  cases defaults
  refine ⟨by rw [cached₄, cached₃, cached₂, cached₁], fun unset => ?_, fun built => ?_,
    (settled₄ rfl).1, again⟩
  · exact filter₄.trans
      (filter₃.trans (selectProvider_settles selected (provider₄.symm.trans unset)))
  · rw [if_pos built] at cuda
    exact ((configureCuda_spec cuda).2.2 rfl).2.of_topology block₄.setsWithin

/-- A second `platform_init` after one that returned 0 returns 0 and changes nothing, whatever
the world answers it. -/
theorem platformInit_idempotent {b : Build} {p : Params} {rt : Runtime} {w : World} (w' : World)
    {s s' : Process} (inv : CacheInv s) (done : (platformInit b p rt w).run s = .ok (0, s')) :
    (platformInit b p rt w').run s' = .ok (0, s') :=
  platformInit_of_settled w' (platformInit_settles inv done)

/-- A p4d host in a CUDA build: after a first call that returned 0, a second call on a host whose
`product_name` cannot be opened and where every `setenv` fails returns 0 and changes nothing. -/
theorem platformInit_idempotent_p4d :
    let b : Build := ⟨true, true, true, true, true, "/usr/share/aws-ofi-nccl/xml"⟩
    let p : Params := ⟨0, 0, -1, none, -1⟩
    let rt : Runtime := ⟨1, 18, some (0, 21805), true, false⟩
    let w : World := ⟨some ⟨"p4d.24xlarge\n".toList, false⟩, true, fun _ => true, fun _ => true⟩
    let start := Process.initial (fun _ => none) none 0 (-1) "SENDRECV" (-1)
    ∃ s', (platformInit b p rt w).run start = .ok (0, s') ∧
      (platformInit b p rt ⟨none, false, fun _ => false, fun _ => false⟩).run s' = .ok (0, s') := by
  intro b p rt w start
  obtain ⟨s', done⟩ : ∃ s', (platformInit b p rt w).run start = .ok (0, s') := ⟨_, rfl⟩
  exact ⟨s', done, platformInit_idempotent _ (cacheInv_initial _ _ _ _ _ _) done⟩

/-! ## A second call later in the run -/

/-- The defaults are settled wherever the globals they compute hold. -/
theorem platformDefaults_fixed {p : Params} {data : Option PlatformEntry} {selectEfa : Bool}
    {s s' : Process}
    (fixed : (platformDefaults p data selectEfa >>= fun _ => pure 0 : PluginM Int).run s =
      .ok (0, s))
    (nic : s'.nicDupConns = s.nicDupConns) (latency : s'.netLatency = s.netLatency)
    (protocol : s'.ncclOfiSelectedProtocol = s.ncclOfiSelectedProtocol)
    (domain : s'.domainPerThread = s.domainPerThread) :
    (platformDefaults p data selectEfa >>= fun _ => pure 0 : PluginM Int).run s' =
      .ok (0, s') := by
  simp only [platformDefaults, StateT.run_bind, StateT.run_modify, ok_bind] at fixed ⊢
  have same := congrArg Prod.snd (Except.ok.inj fixed)
  refine congrArg (fun t => (Except.ok (0, t) : Except Fault (Int × Process))) ?_
  obtain ⟨_, _, _, _, _, _, _, _, _, _, _, _, _⟩ := s'
  dsimp only at nic latency protocol domain
  subst nic latency protocol domain
  dsimp only
  congr 1
  · exact congrArg Process.nicDupConns same
  · exact congrArg Process.netLatency same
  · exact congrArg Process.ncclOfiSelectedProtocol same
  · exact congrArg Process.domainPerThread same

/-- An endpoint call leaves a settled process settled: it sets `NCCL_PROTO` at most, keeps what
both lookups cached, and changes no global. -/
theorem InitSettled.endpoint {b : Build} {p : Params} {rt : Runtime} {s s' : Process}
    (settled : InitSettled b p rt s) (step : EndpointStep s s') : InitSettled b p rt s' := by
  have kept : ∀ name, name ≠ "NCCL_PROTO" → s'.env name = s.env name := fun name other =>
    (step.env name).resolve_right fun changed => other changed.1
  have set : ∀ name, (s.env name).isSome → (s'.env name).isSome := fun name was => by
    rcases step.env name with same | ⟨-, -, now⟩
    · rwa [same]
    · rw [now]; rfl
  obtain ⟨cached, data⟩ := step.caches.2 settled.cached
  refine ⟨cached, fun unset => ?_, fun built => ?_, ?_, ?_⟩
  · have filter : s'.providerFilter = s.providerFilter :=
      (congrArg Process.providerFilter step.frame :)
    exact filter.trans (settled.provider ((kept _ (by decide)).symm.trans unset))
  · rw [data]
    obtain ⟨fork, nvls, flush, tree, chunk⟩ := settled.cuda built
    exact ⟨set _ fork, nvls.imp_left (set _), flush.imp_left (set _), set _ tree, set _ chunk⟩
  · rw [TopologySettled, data]
    rcases settled.topology with ⟨topo, init, present⟩ | ⟨unset, named⟩
    · obtain ⟨init', type'⟩ := step.caches.1 init
      exact .inl ⟨set _ topo, init', fun logs => type' ▸ present logs⟩
    · exact .inr ⟨(kept _ (by decide)).trans unset, named⟩
  · rw [data, kept _ (by decide)]
    exact platformDefaults_fixed settled.defaults ((congrArg Process.nicDupConns step.frame :))
      ((congrArg Process.netLatency step.frame :))
      ((congrArg Process.ncclOfiSelectedProtocol step.frame :))
      ((congrArg Process.domainPerThread step.frame :))

theorem platformConfigEndpoint_settled (b : Build) (p p' : Params) (rt : Runtime)
    (call : EndpointCall) :
    Keeps (Preserves (InitSettled b p rt)) (platformConfigEndpoint b p' call) :=
  fun s ret s' done settled =>
    settled.endpoint (platformConfigEndpoint_step b p' call s ret s' done)

/-- In a run whose `platform_init` returned 0, a second `platform_init` after any of the endpoint
calls returns 0 and changes nothing, whatever the world answers it. -/
theorem pluginCalls_reinit_idempotent (b : Build) (p : Params) (rt : Runtime) (w : World)
    (calls : List EndpointCall) (w' : World) (s : Process) (inv : CacheInv s)
    (initialized : (runAll (pluginCalls b p rt w calls) s).1.head? = some 0) :
    (platformInit b p rt w').run (runAll (pluginCalls b p rt w calls) s).2.1 =
      .ok (0, (runAll (pluginCalls b p rt w calls) s).2.1) := by
  cases done : (platformInit b p rt w).run s with
  | error => simp [pluginCalls, runAll, done] at initialized
  | ok r =>
    obtain ⟨ret, s₁⟩ := r
    obtain rfl : ret = 0 := by simpa [pluginCalls, runAll, done] using initialized
    simp only [pluginCalls, runAll, done]
    refine platformInit_of_settled w'
      (runAll_invariant _ (fun op mem => ?_) s₁ (platformInit_settles inv done))
    obtain ⟨call, -, rfl⟩ := List.mem_map.mp mem
    exact platformConfigEndpoint_settled b p p rt call

/-- A p4d host in a CUDA build: after `platform_init` and an endpoint call that sets
`NCCL_PROTO`, a second `platform_init` on a host where nothing can be read or set returns 0 and
changes nothing. -/
theorem pluginCalls_reinit_idempotent_p4d :
    let b : Build := ⟨true, true, true, true, true, "/usr/share/aws-ofi-nccl/xml"⟩
    let p : Params := ⟨0, 0, -1, none, -1⟩
    let rt : Runtime := ⟨1, 18, some (0, 21805), true, false⟩
    let w : World := ⟨some ⟨"p4d.24xlarge\n".toList, false⟩, true, fun _ => true, fun _ => true⟩
    let unordered : Endpoint := ⟨(0, true, false), fun _ => -FI_EOPNOTSUPP⟩
    let run := runAll (pluginCalls b p rt w [⟨"efa", some unordered, .supported, w⟩])
      (Process.initial (fun _ => none) none 0 (-1) "SENDRECV" (-1))
    run.1 = [0, 0] ∧ run.2.1.env "NCCL_PROTO" = some "simple" ∧
      (platformInit b p rt ⟨none, false, fun _ => false, fun _ => false⟩).run run.2.1 =
        .ok (0, run.2.1) :=
  ⟨rfl, rfl, pluginCalls_reinit_idempotent _ _ _ _ _ _ _ (cacheInv_initial _ _ _ _ _ _) rfl⟩

end AwsPlatform
