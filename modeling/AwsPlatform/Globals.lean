import AwsPlatform.Defaults

/-! The plugin globals a successful `platform_init` sets, from the catalog entry of the identity
it reads, and the protocol it leaves, which stays one the endpoint code knows over every run. -/
namespace AwsPlatform

/-- What the steps of `platform_init` before its defaults change: the two caches, never a cached
identity, the environment, the provider filter and the log, with no in-order option set. The
negotiation statics and the plugin globals stay. -/
structure InitPrefix (s s' : Process) : Prop where
  frame : s' = { s with typeInit := s'.typeInit, platformType := s'.platformType,
                        dataInit := s'.dataInit, platformData := s'.platformData, env := s'.env,
                        providerFilter := s'.providerFilter, calls := s'.calls }
  identity : KeepsIdentity s s'
  setopts : s'.inorderSetopts = s.inorderSetopts

instance : IsPreorder Process InitPrefix where
  refl s := ⟨rfl, IsRefl.refl s, rfl⟩
  trans _ _ _ first second := ⟨by rw [second.frame, first.frame],
    IsTrans.trans _ _ _ first.identity second.identity, second.setopts.trans first.setopts⟩

theorem InitPrefix.globals {s s' : Process} (pre : InitPrefix s s') :
    s'.nicDupConns = s.nicDupConns ∧ s'.netLatency = s.netLatency ∧
      s'.ncclOfiSelectedProtocol = s.ncclOfiSelectedProtocol ∧
      s'.domainPerThread = s.domainPerThread ∧ s'.needOrdering = s.needOrdering := by
  rw [pre.frame]; exact ⟨rfl, rfl, rfl, rfl, rfl⟩

theorem InitPrefix.of_beforeMutex {s s' : Process} (before : Process.BeforeMutex s s') :
    InitPrefix s s' :=
  ⟨by rw [before.frame], before.caches.1, before.setopts⟩

theorem InitPrefix.of_initBlock {names : List String} {s s' : Process}
    (block : InitBlock names s s') : InitPrefix s s' :=
  ⟨by rw [block.frame], block.identity, block.setopts⟩

theorem selectProvider_initPrefix : Keeps InitPrefix selectProvider := by
  refine Keeps.getThen fun s selectEfa s' done => ?_
  cases provider : s.env "FI_PROVIDER" <;> simp only [selectProvider, provider] at done
  · cases done; exact ⟨rfl, fun cached => ⟨cached, rfl⟩, rfl⟩
  · exact Keeps.pure _ _ s selectEfa s' done

theorem getPlatformData_initPrefix (w : World) : Keeps InitPrefix (getPlatformData w) :=
  fun _ _ _ done => .of_beforeMutex (getPlatformData_beforeMutex w _ _ _ done)

theorem configureCuda_initPrefix (w : World) (rt : Runtime) (data : Option PlatformEntry) :
    Keeps InitPrefix (configureCuda w rt data) :=
  fun _ _ _ done => .of_initBlock (configureCuda_spec done).1

theorem configureTopology_initPrefix (b : Build) (w : World) (rt : Runtime)
    (data : Option PlatformEntry) : Keeps InitPrefix (configureTopology b w rt data) :=
  fun _ _ _ done => .of_initBlock (configureTopology_spec done).1

/-- `select_efa` is whether `FI_PROVIDER` is unset or names EFA. -/
theorem selectProvider_ok {s s' : Process} {selectEfa : Bool}
    (done : selectProvider.run s = .ok (selectEfa, s')) :
    selectEfa = (s.env "FI_PROVIDER").all fun provider => strEq provider "efa" := by
  cases provider : s.env "FI_PROVIDER" <;> simp [selectProvider, provider] at done <;>
    cases done <;> simp [provider]

/-- From a process that has not read its identity yet, `get_platform_data` answers the catalog
entry of the identity it reads, and caches that identity. -/
theorem getPlatformData_fresh {w : World} {s s' : Process} {data : Option PlatformEntry}
    {type : Option String} (inv : CacheInv s) (fresh : s.typeInit = false)
    (read : readPlatformType w = .ok type) (done : (getPlatformData w).run s = .ok (data, s')) :
    data = type.bind lastMatch ∧ s'.typeInit = true ∧ s'.platformType = type := by
  have unread : s.dataInit = false := by
    cases d : s.dataInit
    · rfl
    · simpa [fresh] using inv.data_init d
  rw [getPlatformData_run, getPlatformType_run] at done
  cases type <;>
    simp [unread, fresh, read, Except.map, inv.data_unset unread, scanPlatformData_none] at done <;>
    obtain ⟨rfl, rfl⟩ := done <;> simp

/-- A `platform_init` that returned 0 from a process that had not read its identity cached the
identity it read, and ran its defaults from that identity's entry and the provider selection,
after steps that changed only what `InitPrefix` allows. -/
theorem platformInit_fresh {b : Build} {p : Params} {rt : Runtime} {w : World} {s s' : Process}
    {type : Option String} (inv : CacheInv s) (fresh : s.typeInit = false)
    (read : readPlatformType w = .ok type) (done : (platformInit b p rt w).run s = .ok (0, s')) :
    ∃ s₄, InitPrefix s s₄ ∧ s₄.typeInit = true ∧ s₄.platformType = type ∧
      (platformDefaults p (type.bind lastMatch)
        ((s.env "FI_PROVIDER").all fun provider => strEq provider "efa") >>= fun _ => pure 0 :
        PluginM Int).run s₄ = .ok (0, s') := by
  obtain ⟨data, s₁, selectEfa, s₂, s₃, s₄, found, selected, cuda, topo, defaults⟩ :=
    platformInit_zero done
  obtain ⟨rfl, init₁, type₁⟩ := getPlatformData_fresh inv fresh read found
  have pre₁ := getPlatformData_initPrefix w s _ s₁ found
  have pre₄ : InitPrefix s₁ s₄ :=
    IsTrans.trans _ _ _ (selectProvider_initPrefix s₁ _ s₂ selected) <|
    IsTrans.trans _ _ _
      (Keeps.ite (configureCuda_initPrefix w rt _) (Keeps.pure _ _) s₂ 0 s₃ cuda)
      (configureTopology_initPrefix b w rt _ s₃ 0 s₄ topo)
  obtain ⟨init₄, type₄⟩ := pre₄.identity init₁
  have efa : selectEfa = (s.env "FI_PROVIDER").all fun provider => strEq provider "efa" := by
    rw [selectProvider_ok selected, (getPlatformData_beforeMutex w s _ s₁ found).frame]
  exact ⟨s₄, IsTrans.trans _ _ _ pre₁ pre₄, init₄, type₄.trans type₁, efa ▸ defaults⟩

/-! ## The selected protocol -/

/-- The protocol the plugin runs with stays one `platform_config_endpoint` knows: `platform_init`
keeps it or selects the platform's default, every default is SENDRECV or RDMA, and endpoint calls
never change it. So from a known protocol, no endpoint call of any run takes the unknown-transport
exit. -/
theorem pluginCalls_keep_protocol_known (b : Build) (p : Params) (rt : Runtime) (w : World)
    (calls : List EndpointCall) (s : Process) (known : knownProtocol s.ncclOfiSelectedProtocol) :
    (inorderOptname b
      (runAll (pluginCalls b p rt w calls) s).2.1.ncclOfiSelectedProtocol).isSome := by
  have same : ∀ {s s' : Process}, s'.ncclOfiSelectedProtocol = s.ncclOfiSelectedProtocol →
      Preserves (fun s => knownProtocol s.ncclOfiSelectedProtocol) s s' :=
    fun same known => (congrArg knownProtocol same).trans known
  rw [inorderOptname_isSome]
  refine runAll_invariant (fun s => knownProtocol s.ncclOfiSelectedProtocol) (fun op mem => ?_) s
    known
  rcases List.mem_cons.mp mem with rfl | endpoint
  · have pre := fun {α : Type} {m : PluginM α} (keeps : Keeps InitPrefix m) =>
      Keeps.mono (fun _ _ pre => same pre.globals.2.2.1) keeps
    exact Keeps.bind (pre (getPlatformData_initPrefix w)) fun _ =>
      Keeps.bind (pre selectProvider_initPrefix) fun _ =>
      Keeps.thenIfOk (Keeps.ite (pre (configureCuda_initPrefix _ _ _)) (Keeps.pure _ _)) <|
      Keeps.thenIfOk (pre (configureTopology_initPrefix _ _ _ _)) <|
      Keeps.bind (platformDefaults_known _ _ _) fun _ => Keeps.pure _ _
  · obtain ⟨call, -, rfl⟩ := List.mem_map.mp endpoint
    exact Keeps.mono (fun _ _ (step : EndpointStep _ _) =>
      same (congrArg Process.ncclOfiSelectedProtocol step.frame :))
      (platformConfigEndpoint_step b p call)

/-- On a p5 host with no protocol chosen by the user, `platform_init` switches SENDRECV to the
platform's RDMA, which the endpoint call that follows knows. -/
theorem pluginCalls_keep_protocol_known_p5 :
    let b : Build := ⟨true, true, true, true, true, "/usr/share/aws-ofi-nccl/xml"⟩
    let p : Params := ⟨0, 0, -1, none, -1⟩
    let rt : Runtime := ⟨1, 18, none, false, false⟩
    let w : World := ⟨some ⟨"p5.48xlarge\n".toList, false⟩, true, fun _ => true, fun _ => true⟩
    let start := Process.initial (fun _ => none) none 0 (-1) "SENDRECV" (-1)
    let calls : List EndpointCall := [⟨"efa", some orderedEndpoint, .supported, w⟩]
    knownProtocol start.ncclOfiSelectedProtocol ∧
      (runAll (pluginCalls b p rt w calls) start).2.1.ncclOfiSelectedProtocol = "RDMA" ∧
      (inorderOptname b
        (runAll (pluginCalls b p rt w calls) start).2.1.ncclOfiSelectedProtocol).isSome :=
  ⟨rfl, rfl, pluginCalls_keep_protocol_known _ _ _ _ _ _ rfl⟩

/-! ## The globals a successful `platform_init` sets -/

/-- No catalog row gives a negative latency, so `platform_init` takes the entry's latency wherever
there is an entry, also where the row leaves it out as 0. -/
theorem latency_nonneg : ∀ e : PlatformEntry, 0 ≤ (platformDataMap.get e).latency := by
  decide

/-- A `platform_init` that returned 0 from a process that had not read its identity sets the
plugin globals from the catalog entry of the identity it read: `nic_dup_conns`, where it was 0,
the entry's default; `net_latency`, unless the user set it, the entry's latency, or 150 us on a
host the catalog does not list (the g5 and trn1 rows leave it out, so they get 0); the protocol,
when `FI_PROVIDER` allows EFA and the user chose none, the entry's default; `domain_per_thread`,
unless the user set it, the entry's value, or 0. -/
theorem platformInit_globals_from_identity {b : Build} {p : Params} {rt : Runtime} {w : World}
    {s s' : Process} {type : Option String} (inv : CacheInv s) (fresh : s.typeInit = false)
    (read : readPlatformType w = .ok type) (done : (platformInit b p rt w).run s = .ok (0, s')) :
    s'.nicDupConns = (if s.nicDupConns = 0 then
        (type.bind lastMatch).elim 0 fun e => (platformDataMap.get e).defaultDupConns
      else s.nicDupConns) ∧
    s'.netLatency = (if p.netLatency < 0 then
        (type.bind lastMatch).elim 150 fun e => (platformDataMap.get e).latency
      else s.netLatency) ∧
    s'.ncclOfiSelectedProtocol =
      (if ((s.env "FI_PROVIDER").all fun provider => strEq provider "efa") && p.protocol.isNone
        then (type.bind lastMatch).elim s.ncclOfiSelectedProtocol
          fun e => (platformDataMap.get e).defaultProtocol
        else s.ncclOfiSelectedProtocol) ∧
    s'.domainPerThread = (if p.domainPerThread = -1 then
        (type.bind lastMatch).elim 0 fun e => (platformDataMap.get e).domainPerThread
      else p.domainPerThread) := by
  obtain ⟨s₄, pre, -, -, defaults⟩ := platformInit_fresh inv fresh read done
  obtain ⟨nic, latency, protocol, -, -⟩ := pre.globals
  simp only [platformDefaults, StateT.run_bind, StateT.run_modify, ok_bind] at defaults
  cases defaults
  cases type.bind lastMatch with
  | none => by_cases zero : s.nicDupConns = 0 <;> simp [nic, latency, protocol, zero]
  | some e =>
    have nonneg := latency_nonneg e
    simp only [List.get_eq_getElem] at nonneg
    simp [nic, latency, protocol, nonneg]

/-- A g5 host whose user set nothing: `platform_init` takes the latency the g5 row leaves out,
0, and one domain per process. -/
theorem platformInit_globals_from_identity_g5 :
    let w : World := ⟨some ⟨"g5.48xlarge\n".toList, false⟩, true, fun _ => true, fun _ => true⟩
    let start := Process.initial (fun _ => none) none 0 (-1) "SENDRECV" (-1)
    ∃ s', (platformInit ⟨false, true, true, true, true, "/usr/share/aws-ofi-nccl/xml"⟩
        ⟨0, 0, -1, none, -1⟩ ⟨1, 18, none, false, false⟩ w).run start = .ok (0, s') ∧
      s'.nicDupConns = 0 ∧ s'.netLatency = 0 ∧ s'.ncclOfiSelectedProtocol = "SENDRECV" ∧
      s'.domainPerThread = 0 := by
  intro w start
  obtain ⟨s', done⟩ : ∃ s', (platformInit ⟨false, true, true, true, true,
      "/usr/share/aws-ofi-nccl/xml"⟩ ⟨0, 0, -1, none, -1⟩ ⟨1, 18, none, false, false⟩ w).run start =
      .ok (0, s') := ⟨_, rfl⟩
  have read : readPlatformType w = .ok (some "g5.48xlarge") := rfl
  exact ⟨s', done, platformInit_globals_from_identity (cacheInv_initial _ _ _ _ _ _) rfl read done⟩

end AwsPlatform
