import AwsPlatform.Settings

/-! What `platform_init` leaves set when it returns 0: the variables of its CUDA block, and
`NCCL_TOPO_FILE` where the user left it unset. -/
namespace AwsPlatform

theorem thenIfOk_zero {step rest : PluginM Int} {s s' : Process}
    (done : (thenIfOk step rest).run s = .ok (0, s')) :
    ∃ s₁, step.run s = .ok (0, s₁) ∧ rest.run s₁ = .ok (0, s') := by
  obtain ⟨r, s₁, first, ⟨failed, rfl, -⟩ | ⟨rfl, second⟩⟩ := thenIfOk_cases done
  · exact absurd rfl failed
  · exact ⟨s₁, first, second⟩

/-- A `platform_init` that returned 0 ran the lookup and the provider selection, then the CUDA
block and the topology block, each returning 0, then the defaults. -/
theorem platformInit_zero {b : Build} {p : Params} {rt : Runtime} {w : World} {s s' : Process}
    (done : (platformInit b p rt w).run s = .ok (0, s')) :
    ∃ data s₁ selectEfa s₂ s₃ s₄, (getPlatformData w).run s = .ok (data, s₁) ∧
      selectProvider.run s₁ = .ok (selectEfa, s₂) ∧
      (if b.haveCuda then configureCuda w rt data else pure 0).run s₂ = .ok (0, s₃) ∧
      (configureTopology b w rt data).run s₃ = .ok (0, s₄) ∧
      (do platformDefaults p data selectEfa; pure 0 : PluginM Int).run s₄ = .ok (0, s') := by
  cases found : (getPlatformData w).run s with
  | error => simp [platformInit, found] at done
  | ok r =>
    obtain ⟨data, s₁⟩ := r
    cases selected : selectProvider.run s₁ with
    | error => simp [platformInit, found, selected] at done
    | ok r =>
      obtain ⟨selectEfa, s₂⟩ := r
      simp only [platformInit, StateT.run_bind, found, selected, ok_bind] at done
      obtain ⟨s₃, cuda, rest⟩ := thenIfOk_zero done
      obtain ⟨s₄, topo, defaults⟩ := thenIfOk_zero rest
      exact ⟨data, s₁, selectEfa, s₂, s₃, s₄, rfl, selected, cuda, topo, defaults⟩

/-- Later steps that keep every set variable keep the defaults. -/
theorem CudaDefaultsSet.keep {p : Params} {rt : Runtime} {s s₁ s' : Process}
    (set : CudaDefaultsSet rt s s₁) (kept : KeepsUserSettings p s₁ s') : CudaDefaultsSet rt s s' :=
  ⟨kept.env _ _ set.forkSafe, fun v found old => kept.env _ _ (set.nvlsEnable v found old),
    kept.env _ _ set.nvlstreeChunksize, kept.env _ _ set.nvlsChunksize⟩

theorem CudaDefaultsSet.start {rt : Runtime} {s s₁ s' : Process} (same : s₁.env = s.env)
    (set : CudaDefaultsSet rt s₁ s') : CudaDefaultsSet rt s s' :=
  ⟨same ▸ set.forkSafe, same ▸ set.nvlsEnable, same ▸ set.nvlstreeChunksize,
    same ▸ set.nvlsChunksize⟩

/-- After `platform_init` returned 0 in a CUDA build, each variable its CUDA block defaults holds
the user's value, or the default where the user left it unset: the fork-safety variable `1`,
both NVLS chunk sizes `524288`, and `NCCL_NVLS_ENABLE` `0` under an NCCL older than 2.18.5. -/
theorem platformInit_sets_cuda_defaults {b : Build} {p : Params} {rt : Runtime} {w : World}
    {s s' : Process} (cuda : b.haveCuda = true)
    (done : (platformInit b p rt w).run s = .ok (0, s')) : CudaDefaultsSet rt s s' := by
  obtain ⟨data, s₁, _, s₂, s₃, s₄, found, selected, configured, topo, defaults⟩ :=
    platformInit_zero done
  rw [if_pos cuda] at configured
  have kept : KeepsUserSettings p s₃ s' := IsTrans.trans _ _ _
    (InitStep.of_initBlock p (configureTopology_spec topo).1).settings
    ((Keeps.bind (platformDefaults_initStep p _ _) fun _ => Keeps.pure _ _)
      s₄ 0 s' defaults).settings
  have same : s₂.env = s.env := by
    rw [selectProvider_env selected, (getPlatformData_beforeMutex w s data s₁ found).frame]
  exact (((configureCuda_spec configured).2.2 rfl).1.keep kept).start same

/-- A host without `product_name`, under libfabric 1.18 and no `ncclGetVersion`: `platform_init`
sets the three variables to their defaults. -/
theorem platformInit_sets_cuda_defaults_unidentified :
    let b : Build := ⟨true, true, true, true, true, "/usr/share/aws-ofi-nccl/xml"⟩
    let rt : Runtime := ⟨1, 18, none, false, false⟩
    let start := Process.initial (fun _ => none) none 0 (-1) "SENDRECV" (-1)
    let final : Process := { start with
      typeInit := true, dataInit := true, providerFilter := some "efa", netLatency := 150,
      domainPerThread := 0, calls := [.fopen productNamePath],
      env := Env.set (Env.set (Env.set (fun _ => none) "FI_EFA_FORK_SAFE" "1")
        "NCCL_NVLSTREE_MAX_CHUNKSIZE" "524288") "NCCL_NVLS_CHUNKSIZE" "524288" }
    b.haveCuda = true ∧
      (platformInit b ⟨0, 0, -1, none, -1⟩ rt unidentifiedWorld).run start = .ok (0, final) ∧
      CudaDefaultsSet rt start final :=
  have ran : (platformInit ⟨true, true, true, true, true, "/usr/share/aws-ofi-nccl/xml"⟩
      ⟨0, 0, -1, none, -1⟩ ⟨1, 18, none, false, false⟩ unidentifiedWorld).run
      (Process.initial (fun _ => none) none 0 (-1) "SENDRECV" (-1)) = .ok (0, _) := rfl
  ⟨rfl, ran, platformInit_sets_cuda_defaults rfl ran⟩

/-! ## The topology file -/

/-- When `NCCL_TOPO_FILE` is unset and the catalog entry found for the host names a topology file,
a `platform_init` that returns 0 has set `NCCL_TOPO_FILE` to that file under `XML_DIR`. -/
theorem platformInit_sets_topology {b : Build} {p : Params} {rt : Runtime} {w : World}
    {s s' : Process} {e : PlatformEntry} {topology : String}
    (unset : s.env "NCCL_TOPO_FILE" = none) (found : (getPlatformData w).run' s = .ok (some e))
    (named : (platformDataMap.get e).topology = some topology)
    (done : (platformInit b p rt w).run s = .ok (0, s')) :
    s'.env "NCCL_TOPO_FILE" = some (b.xmlDir ++ "/" ++ topology) := by
  obtain ⟨data, s₁, _, s₂, s₃, s₄, ran, selected, cuda, topo, defaults⟩ := platformInit_zero done
  obtain rfl : data = some e := by simpa [ran] using found
  have unset₂ : s₂.env "NCCL_TOPO_FILE" = none := by
    rw [selectProvider_env selected, (getPlatformData_beforeMutex w s _ s₁ ran).frame]
    exact unset
  have unset₃ : s₃.env "NCCL_TOPO_FILE" = none := by
    split at cuda
    · have fork : "NCCL_TOPO_FILE" ≠ forkSafeVarName rt := by
        unfold forkSafeVarName; split <;> decide
      rw [(configureCuda_spec cuda).1.setsWithin _ (by simp [cudaVarNames, fork]), unset₂]
    · cases cuda
      exact unset₂
  have set₄ := ((configureTopology_spec topo).2.2 rfl).2 unset₃ topology named
  exact ((Keeps.bind (platformDefaults_initStep p _ _) fun _ => Keeps.pure _ _)
    s₄ 0 s' defaults).settings.env _ _ set₄

/-- A p4d host, in a build without CUDA: `platform_init` points `NCCL_TOPO_FILE` at the p4d
topology. -/
theorem platformInit_sets_topology_p4d :
    let b : Build := ⟨false, true, true, true, true, "/usr/share/aws-ofi-nccl/xml"⟩
    let w : World := ⟨some ⟨"p4d.24xlarge\n".toList, false⟩, true, fun _ => true, fun _ => true⟩
    let start := Process.initial (fun _ => none) none 0 (-1) "SENDRECV" (-1)
    let final : Process := { start with
      typeInit := true, platformType := some "p4d.24xlarge", dataInit := true,
      platformData := some ⟨0, by decide⟩, providerFilter := some "efa", netLatency := 75,
      domainPerThread := 0,
      calls := [.fopen productNamePath],
      env := Env.set (fun _ => none) "NCCL_TOPO_FILE" ("/usr/share/aws-ofi-nccl/xml" ++ "/" ++
        "p4d-24xl-topo.xml") }
    start.env "NCCL_TOPO_FILE" = none ∧ (getPlatformData w).run' start = .ok (some ⟨0, by decide⟩) ∧
      (platformDataMap.get ⟨0, by decide⟩).topology = some "p4d-24xl-topo.xml" ∧
      (platformInit b ⟨0, 0, -1, none, -1⟩ ⟨1, 18, none, false, false⟩ w).run start =
        .ok (0, final) ∧
      final.env "NCCL_TOPO_FILE" = some (b.xmlDir ++ "/" ++ "p4d-24xl-topo.xml") :=
  have found : (getPlatformData ⟨some ⟨"p4d.24xlarge\n".toList, false⟩, true, fun _ => true,
      fun _ => true⟩).run' (Process.initial (fun _ => none) none 0 (-1) "SENDRECV" (-1)) =
      .ok (some ⟨0, by decide⟩) := rfl
  have named : (platformDataMap.get ⟨0, by decide⟩).topology = some "p4d-24xl-topo.xml" := rfl
  have ran : (platformInit ⟨false, true, true, true, true, "/usr/share/aws-ofi-nccl/xml"⟩
      ⟨0, 0, -1, none, -1⟩ ⟨1, 18, none, false, false⟩
      ⟨some ⟨"p4d.24xlarge\n".toList, false⟩, true, fun _ => true, fun _ => true⟩).run
      (Process.initial (fun _ => none) none 0 (-1) "SENDRECV" (-1)) = .ok (0, _) := rfl
  ⟨rfl, found, named, ran, platformInit_sets_topology rfl found named ran⟩

/-! ## The selected protocol -/

/-- A protocol `platform_config_endpoint` knows: SENDRECV or RDMA, in any case. -/
def knownProtocol (protocol : String) : Bool :=
  strcaseEq "SENDRECV" protocol || strcaseEq "RDMA" protocol

/-- `platform_config_endpoint` takes its unknown-transport exit exactly for the protocols it does
not know. -/
theorem inorderOptname_isSome (b : Build) (protocol : String) :
    (inorderOptname b protocol).isSome = knownProtocol protocol := by
  unfold inorderOptname knownProtocol
  split_ifs <;> simp_all

/-- Every platform's default protocol is one the endpoint code knows. -/
theorem defaultProtocol_known :
    ∀ e : PlatformEntry, knownProtocol (platformDataMap.get e).defaultProtocol := by
  decide

/-- The defaults keep the protocol or select the platform's, which is known. -/
theorem platformDefaults_known (p : Params) (data : Option PlatformEntry) (selectEfa : Bool) :
    Keeps (Preserves fun s => knownProtocol s.ncclOfiSelectedProtocol)
      (platformDefaults p data selectEfa) :=
  Keeps.modify fun _ known => by
    cases data with
    | none => exact known
    | some e =>
      dsimp only
      split
      · exact defaultProtocol_known e
      · exact known

end AwsPlatform
