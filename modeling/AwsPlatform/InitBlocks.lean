import AwsPlatform.Init
import AwsPlatform.Checks

/-! The CUDA block and the topology block of `platform_init`: what each changes, what it returns,
and what it leaves set when it returns 0. -/
namespace AwsPlatform

/-- A step that changes no environment variable outside `names`. -/
def SetsWithin (names : List String) (s s' : Process) : Prop :=
  ∀ n, n ∉ names → s'.env n = s.env n

instance (names : List String) : IsPreorder Process (SetsWithin names) where
  refl _ _ _ := rfl
  trans _ _ _ first second n other := (second n other).trans (first n other)

/-- What a block of `platform_init` may change: the identity cache, which keeps what it held, the
environment, where it only fills in unset variables of `names`, and the log, with no in-order
option set. -/
structure InitBlock (names : List String) (s s' : Process) : Prop where
  frame : s' = { s with typeInit := s'.typeInit, platformType := s'.platformType, env := s'.env,
                        calls := s'.calls }
  identity : KeepsIdentity s s'
  fills : ∀ n, s'.env n = s.env n ∨ n ∈ names ∧ s.env n = none
  cache : CacheInv s → CacheInv s'
  setopts : s'.inorderSetopts = s.inorderSetopts

theorem InitBlock.trans {names : List String} {s₁ s₂ s₃ : Process} (first : InitBlock names s₁ s₂)
    (second : InitBlock names s₂ s₃) : InitBlock names s₁ s₃ where
  frame := by rw [second.frame, first.frame]
  identity := IsTrans.trans _ _ _ first.identity second.identity
  fills n := by
    rcases first.fills n with same₁ | ⟨mem, unset₁⟩
    · rcases second.fills n with same₂ | ⟨mem₂, unset₂⟩
      · exact .inl (same₂.trans same₁)
      · exact .inr ⟨mem₂, same₁ ▸ unset₂⟩
    · rcases second.fills n with same₂ | ⟨-, -⟩ <;> exact .inr ⟨mem, unset₁⟩
  cache := second.cache ∘ first.cache
  setopts := second.setopts.trans first.setopts

instance (names : List String) : IsPreorder Process (InitBlock names) where
  refl s := ⟨rfl, IsRefl.refl s, fun _ => .inl rfl, id, rfl⟩
  trans _ _ _ := InitBlock.trans

theorem InitBlock.mono {names names' : List String} (sub : ∀ n ∈ names, n ∈ names')
    {s s' : Process} (block : InitBlock names s s') : InitBlock names' s s' :=
  { block with fills := fun n => (block.fills n).imp_right fun ⟨mem, unset⟩ => ⟨sub n mem, unset⟩ }

theorem InitBlock.setsWithin {names : List String} {s s' : Process} (block : InitBlock names s s') :
    SetsWithin names s s' :=
  fun n other => (block.fills n).resolve_right fun ⟨mem, _⟩ => other mem

theorem InitBlock.other {name n : String} {s s' : Process} (block : InitBlock [name] s s')
    (other : n ≠ name) : s'.env n = s.env n :=
  block.setsWithin n (by simpa using other)

theorem InitBlock.keepsCaches {names : List String} {s s' : Process}
    (block : InitBlock names s s') : KeepsCaches s s' :=
  ⟨block.identity, fun cached => by rw [block.frame]; exact ⟨cached, rfl⟩⟩

/-- The codes a block of `platform_init` returns: 0; `-ENOMEM`, from a failing `setenv` or a
topology path that does not fit `PATH_MAX`; `-ENOTSUP`, where `ncclGetVersion` reported an error. -/
def BlockCode (rt : Runtime) (ret : Int) : Prop :=
  ret = 0 ∨ ret = -ENOMEM ∨
    ret = -ENOTSUP ∧ ∃ code version, rt.ncclGetVersion = some (code, version) ∧ code ≠ 0

theorem BlockCode.of_setenv {rt : Runtime} {ret : Int} (code : ret = 0 ∨ ret = -ENOMEM) :
    BlockCode rt ret :=
  code.imp_right .inl

/-! ## The steps -/

/-- A `setenv` that overwrites only an unset variable fills in `name` at most. It returns 0,
leaving `name` set, or `-ENOMEM`. -/
theorem setEnv_spec {w : World} {name value : String} {overwrite : Bool} {s s' : Process}
    {ret : Int} (guard : overwrite = true → s.env name = none)
    (done : (setEnv w name value overwrite).run s = .ok (ret, s')) :
    InitBlock [name] s s' ∧ (ret = 0 ∨ ret = -ENOMEM) ∧
      (ret = 0 → s'.env name = some ((s.env name).getD value)) := by
  rw [setEnv_run] at done
  cases stored : setenv s.env (w.setenvOk name) name value overwrite with
  | none =>
    simp only [stored] at done
    cases done
    exact ⟨IsRefl.refl s, .inr rfl, fun zero => by simp [ENOMEM] at zero⟩
  | some env =>
    simp only [stored] at done
    cases done
    have named : env name = some ((s.env name).getD value) ∧
        (s.env name = none ∨ env name = s.env name) := by
      unfold setenv at stored
      split_ifs at stored with kept <;> cases stored
      · obtain ⟨v, set⟩ := Option.isSome_iff_exists.mp (Bool.and_eq_true_iff.mp kept).1
        simp [set]
      · cases unset : s.env name with
        | none => simp
        | some v =>
          cases overwrite with
          | false => simp [unset] at kept
          | true => simp [unset] at guard
    refine ⟨⟨rfl, fun cached => ⟨cached, rfl⟩, fun n => ?_, fun inv => ⟨inv.1, inv.2, inv.3, inv.4⟩,
      rfl⟩, .inl rfl, fun _ => named.1⟩
    by_cases other : n = name
    · subst other
      exact named.2.symm.imp id fun unset => ⟨List.mem_singleton_self _, unset⟩
    · exact .inl (setenv_other stored other)

theorem setEnvIfUnset_spec {w : World} {name value : String} {s s' : Process} {ret : Int}
    (done : (setEnvIfUnset w name value).run s = .ok (ret, s')) :
    InitBlock [name] s s' ∧ (ret = 0 ∨ ret = -ENOMEM) ∧
      (ret = 0 → s'.env name = some ((s.env name).getD value)) := by
  cases set : s.env name with
  | some v =>
    simp [setEnvIfUnset, set] at done
    obtain ⟨rfl, rfl⟩ := done
    exact ⟨IsRefl.refl s, .inl rfl, fun _ => by simp [set]⟩
  | none =>
    simp [setEnvIfUnset, set] at done
    simpa [set] using setEnv_spec (fun _ => set) done

/-- `configure_nvls_option` fills in `NCCL_NVLS_ENABLE` at most, and returns only where the
logger leaves its `%lu` messages unformatted. When it returns 0, `NCCL_NVLS_ENABLE` holds `0` or
the user's value under an NCCL older than 2.18.5, and otherwise stays unset only for a newer NCCL,
reported with no `TRACE` message formatted. -/
theorem configureNvlsOption_spec {w : World} {rt : Runtime} {s s' : Process} {ret : Int}
    (done : (configureNvlsOption w rt).run s = .ok (ret, s')) :
    InitBlock ["NCCL_NVLS_ENABLE"] s s' ∧ BlockCode rt ret ∧
      (ret = 0 → (∀ version, rt.ncclGetVersion = some (0, version) → version < 21805 →
          s'.env "NCCL_NVLS_ENABLE" = some ((s.env "NCCL_NVLS_ENABLE").getD "0")) ∧
        ((s'.env "NCCL_NVLS_ENABLE").isSome ∨ ∀ code version,
          rt.ncclGetVersion = some (code, version) →
            code = 0 ∧ 21805 ≤ version ∧ rt.traceLogged = false)) := by
  cases set : s.env "NCCL_NVLS_ENABLE" with
  | some v =>
    simp [configureNvlsOption, set] at done
    obtain ⟨rfl, rfl⟩ := done
    exact ⟨IsRefl.refl s, .inl rfl, fun _ => ⟨fun _ _ _ => by simp [set], .inl (by simp [set])⟩⟩
  | none =>
    cases found : rt.ncclGetVersion with
    | none =>
      simp [configureNvlsOption, set, found] at done
      obtain ⟨rfl, rfl⟩ := done
      exact ⟨IsRefl.refl s, .inl rfl,
        fun _ => ⟨fun _ no => (by cases no), .inr fun _ _ no => (by cases no)⟩⟩
    | some answer =>
      obtain ⟨code, version⟩ := answer
      by_cases failed : code = 0
      · subst failed
        cases trace : rt.traceLogged
        · by_cases old : version < 21805
          · cases info : rt.infoLogged
            · simp [configureNvlsOption, set, found, trace, info, old, logVersion] at done
              obtain ⟨block, code, value⟩ := setEnv_spec (fun _ => set) done
              exact ⟨block, .of_setenv code, fun zero =>
                ⟨fun _ _ _ => by rw [value zero, set], .inl (by simp [value zero])⟩⟩
            · simp [configureNvlsOption, set, found, trace, info, old, logVersion,
                run_throw] at done
          · simp [configureNvlsOption, set, found, trace, old, logVersion] at done
            obtain ⟨rfl, rfl⟩ := done
            refine ⟨IsRefl.refl s, .inl rfl, fun _ => ⟨fun _ answered recent => ?_,
              .inr fun _ _ answered => ?_⟩⟩
            · obtain ⟨-, rfl⟩ := Prod.mk.inj (Option.some.inj answered)
              exact absurd recent old
            · obtain ⟨rfl, rfl⟩ := Prod.mk.inj (Option.some.inj answered)
              exact ⟨rfl, by omega, rfl⟩
        · simp [configureNvlsOption, set, found, trace, logVersion, run_throw] at done
      · simp [configureNvlsOption, set, found, failed] at done
        obtain ⟨rfl, rfl⟩ := done
        exact ⟨IsRefl.refl s, .inr (.inr ⟨rfl, code, version, found, failed⟩),
          fun zero => by simp [ENOTSUP] at zero⟩

/-- `NCCL_NET_FORCE_FLUSH=0` fills in the variable at most, and when it returns 0 the variable is
set or the platform needs a flush. -/
theorem configureForceFlush_spec {w : World} {data : Option PlatformEntry} {s s' : Process}
    {ret : Int} (done : (configureForceFlush w data).run s = .ok (ret, s')) :
    InitBlock ["NCCL_NET_FORCE_FLUSH"] s s' ∧ (ret = 0 ∨ ret = -ENOMEM) ∧
      (ret = 0 → (s'.env "NCCL_NET_FORCE_FLUSH").isSome ∨
        (data.any fun e => !(platformDataMap.get e).netFlushRequired) = false) := by
  cases applies : data.any fun e => !(platformDataMap.get e).netFlushRequired
  · simp only [List.get_eq_getElem] at applies
    simp [configureForceFlush, applies] at done
    obtain ⟨rfl, rfl⟩ := done
    exact ⟨IsRefl.refl s, .inl rfl, fun _ => .inr rfl⟩
  · simp only [List.get_eq_getElem] at applies
    cases set : s.env "NCCL_NET_FORCE_FLUSH" with
    | some _ =>
      simp [configureForceFlush, applies, set] at done
      obtain ⟨rfl, rfl⟩ := done
      exact ⟨IsRefl.refl s, .inl rfl, fun _ => .inl (by simp [set])⟩
    | none =>
      simp [configureForceFlush, applies, set] at done
      obtain ⟨block, code, value⟩ := setEnv_spec (by simp) done
      exact ⟨block, code, fun zero => .inl (by simp [value zero])⟩

/-- `ret = step; if (ret != 0) goto exit;`: the step returned its code, which ends the block, or
returned 0 and the rest ran. -/
theorem thenIfOk_cases {step rest : PluginM Int} {s s' : Process} {ret : Int}
    (done : (thenIfOk step rest).run s = .ok (ret, s')) :
    ∃ r s₁, step.run s = .ok (r, s₁) ∧
      (r ≠ 0 ∧ ret = r ∧ s' = s₁ ∨ r = 0 ∧ rest.run s₁ = .ok (ret, s')) := by
  cases first : step.run s with
  | error => simp [thenIfOk, first] at done
  | ok r =>
    obtain ⟨r, s₁⟩ := r
    refine ⟨r, s₁, rfl, ?_⟩
    by_cases zero : r = 0
    · exact .inr ⟨zero, by simpa [thenIfOk, first, zero] using done⟩
    · simp [thenIfOk, first, zero] at done
      obtain ⟨rfl, rfl⟩ := done
      exact .inl ⟨zero, rfl, rfl⟩

theorem thenIfOk_of_zero {step rest : PluginM Int} {s s₁ : Process}
    (first : step.run s = .ok (0, s₁)) : (thenIfOk step rest).run s = rest.run s₁ := by
  simp [thenIfOk, first]

/-! ## The CUDA block -/

/-- The variables the CUDA block of `platform_init` defaults. -/
def cudaVarNames (rt : Runtime) : List String :=
  [forkSafeVarName rt, "NCCL_NVLS_ENABLE", "NCCL_NET_FORCE_FLUSH", "NCCL_NVLSTREE_MAX_CHUNKSIZE",
    "NCCL_NVLS_CHUNKSIZE"]

theorem forkSafeVarName_ne (rt : Runtime) :
    forkSafeVarName rt ≠ "NCCL_NVLS_ENABLE" ∧ forkSafeVarName rt ≠ "NCCL_NET_FORCE_FLUSH" ∧
      forkSafeVarName rt ≠ "NCCL_NVLSTREE_MAX_CHUNKSIZE" ∧
      forkSafeVarName rt ≠ "NCCL_NVLS_CHUNKSIZE" := by
  unfold forkSafeVarName
  split <;> decide

/-- What the CUDA block of `platform_init`, run from `s`, leaves in the environment of `s'`: each
variable it defaults holds the user's value, or the default where the user left it unset. -/
structure CudaDefaultsSet (rt : Runtime) (s s' : Process) : Prop where
  forkSafe : s'.env (forkSafeVarName rt) = some ((s.env (forkSafeVarName rt)).getD "1")
  nvlsEnable : ∀ version, rt.ncclGetVersion = some (0, version) → version < 21805 →
    s'.env "NCCL_NVLS_ENABLE" = some ((s.env "NCCL_NVLS_ENABLE").getD "0")
  nvlstreeChunksize : s'.env "NCCL_NVLSTREE_MAX_CHUNKSIZE" =
    some ((s.env "NCCL_NVLSTREE_MAX_CHUNKSIZE").getD "524288")
  nvlsChunksize : s'.env "NCCL_NVLS_CHUNKSIZE" = some ((s.env "NCCL_NVLS_CHUNKSIZE").getD "524288")

/-- What the CUDA block leaves when it returns 0, for a second run to find: the variables it sets
are set, and `NCCL_NVLS_ENABLE` and `NCCL_NET_FORCE_FLUSH` stay unset only where its own tests
skip them. -/
structure CudaSettled (rt : Runtime) (data : Option PlatformEntry) (env : Env) : Prop where
  forkSafe : (env (forkSafeVarName rt)).isSome
  nvlsEnable : (env "NCCL_NVLS_ENABLE").isSome ∨
    ∀ code version, rt.ncclGetVersion = some (code, version) →
      code = 0 ∧ 21805 ≤ version ∧ rt.traceLogged = false
  forceFlush : (env "NCCL_NET_FORCE_FLUSH").isSome ∨
    (data.any fun e => !(platformDataMap.get e).netFlushRequired) = false
  nvlstreeChunksize : (env "NCCL_NVLSTREE_MAX_CHUNKSIZE").isSome
  nvlsChunksize : (env "NCCL_NVLS_CHUNKSIZE").isSome

/-- The CUDA block fills in its own variables at most, returns a block code, and when it returns 0
leaves each of its variables at the user's value or its default. -/
theorem configureCuda_spec {w : World} {rt : Runtime} {data : Option PlatformEntry}
    {s s' : Process} {ret : Int} (done : (configureCuda w rt data).run s = .ok (ret, s')) :
    InitBlock (cudaVarNames rt) s s' ∧ BlockCode rt ret ∧
      (ret = 0 → CudaDefaultsSet rt s s' ∧ CudaSettled rt data s'.env) := by
  have widen : ∀ {name}, name ∈ cudaVarNames rt → ∀ {s₁ s₂ : Process}, InitBlock [name] s₁ s₂ →
      InitBlock (cudaVarNames rt) s₁ s₂ := fun mem _ _ block =>
    block.mono fun _ named => List.mem_singleton.mp named ▸ mem
  obtain ⟨r₁, s₁, fork, rest⟩ := thenIfOk_cases done
  obtain ⟨step₁, code₁, set₁⟩ := setEnvIfUnset_spec fork
  have upto₁ := widen (by simp [cudaVarNames]) step₁
  rcases rest with ⟨failed, rfl, rfl⟩ | ⟨rfl, rest⟩
  · exact ⟨upto₁, .of_setenv code₁, (absurd · failed)⟩
  obtain ⟨r₂, s₂, nvls, rest⟩ := thenIfOk_cases rest
  obtain ⟨step₂, code₂, set₂⟩ := configureNvlsOption_spec nvls
  have upto₂ := upto₁.trans (widen (by simp [cudaVarNames]) step₂)
  rcases rest with ⟨failed, rfl, rfl⟩ | ⟨rfl, rest⟩
  · exact ⟨upto₂, code₂, (absurd · failed)⟩
  obtain ⟨r₃, s₃, flush, rest⟩ := thenIfOk_cases rest
  obtain ⟨step₃, code₃, set₃⟩ := configureForceFlush_spec flush
  have upto₃ := upto₂.trans (widen (by simp [cudaVarNames]) step₃)
  rcases rest with ⟨failed, rfl, rfl⟩ | ⟨rfl, rest⟩
  · exact ⟨upto₃, .of_setenv code₃, (absurd · failed)⟩
  obtain ⟨r₄, s₄, tree, rest⟩ := thenIfOk_cases rest
  obtain ⟨step₄, code₄, set₄⟩ := setEnv_spec (by simp) tree
  have upto₄ := upto₃.trans (widen (by simp [cudaVarNames]) step₄)
  rcases rest with ⟨failed, rfl, rfl⟩ | ⟨rfl, chunk⟩
  · exact ⟨upto₄, .of_setenv code₄, (absurd · failed)⟩
  obtain ⟨step₅, code₅, set₅⟩ := setEnv_spec (by simp) chunk
  refine ⟨upto₄.trans (widen (by simp [cudaVarNames]) step₅), .of_setenv code₅, fun zero => ?_⟩
  subst zero
  obtain ⟨fork₂, fork₃, fork₄, fork₅⟩ := forkSafeVarName_ne rt
  obtain ⟨nvlsDefault, nvlsSettled⟩ := set₂ rfl
  have nvls' : s'.env "NCCL_NVLS_ENABLE" = s₂.env "NCCL_NVLS_ENABLE" := by
    rw [step₅.other (by decide), step₄.other (by decide), step₃.other (by decide)]
  have flush' : s'.env "NCCL_NET_FORCE_FLUSH" = s₃.env "NCCL_NET_FORCE_FLUSH" := by
    rw [step₅.other (by decide), step₄.other (by decide)]
  have tree' : s'.env "NCCL_NVLSTREE_MAX_CHUNKSIZE" =
      some ((s.env "NCCL_NVLSTREE_MAX_CHUNKSIZE").getD "524288") := by
    rw [step₅.other (by decide), set₄ rfl, step₃.other (by decide), step₂.other (by decide),
      step₁.other (Ne.symm fork₄)]
  have chunk' : s'.env "NCCL_NVLS_CHUNKSIZE" =
      some ((s.env "NCCL_NVLS_CHUNKSIZE").getD "524288") := by
    rw [set₅ rfl, step₄.other (by decide), step₃.other (by decide), step₂.other (by decide),
      step₁.other (Ne.symm fork₅)]
  have fork' : s'.env (forkSafeVarName rt) = some ((s.env (forkSafeVarName rt)).getD "1") := by
    rw [step₅.other fork₅, step₄.other fork₄, step₃.other fork₃, step₂.other fork₂, set₁ rfl]
  refine ⟨⟨fork', fun version found old => ?_, tree', chunk'⟩,
    ⟨by simp [fork'], by rw [nvls']; exact nvlsSettled, by rw [flush']; exact set₃ rfl,
      by simp [tree'], by simp [chunk']⟩⟩
  rw [nvls', nvlsDefault version found old, step₁.other (Ne.symm fork₂)]

/-! ## The topology block -/

/-- What the topology block leaves when it returns 0, for a second run to find: `NCCL_TOPO_FILE`
set, with the identity cached and present wherever NCCL's logger reads it, or `NCCL_TOPO_FILE`
unset and no topology file in the entry. -/
def TopologySettled (rt : Runtime) (data : Option PlatformEntry) (s : Process) : Prop :=
  (s.env "NCCL_TOPO_FILE").isSome ∧ s.typeInit = true ∧
      (rt.infoLogged = true → s.platformType.isSome) ∨
    s.env "NCCL_TOPO_FILE" = none ∧ (data.bind fun e => (platformDataMap.get e).topology) = none

/-- Printing the identity with `%s` caches it, and returns only where the logger does not read a
NULL identity. -/
theorem logPlatformType_spec {w : World} {rt : Runtime} {s s' : Process}
    (done : (logPlatformType w rt).run s = .ok ((), s')) :
    InitBlock [] s s' ∧ s'.typeInit = true ∧ (rt.infoLogged = true → s'.platformType.isSome) := by
  cases found : (getPlatformType w).run s with
  | error => simp [logPlatformType, found] at done
  | ok r =>
    obtain ⟨type, s₁⟩ := r
    have cache := fun inv : CacheInv s => inv.getPlatformType found
    have identity := (getPlatformType_keepsCaches found).1
    by_cases fault : rt.infoLogged = true ∧ type = none
    · simp [logPlatformType, found, fault, run_throw] at done
    have present : rt.infoLogged = true → type.isSome := fun logs => by
      cases type
      · exact absurd ⟨logs, rfl⟩ fault
      · rfl
    have same : s' = s₁ := by
      by_cases logs : rt.infoLogged <;> simp_all [logPlatformType, pure_eq_ok]
    obtain ⟨-, rfl⟩ := getPlatformType_ok found
    subst same
    refine ⟨⟨rfl, identity, fun _ => .inl rfl, cache, ?_⟩, rfl, present⟩
    split <;> simp [Process.inorderSetopts, ExtCall.setsInorder]

/-- The topology block fills in `NCCL_TOPO_FILE` at most and returns 0 or `-ENOMEM`. When it
returns 0 it has settled, and where the variable was unset and the entry names a topology file,
it points the variable at that file under `XML_DIR`. -/
theorem configureTopology_spec {b : Build} {w : World} {rt : Runtime} {data : Option PlatformEntry}
    {s s' : Process} {ret : Int} (done : (configureTopology b w rt data).run s = .ok (ret, s')) :
    InitBlock ["NCCL_TOPO_FILE"] s s' ∧ (ret = 0 ∨ ret = -ENOMEM) ∧
      (ret = 0 → TopologySettled rt data s' ∧ (s.env "NCCL_TOPO_FILE" = none → ∀ topology,
        data.bind (fun e => (platformDataMap.get e).topology) = some topology →
        s'.env "NCCL_TOPO_FILE" = some (b.xmlDir ++ "/" ++ topology))) := by
  cases set : s.env "NCCL_TOPO_FILE" with
  | some _ =>
    -- the user's file stays, and the identity is printed
    cases logged : (logPlatformType w rt).run s with
    | error => simp [configureTopology, set, logged] at done
    | ok r =>
      obtain ⟨⟨⟩, s₁⟩ := r
      obtain ⟨block, init, present⟩ := logPlatformType_spec logged
      simp [configureTopology, set, logged, pure_eq_ok] at done
      obtain ⟨rfl, rfl⟩ := done
      have env₁ := block.setsWithin "NCCL_TOPO_FILE" (List.not_mem_nil _)
      exact ⟨block.mono (by simp), .inl rfl, fun _ => ⟨.inl ⟨by simp [env₁, set], init, present⟩,
        fun unset => (by cases unset)⟩⟩
  | none =>
    cases named : data.bind fun e => (platformDataMap.get e).topology with
    | none =>
      have skipped := named
      simp only [List.get_eq_getElem] at skipped
      simp [configureTopology, set, skipped] at done
      obtain ⟨rfl, rfl⟩ := done
      exact ⟨IsRefl.refl s, .inl rfl, fun _ => ⟨.inr ⟨set, named⟩, fun _ _ no => (by cases no)⟩⟩
    | some topology =>
      have found := named
      simp only [List.get_eq_getElem] at found
      by_cases long : PATH_MAX ≤ (b.xmlDir ++ "/" ++ topology).utf8ByteSize
      · simp [configureTopology, set, found, long] at done
        obtain ⟨rfl, rfl⟩ := done
        exact ⟨IsRefl.refl s, .inr rfl, fun zero => by simp [ENOMEM] at zero⟩
      · cases logged : (logPlatformType w rt).run s with
        | error => simp [configureTopology, set, found, long, logged] at done
        | ok r =>
          obtain ⟨⟨⟩, s₁⟩ := r
          obtain ⟨block₁, init, present⟩ := logPlatformType_spec logged
          simp [configureTopology, set, found, long, logged] at done
          have unset₁ : s₁.env "NCCL_TOPO_FILE" = none :=
            (block₁.setsWithin _ (List.not_mem_nil _)).trans set
          obtain ⟨block₂, code, path⟩ := setEnv_spec (fun _ => unset₁) done
          obtain ⟨init', type'⟩ := block₂.identity init
          refine ⟨(block₁.mono (by simp)).trans block₂, code, fun zero =>
            ⟨.inl ⟨by simp [path zero], init', fun logs => type' ▸ present logs⟩,
              fun _ _ same => ?_⟩⟩
          obtain rfl := Option.some.inj same
          rw [path zero, unset₁]
          rfl

end AwsPlatform
