import AwsPlatform.Endpoint

/-! `platform_init` and its blocks. A message reads its arguments only where NCCL's logger
formats it. -/
namespace AwsPlatform

/-- What the process around the plugin provides to `platform_init`. -/
structure Runtime where
  /-- `FI_MAJOR` and `FI_MINOR` of `fi_version()`. -/
  fiMajor : Nat
  fiMinor : Nat
  /-- `ncclGetVersion` when `dlsym` finds it: its `ncclResult_t` and the version it reports. -/
  ncclGetVersion : Option (Int × Int)
  /-- Whether NCCL's logger formats `INFO` messages, reading their arguments. -/
  infoLogged : Bool
  /-- Whether the build's `TRACE` messages are compiled in and NCCL's logger formats them. -/
  traceLogged : Bool

/-- `ret = step; if (ret != 0) goto exit;`, then the rest of the function. -/
def thenIfOk (step rest : PluginM Int) : PluginM Int := do
  let ret ← step
  if ret ≠ 0 then pure ret else rest

theorem Keeps.thenIfOk {R : Process → Process → Prop} [IsPreorder Process R]
    {step rest : PluginM Int} (first : Keeps R step) (second : Keeps R rest) :
    Keeps R (thenIfOk step rest) :=
  Keeps.bind first fun _ => Keeps.ite (Keeps.pure _ _) second

/-- `if (!getenv(name)) ret = setenv(name, value, 1);` -/
def setEnvIfUnset (w : World) (name value : String) : PluginM Int := do
  if ((← get).env name).isSome then pure 0 else setEnv w name value true

/-- A message that prints the `int` NCCL version with `%lu`, which reads an argument of another
type wherever the logger formats the message. -/
def logVersion (formatted : Bool) : PluginM Unit :=
  if formatted then throw .formatMismatch else pure ()

/-- `configure_nvls_option`: NVLS off for NCCL before 2.18.5, unless the user chose. -/
def configureNvlsOption (w : World) (rt : Runtime) : PluginM Int := do
  if ((← get).env "NCCL_NVLS_ENABLE").isSome then pure 0
  else
    match rt.ncclGetVersion with
    | none => pure 0
    | some (ncclRet, version) =>
      if ncclRet ≠ 0 then pure (-ENOTSUP)
      else do
        logVersion rt.traceLogged
        if version < 21805 then do
          logVersion rt.infoLogged
          setEnv w "NCCL_NVLS_ENABLE" "0" true
        else do
          logVersion rt.traceLogged
          pure 0

/-- `fork_safe_var_name`: libfabric 1.13 and later read `FI_EFA_FORK_SAFE`. -/
def forkSafeVarName (rt : Runtime) : String :=
  if rt.fiMajor > 1 ∨ (rt.fiMajor = 1 ∧ rt.fiMinor ≥ 13) then "FI_EFA_FORK_SAFE"
  else "RDMAV_FORK_SAFE"

/-- `NCCL_NET_FORCE_FLUSH=0` on a platform that needs no network flush. -/
def configureForceFlush (w : World) (data : Option PlatformEntry) : PluginM Int := do
  if (data.any fun e => !(platformDataMap.get e).netFlushRequired) &&
      ((← get).env "NCCL_NET_FORCE_FLUSH").isNone then
    setEnv w "NCCL_NET_FORCE_FLUSH" "0" false
  else pure 0

/-- The `HAVE_CUDA` block of `platform_init`. -/
def configureCuda (w : World) (rt : Runtime) (data : Option PlatformEntry) : PluginM Int :=
  thenIfOk (setEnvIfUnset w (forkSafeVarName rt) "1") <|
  thenIfOk (configureNvlsOption w rt) <|
  thenIfOk (configureForceFlush w data) <|
  thenIfOk (setEnv w "NCCL_NVLSTREE_MAX_CHUNKSIZE" "524288" false) <|
  setEnv w "NCCL_NVLS_CHUNKSIZE" "524288" false

/-- `PATH_MAX`, the size of `topology_path`. -/
def PATH_MAX : Nat := 4096

/-- `get_platform_type()` as the argument of a `%s` in an `INFO` message. -/
def logPlatformType (w : World) (rt : Runtime) : PluginM Unit := do
  let type ← getPlatformType w
  if rt.infoLogged && type.isNone then throw .nullString

/-- The `NCCL_TOPO_FILE` block of `platform_init`: 0 to go on, or the code it exits with. -/
def configureTopology (b : Build) (w : World) (rt : Runtime) (data : Option PlatformEntry) :
    PluginM Int := do
  if ((← get).env "NCCL_TOPO_FILE").isSome then
    logPlatformType w rt
    pure 0
  else
    match data.bind fun e => (platformDataMap.get e).topology with
    | none => pure 0
    | some topology =>
      let path := b.xmlDir ++ "/" ++ topology
      if PATH_MAX ≤ path.utf8ByteSize then pure (-ENOMEM)
      else do
        logPlatformType w rt
        setEnv w "NCCL_TOPO_FILE" path true

/-- Forces the EFA provider unless `FI_PROVIDER` is set: `select_efa`. -/
def selectProvider : PluginM Bool := do
  let s ← get
  match s.env "FI_PROVIDER" with
  | none => set { s with providerFilter := some "efa" }; pure true
  | some provider => pure (strEq provider "efa")

/-- The globals `platform_init` sets last, from the platform entry and the parameters. -/
def platformDefaults (p : Params) (data : Option PlatformEntry) (selectEfa : Bool) :
    PluginM Unit :=
  modify fun s => { s with
    nicDupConns := match data with
      | some e => if s.nicDupConns = 0 then (platformDataMap.get e).defaultDupConns
        else s.nicDupConns
      | none => s.nicDupConns
    netLatency := if p.netLatency < 0 then
        match data with
        | some e => if 0 ≤ (platformDataMap.get e).latency then (platformDataMap.get e).latency
          else 150
        | none => 150
      else s.netLatency
    ncclOfiSelectedProtocol := match data with
      | some e => if selectEfa && p.protocol.isNone then (platformDataMap.get e).defaultProtocol
        else s.ncclOfiSelectedProtocol
      | none => s.ncclOfiSelectedProtocol
    domainPerThread := if p.domainPerThread = -1 then
        match data with
        | some e => (platformDataMap.get e).domainPerThread
        | none => 0
      else p.domainPerThread }

def platformInit (b : Build) (p : Params) (rt : Runtime) (w : World) : PluginM Int := do
  let data ← getPlatformData w
  let selectEfa ← selectProvider
  thenIfOk (if b.haveCuda then configureCuda w rt data else pure 0) <|
  thenIfOk (configureTopology b w rt data) do
    platformDefaults p data selectEfa
    pure 0

/-- The plugin's use of this file: `platform_init` once, then `platform_config_endpoint` for each
endpoint it creates. -/
def pluginCalls (b : Build) (p : Params) (rt : Runtime) (w : World) (calls : List EndpointCall) :
    List (PluginM Int) :=
  platformInit b p rt w :: calls.map (platformConfigEndpoint b p)

/-! ## A missing identity reaches the string uses -/

/-- A host whose `product_name` cannot be opened. -/
def unidentifiedWorld : World := ⟨none, true, fun _ => true, fun _ => true⟩

/-- With `product_name` missing, `platform_init` caches the NULL identity and returns 0, and the
next EFA endpoint under the RDMA protocol with `NCCL_PROTO` unset hands it to `strcmp`. With
`NCCL_TOPO_FILE` set and `INFO` messages logged, `platform_init` itself prints it with `%s`. -/
theorem null_identity_used_as_string :
    let b : Build := ⟨true, true, true, true, true, "/usr/share/aws-ofi-nccl/xml"⟩
    let p : Params := ⟨0, 0, -1, some "RDMA", -1⟩
    let rt : Runtime := ⟨1, 18, none, true, false⟩
    let call : EndpointCall :=
      ⟨"efa", some ⟨(0, true, false), fun _ => 0⟩, .supported, unidentifiedWorld⟩
    let run := runAll (pluginCalls b p rt unidentifiedWorld [call])
      (Process.initial (fun _ => none) none 0 (-1) "RDMA" (-1))
    let topologySet := runAll [platformInit b p rt unidentifiedWorld]
      (Process.initial (fun n => if n = "NCCL_TOPO_FILE" then some "/opt/topo.xml" else none)
        none 0 (-1) "RDMA" (-1))
    run.1 = [0] ∧ run.2.1.typeInit = true ∧ run.2.1.platformType = none ∧
      run.2.2 = some .nullString ∧ topologySet.2.2 = some .nullString := by
  decide

end AwsPlatform
