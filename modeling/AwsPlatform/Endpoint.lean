import AwsPlatform.Identity

/-! `platform_config_endpoint`: the checks an EFA endpoint has to pass, the in-order negotiation
of CUDA builds, and the maximum message size for the RDMA protocol. -/
namespace AwsPlatform

/-- `support_gdr`. -/
inductive GdrSupport where
  | unknown
  | supported
  | unsupported
  deriving DecidableEq, Repr

/-- An endpoint, as the answers to the option calls the code makes on it. -/
structure Endpoint where
  /-- `fi_getopt(FI_OPT_EFA_EMULATED_WRITE)`: the return code, whether `optlen` came back as
  `sizeof(bool)`, and the value. -/
  emulatedWrite : Int × Bool × Bool
  /-- What `fi_setopt` returns for each option. -/
  setopt : EpOption → Int

/-- One `platform_config_endpoint(info, endpoint)` call, with what the world answers during it. -/
structure EndpointCall where
  /-- `info->fabric_attr->prov_name`. -/
  provName : String
  /-- NULL as `none`. -/
  endpoint : Option Endpoint
  supportGdr : GdrSupport
  world : World

def fiSetopt (ep : Endpoint) (opt : EpOption) : PluginM Int := do
  modify fun s => { s with calls := .fiSetopt opt (ep.setopt opt) :: s.calls }
  pure (ep.setopt opt)

def validateRdmaWrite (b : Build) (ep : Endpoint) : PluginM Int :=
  if b.declEmulatedWrite then do
    modify fun s => { s with calls := .fiGetopt .efaEmulatedWrite :: s.calls }
    let (ret, sized, emulated) := ep.emulatedWrite
    pure (if ret ≠ 0 then ret else if !sized then -EINVAL else if emulated then -EINVAL else 0)
  else pure (-EINVAL)

/-- `configure_nccl_proto`: set `NCCL_PROTO=simple` unless the user set it. -/
def configureNcclProto (w : World) : PluginM Int := do
  if ((← get).env "NCCL_PROTO").isSome then pure 0
  else setEnv w "NCCL_PROTO" "simple" false

/-- `configure_ep_inorder`: the return code and `have_ordering`. Both options are guarded by the
declaration of the write option. -/
def configureEpInorder (b : Build) (ep : Endpoint) (optname : EpOption) : PluginM (Int × Bool) :=
  if b.declWriteInorder then do
    let ret ← fiSetopt ep optname
    pure (if ret = -FI_EOPNOTSUPP ∨ ret = -FI_ENOPROTOOPT then (0, false)
      else if ret ≠ 0 then (ret, false) else (0, true))
  else pure (0, false)

def configureEpMaxMsgSize (b : Build) (ep : Endpoint) : PluginM Int :=
  if b.declMaxMsgSize then do
    let ret ← fiSetopt ep .maxMsgSize
    pure (if ret = -FI_EOPNOTSUPP ∨ ret = -FI_ENOPROTOOPT then 0 else ret)
  else pure 0

/-- `optname` for the selected protocol, `none` standing for `-1` when the build does not declare
it; `none` outside for a protocol that is neither SENDRECV nor RDMA. -/
def inorderOptname (b : Build) (protocol : String) : Option (Option EpOption) :=
  if strcaseEq "SENDRECV" protocol then
    some (if b.declSendrecvInorder then some .sendrecvInorderAligned128Bytes else none)
  else if strcaseEq "RDMA" protocol then
    some (if b.declWriteInorder then some .writeInorderAligned128Bytes else none)
  else none

/-- The P5 test: `NCCL_PROTO` unset, the RDMA protocol, and `strcmp(get_platform_type(),
"p5.48xlarge") == 0`, which reads a NULL identity. -/
def isP5Rdma (w : World) (protocol : String) : PluginM Bool := do
  if (← get).env "NCCL_PROTO" = none ∧ strcaseEq "RDMA" protocol then
    match ← getPlatformType w with
    | none => throw .nullString
    | some type => pure (strEq type "p5.48xlarge")
  else pure false

/-- `if (optname != -1) ret = configure_ep_inorder(...)`, leaving `ret` 0 and `have_ordering`
false otherwise. -/
def tryInorder (b : Build) (ep : Endpoint) : Option EpOption → PluginM (Int × Bool)
  | some opt => configureEpInorder b ep opt
  | none => pure (0, false)

/-- The block under `if (need_ordering || !nccl_proto_configured)`: 0, or the code the call
returns with. -/
def configureOrdering (b : Build) (w : World) (ep : Endpoint) (optname : Option EpOption) :
    PluginM Int := do
  let s ← get
  if s.needOrdering || !s.ncclProtoConfigured then
    let (ret, haveOrdering) ← tryInorder b ep optname
    if ret ≠ 0 then pure ret
    else if s.needOrdering && !haveOrdering then pure (-ENOTSUP)
    else if !s.ncclProtoConfigured then do
      modify fun s => { s with needOrdering := haveOrdering, ncclProtoConfigured := true }
      if haveOrdering then pure 0
      else do
        let ret ← configureNcclProto w
        pure (if ret ≠ 0 then -ENOTSUP else 0)
    else pure 0
  else pure 0

/-- What the P5 test does to the statics when it passes. -/
def Process.exemptP5 (s : Process) : Process :=
  if s.ncclProtoConfigured then s else { s with needOrdering := false, ncclProtoConfigured := true }

/-- After the P5 test: the ordering block, then `configure_ep_max_msg_size` for RDMA. -/
def orderThenSize (b : Build) (w : World) (ep : Endpoint) (protocol : String)
    (optname : Option EpOption) : PluginM Int := do
  let ret ← configureOrdering b w ep optname
  if ret ≠ 0 then pure ret
  else if strcaseEq "RDMA" protocol then configureEpMaxMsgSize b ep
  else pure 0

/-- What `platform_config_endpoint` does holding its mutex. -/
def negotiateEndpoint (b : Build) (w : World) (ep : Endpoint) (protocol : String)
    (optname : Option EpOption) : PluginM Int := do
  if ← isP5Rdma w protocol then modify Process.exemptP5
  orderThenSize b w ep protocol optname

/-- Where the checks before the mutex leave a call. -/
inductive Checked where
  /-- `goto exit` with this return code. -/
  | exit (ret : Int)
  /-- On to the negotiation, with the chosen `optname`. -/
  | negotiate (optname : Option EpOption)

/-- The GDR check: whether the platform requires GPUDirect RDMA that `support_gdr` lacks. -/
def gdrMissing (p : Params) (call : EndpointCall) : PluginM Bool :=
  if p.disableGdrRequiredCheck = 0 then do
    let data ← getPlatformData call.world
    pure (data.any fun e => (platformDataMap.get e).gdrRequired && call.supportGdr != .supported)
  else pure false

/-- The native RDMA write check of the RDMA protocol, 0 when it does not apply. -/
def checkRdmaWrite (b : Build) (p : Params) (ep : Endpoint) (protocol : String) : PluginM Int :=
  if strcaseEq "RDMA" protocol && p.disableNativeRdmaCheck = 0 then validateRdmaWrite b ep
  else pure 0

/-- `platform_config_endpoint` up to its mutex, for a non-NULL endpoint. -/
def checkEndpoint (b : Build) (p : Params) (call : EndpointCall) (ep : Endpoint) :
    PluginM Checked := do
  if !strEq call.provName "efa" then pure (.exit 0)
  else if ← gdrMissing p call then pure (.exit (-EINVAL))
  else
    let protocol := (← get).ncclOfiSelectedProtocol
    let ret ← checkRdmaWrite b p ep protocol
    if ret ≠ 0 then pure (.exit ret)
    else if !b.haveCuda then pure (.exit 0)
    else pure (match inorderOptname b protocol with
      | none => .exit (-EINVAL)
      | some optname => .negotiate optname)

def platformConfigEndpoint (b : Build) (p : Params) (call : EndpointCall) : PluginM Int :=
  match call.endpoint with
  | none => pure (-EINVAL)
  | some ep => do
    match ← checkEndpoint b p call ep with
    | .exit ret => pure ret
    | .negotiate optname =>
      negotiateEndpoint b call.world ep (← get).ncclOfiSelectedProtocol optname

end AwsPlatform
