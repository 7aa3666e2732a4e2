import AwsPlatform.Globals

/-! The P5 path: on a p5 host left at its defaults, `platform_init` selects RDMA and every later
endpoint call is exempt from the in-order negotiation. -/
namespace AwsPlatform

/-- Where a P5 process stands past a default `platform_init`: RDMA selected, `NCCL_PROTO` unset,
the p5 identity cached, the domain not ordered, and `setopts` in-order options set. -/
structure P5Default (setopts : Nat) (s : Process) : Prop where
  protocol : s.ncclOfiSelectedProtocol = "RDMA"
  protoUnset : s.env "NCCL_PROTO" = none
  typeInit : s.typeInit = true
  platformType : s.platformType = some "p5.48xlarge"
  unordered : s.needOrdering = false
  setopts : s.inorderSetopts = setopts

theorem P5Default.exempt {setopts : Nat} {s : Process} (path : P5Default setopts s) (w : World) :
    p5Exempt w s.ncclOfiSelectedProtocol s = true := by
  simp [p5Exempt, getPlatformType_run, path.protocol, path.protoUnset, path.typeInit,
    path.platformType, strEq, strcaseEq]

/-- The checks before the mutex keep a P5 process where it stands. -/
theorem P5Default.of_checks {setopts : Nat} {s s' : Process} (path : P5Default setopts s)
    (before : Process.BeforeMutex s s') : P5Default setopts s' := by
  obtain ⟨cached, type⟩ := before.caches.1 path.typeInit
  have frame := before.frame
  exact ⟨by rw [frame]; exact path.protocol, by rw [frame]; exact path.protoUnset, cached,
    type.trans path.platformType, by rw [frame]; exact path.unordered,
    before.setopts.trans path.setopts⟩

/-- A call exempt as P5, on a domain that is not ordered, leaves it unordered, sets no in-order
option and leaves the environment alone. -/
theorem negotiateEndpoint_exempt {b : Build} {w : World} {ep : Endpoint} {protocol : String}
    {optname : Option EpOption} {s s' : Process} {ret : Int}
    (exempt : p5Exempt w protocol s = true) (unordered : s.needOrdering = false)
    (done : (negotiateEndpoint b w ep protocol optname).run s = .ok (ret, s')) :
    s'.needOrdering = false ∧ s'.env = s.env ∧ s'.inorderSetopts = s.inorderSetopts := by
  have run := negotiateEndpoint_spec done
  rw [exempt] at run
  obtain ⟨moved, -, setopts, -⟩ := run.follows fun _ => unordered
  -- the exemption leaves the domain unordered without asking the endpoint
  have state : s.negotiation.asks true = false ∧
      (s.negotiation.next true (capability b ep optname)).1 = .configuredUnordered := by
    cases configured : s.ncclProtoConfigured <;>
      simp [Process.negotiation, configured, unordered, NegotiationState.asks,
        NegotiationState.next]
  rw [state.2] at moved
  refine ⟨?_, run.envKept (.inr rfl), setopts state.1⟩
  cases configured : s'.ncclProtoConfigured <;> cases need : s'.needOrdering <;>
    simp_all [Process.negotiation]

/-- Past a default `platform_init` on a P5 host, every endpoint call keeps the process where it
stands: the checks change none of it, and the critical section is exempt. -/
theorem platformConfigEndpoint_p5Default (b : Build) (p : Params) (call : EndpointCall)
    (setopts : Nat) : Keeps (Preserves (P5Default setopts)) (platformConfigEndpoint b p call) :=
  platformConfigEndpoint_preserves _ (fun path before => path.of_checks before)
    fun {ep optname s s' ret} path done => by
      obtain ⟨unordered, env, count⟩ :=
        negotiateEndpoint_exempt (path.exempt call.world) path.unordered done
      have step := (negotiateEndpoint_spec done).step
      obtain ⟨cached, type⟩ := step.caches.1 path.typeInit
      have protocol := (congrArg Process.ncclOfiSelectedProtocol step.frame :)
      exact ⟨protocol.trans path.protocol, by rw [env]; exact path.protoUnset, cached,
        type.trans path.platformType, unordered, count.trans path.setopts⟩

/-- On a P5 host where the user chose no protocol and left `NCCL_PROTO` unset, with the EFA
provider, a run whose `platform_init` returned 0 selects RDMA, and every later endpoint call is
exempt from the in-order negotiation: over any run of calls, no endpoint is asked for in-order
writes, the domain is never ordered, and `NCCL_PROTO` stays unset. -/
theorem p5_defaults_skip_inorder (b : Build) (p : Params) (rt : Runtime) (w : World)
    (calls : List EndpointCall) (s : Process) (inv : CacheInv s) (fresh : s.typeInit = false)
    (unordered : s.needOrdering = false) (unset : s.env "NCCL_PROTO" = none)
    (efa : ((s.env "FI_PROVIDER").all fun provider => strEq provider "efa") = true)
    (unchosen : p.protocol = none) (p5 : readPlatformType w = .ok (some "p5.48xlarge"))
    (initialized : (runAll (pluginCalls b p rt w calls) s).1.head? = some 0) :
    P5Default s.inorderSetopts (runAll (pluginCalls b p rt w calls) s).2.1 := by
  cases done : (platformInit b p rt w).run s with
  | error => simp [pluginCalls, runAll, done] at initialized
  | ok r =>
    obtain ⟨ret, s₁⟩ := r
    obtain rfl : ret = 0 := by simpa [pluginCalls, runAll, done] using initialized
    have kept := platformInit_setsWithin b p rt w s 0 s₁ done "NCCL_PROTO" (by
      have fork : "NCCL_PROTO" ≠ forkSafeVarName rt := by unfold forkSafeVarName; split <;> decide
      simp [cudaVarNames, fork])
    obtain ⟨s₄, pre, init₄, type₄, defaults⟩ := platformInit_fresh inv fresh p5 done
    obtain ⟨-, -, -, -, ordering⟩ := pre.globals
    have found : lastMatch "p5.48xlarge" = some ⟨3, by decide⟩ := by decide
    simp only [platformDefaults, StateT.run_bind, StateT.run_modify, ok_bind, Option.bind,
      found] at defaults
    have path₁ : P5Default s.inorderSetopts s₁ := by
      cases defaults
      exact ⟨by simp [efa, unchosen]; rfl, kept.trans unset, init₄, type₄,
        ordering.trans unordered, pre.setopts⟩
    simp only [pluginCalls, runAll, done]
    exact runAll_invariant _ (fun op mem => by
      obtain ⟨call, -, rfl⟩ := List.mem_map.mp mem
      exact platformConfigEndpoint_p5Default b p call _) s₁ path₁

/-- A p5 host left at its defaults, with two endpoints that would accept in-order writes: neither
is asked, and the domain stays unordered. -/
theorem p5_defaults_skip_inorder_two_endpoints :
    let b : Build := ⟨true, true, true, true, true, "/usr/share/aws-ofi-nccl/xml"⟩
    let p : Params := ⟨0, 0, -1, none, -1⟩
    let rt : Runtime := ⟨1, 18, none, false, false⟩
    let w : World := ⟨some ⟨"p5.48xlarge\n".toList, false⟩, true, fun _ => true, fun _ => true⟩
    let start := Process.initial (fun _ => none) none 0 (-1) "SENDRECV" (-1)
    let calls : List EndpointCall :=
      [⟨"efa", some orderedEndpoint, .supported, w⟩, ⟨"efa", some orderedEndpoint, .supported, w⟩]
    (runAll (pluginCalls b p rt w calls) start).1.head? = some 0 ∧
      P5Default 0 (runAll (pluginCalls b p rt w calls) start).2.1 :=
  ⟨rfl, p5_defaults_skip_inorder _ _ _ _ _ _ (cacheInv_initial _ _ _ _ _ _) rfl rfl rfl rfl rfl rfl
    rfl⟩

end AwsPlatform
