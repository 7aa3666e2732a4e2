import AwsPlatform.Defaults

/-! What `platform_config_endpoint` returns, and what an endpoint it accepts has passed. -/
namespace AwsPlatform

/-- Where the checks before the mutex send a call: out with 0, `-EINVAL` or a provider code, or
on to the negotiation, which only a CUDA build reaches. -/
def CheckedCode (b : Build) (ep : Endpoint) : Checked → Prop
  | .exit ret => ret = 0 ∨ ret = -EINVAL ∨ ProviderCode ep ret
  | .negotiate _ => b.haveCuda = true

theorem checkEndpoint_code {b : Build} {p : Params} {call : EndpointCall} {ep : Endpoint}
    {s s' : Process} {c : Checked} (checked : (checkEndpoint b p call ep).run s = .ok (c, s')) :
    CheckedCode b ep c := by
  obtain ⟨-, other, efa⟩ := checkEndpoint_spec checked
  cases provider : strEq call.provName "efa"
  · rw [other provider]; exact .inl rfl
  obtain ⟨missing, s₁, -, absent, present⟩ := efa provider
  cases missing
  · obtain ⟨ret, rdma, failing, passing⟩ := present rfl
    by_cases zero : ret = 0
    · subst zero
      rw [passing rfl]
      cases cuda : b.haveCuda <;> cases inorderOptname b s.ncclOfiSelectedProtocol <;>
        simp [CheckedCode, cuda]
    · rw [failing zero]
      exact Or.inr ((checkRdmaWrite_spec rdma).2.1.resolve_left zero)
  · rw [absent rfl]; exact .inr (.inl rfl)

/-- The codes of `platform_config_endpoint`: 0; `-EINVAL`; `-ENOTSUP`, which only the
negotiation of a CUDA build returns; or a provider code of the endpoint, passed on as it came. -/
def EndpointCode (b : Build) (call : EndpointCall) (ret : Int) : Prop :=
  ret = 0 ∨ ret = -EINVAL ∨ ret = -ENOTSUP ∧ b.haveCuda = true ∨
    ∃ ep, call.endpoint = some ep ∧ ProviderCode ep ret

/-- `platform_config_endpoint` makes up no code of its own but `-EINVAL` and `-ENOTSUP`: every
other nonzero code it returns is one the endpoint's `fi_getopt` or `fi_setopt` returned. -/
theorem platformConfigEndpoint_codes {b : Build} {p : Params} {call : EndpointCall}
    {s s' : Process} {ret : Int} (done : (platformConfigEndpoint b p call).run s = .ok (ret, s')) :
    EndpointCode b call ret := by
  rcases platformConfigEndpoint_cases done with ⟨-, rfl, -⟩ |
    ⟨ep, c, s₁, endpoint, checked, ⟨rfl, -⟩ | ⟨optname, rfl, run⟩⟩
  · exact .inr (.inl rfl)
  · rcases checkEndpoint_code checked with zero | invalid | provider
    exacts [.inl zero, .inr (.inl invalid), .inr (.inr (.inr ⟨ep, endpoint, provider⟩))]
  · rcases (negotiateEndpoint_spec run).code with zero | unsupported | provider
    exacts [.inl zero, .inr (.inr (.inl ⟨unsupported, checkEndpoint_code checked⟩)),
      .inr (.inr (.inr ⟨ep, endpoint, provider⟩))]

/-- An RDMA endpoint whose `fi_getopt` fails with `-EIO`: `platform_config_endpoint` returns that
code as it came. -/
theorem platformConfigEndpoint_codes_getopt :
    let b : Build := ⟨true, true, true, true, true, "/usr/share/aws-ofi-nccl/xml"⟩
    let call : EndpointCall :=
      ⟨"efa", some ⟨(-5, true, false), fun _ => 0⟩, .unknown, unidentifiedWorld⟩
    let start := Process.initial (fun _ => none) none 0 75 "RDMA" 0
    ∃ s', (platformConfigEndpoint b ⟨1, 0, -1, none, -1⟩ call).run start = .ok (-5, s') ∧
      EndpointCode b call (-5) := by
  intro b call start
  obtain ⟨s', done⟩ : ∃ s', (platformConfigEndpoint b ⟨1, 0, -1, none, -1⟩ call).run start =
      .ok (-5, s') := ⟨_, rfl⟩
  exact ⟨s', done, platformConfigEndpoint_codes done⟩

/-! ## What an accepted endpoint has passed -/

/-- The checks before the mutex let an EFA call through, on to the negotiation or out with 0,
only when each of them passed. -/
theorem checkEndpoint_passed {b : Build} {p : Params} {call : EndpointCall} {ep : Endpoint}
    {s s₁ : Process} {c : Checked} (efa : strEq call.provName "efa" = true)
    (checked : (checkEndpoint b p call ep).run s = .ok (c, s₁))
    (through : c = .exit 0 ∨ ∃ optname, c = .negotiate optname) :
    (p.disableGdrRequiredCheck = 0 → ∀ e s₂,
        (getPlatformData call.world).run s = .ok (some e, s₂) →
        (platformDataMap.get e).gdrRequired = true → call.supportGdr = .supported) ∧
      (strcaseEq "RDMA" s.ncclOfiSelectedProtocol = true → p.disableNativeRdmaCheck = 0 →
        b.declEmulatedWrite = true ∧ ep.emulatedWrite = (0, true, false)) ∧
      (b.haveCuda = true → knownProtocol s.ncclOfiSelectedProtocol = true) := by
  obtain ⟨-, -, passed⟩ := checkEndpoint_spec checked
  obtain ⟨missing, s₂, gdr, absent, present⟩ := passed efa
  cases missing
  · obtain ⟨ret, rdma, failing, passing⟩ := present rfl
    have zero : ret = 0 := by
      by_contra nonzero
      rcases through with through | ⟨_, through⟩
      · exact nonzero (Checked.exit.inj ((failing nonzero).symm.trans through))
      · exact absurd ((failing nonzero).symm.trans through) (by simp)
    subst zero
    refine ⟨(gdrMissing_spec gdr).2 rfl, (checkRdmaWrite_spec rdma).2.2 rfl, fun cuda => ?_⟩
    rw [← inorderOptname_isSome]
    have result := passing rfl
    rw [if_pos cuda] at result
    cases found : inorderOptname b s.ncclOfiSelectedProtocol with
    | none =>
      rw [found] at result
      rcases through with rfl | ⟨_, rfl⟩ <;> simp [EINVAL] at result
    | some => rfl
  · have exited := absent rfl
    rcases through with rfl | ⟨_, rfl⟩ <;> simp [EINVAL] at exited

/-- An EFA endpoint that `platform_config_endpoint` accepts, returning 0, exists and has passed
every check the code makes before its mutex: with the GDR check on, GPUDirect RDMA is supported
wherever the host's entry requires it; under RDMA with the native check on, the build declares the
emulated-write option and the endpoint writes natively; and in a CUDA build the selected protocol
is one the negotiation knows. -/
theorem platformConfigEndpoint_accepts_checked {b : Build} {p : Params} {call : EndpointCall}
    {s s' : Process} (efa : strEq call.provName "efa" = true)
    (done : (platformConfigEndpoint b p call).run s = .ok (0, s')) :
    ∃ ep, call.endpoint = some ep ∧
      (p.disableGdrRequiredCheck = 0 → ∀ e s₁,
        (getPlatformData call.world).run s = .ok (some e, s₁) →
        (platformDataMap.get e).gdrRequired = true → call.supportGdr = .supported) ∧
      (strcaseEq "RDMA" s.ncclOfiSelectedProtocol = true → p.disableNativeRdmaCheck = 0 →
        b.declEmulatedWrite = true ∧ ep.emulatedWrite = (0, true, false)) ∧
      (b.haveCuda = true → knownProtocol s.ncclOfiSelectedProtocol = true) := by
  rcases platformConfigEndpoint_cases done with ⟨-, failed, -⟩ |
    ⟨ep, c, s₁, endpoint, checked, through⟩
  · exact absurd failed (by simp [EINVAL])
  · refine ⟨ep, endpoint, checkEndpoint_passed efa checked ?_⟩
    rcases through with ⟨rfl, -⟩ | ⟨optname, rfl, -⟩
    exacts [.inl rfl, .inr ⟨optname, rfl⟩]

/-- An EFA endpoint on a p4d host, whose entry requires GPUDirect RDMA, in a CUDA build under
SENDRECV: the endpoint is accepted, and it had GPUDirect RDMA supported. -/
theorem platformConfigEndpoint_accepts_checked_p4d :
    let b : Build := ⟨true, true, true, true, true, "/usr/share/aws-ofi-nccl/xml"⟩
    let w : World := ⟨some ⟨"p4d.24xlarge\n".toList, false⟩, true, fun _ => true, fun _ => true⟩
    let call : EndpointCall := ⟨"efa", some orderedEndpoint, .supported, w⟩
    let start := Process.initial (fun _ => none) none 0 75 "SENDRECV" 0
    ∃ s', (platformConfigEndpoint b ⟨0, 0, -1, none, -1⟩ call).run start = .ok (0, s') ∧
      call.supportGdr = .supported ∧ knownProtocol start.ncclOfiSelectedProtocol = true := by
  intro b w call start
  obtain ⟨s', done⟩ : ∃ s', (platformConfigEndpoint b ⟨0, 0, -1, none, -1⟩ call).run start =
      .ok (0, s') := ⟨_, rfl⟩
  obtain ⟨_, -, gdr, -, known⟩ := platformConfigEndpoint_accepts_checked (by rfl) done
  exact ⟨s', done, gdr rfl ⟨0, by decide⟩ _ rfl rfl, known rfl⟩

end AwsPlatform
