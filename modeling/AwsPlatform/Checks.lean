import AwsPlatform.Negotiation

/-! The checks `platform_config_endpoint` makes before it takes its mutex: the provider, the GDR
requirement of the platform, and the native RDMA write. They fill the lookup caches at most. -/
namespace AwsPlatform

/-- A code that an option call on the endpoint returned and the plugin passes on: a failing
`fi_getopt` of the emulated write option, or a failing `fi_setopt` that is not "unsupported". -/
def ProviderCode (ep : Endpoint) (ret : Int) : Prop :=
  ret ≠ 0 ∧ (ret = ep.emulatedWrite.1 ∨
    ∃ opt, ret = ep.setopt opt ∧ ret ≠ -FI_EOPNOTSUPP ∧ ret ≠ -FI_ENOPROTOOPT)

/-- What the checks before the mutex may change: the lookup caches, which keep what they held and
stay coherent, and the log by calls other than an in-order `fi_setopt`. -/
structure Process.BeforeMutex (s s' : Process) : Prop where
  frame : s' = { s with typeInit := s'.typeInit, platformType := s'.platformType,
                        dataInit := s'.dataInit, platformData := s'.platformData,
                        calls := s'.calls }
  caches : KeepsCaches s s'
  setopts : s'.inorderSetopts = s.inorderSetopts
  cache : CacheInv s → CacheInv s'

theorem Process.BeforeMutex.trans {s₁ s₂ s₃ : Process} (first : Process.BeforeMutex s₁ s₂)
    (second : Process.BeforeMutex s₂ s₃) : Process.BeforeMutex s₁ s₃ :=
  ⟨by rw [second.frame, first.frame], IsTrans.trans _ _ _ first.caches second.caches,
    second.setopts.trans first.setopts, second.cache ∘ first.cache⟩

instance : IsPreorder Process Process.BeforeMutex where
  refl s := ⟨rfl, IsRefl.refl s, rfl, id⟩
  trans _ _ _ := Process.BeforeMutex.trans

theorem Process.BeforeMutex.statics {s s' : Process} (before : Process.BeforeMutex s s') :
    s'.ncclProtoConfigured = s.ncclProtoConfigured ∧ s'.needOrdering = s.needOrdering := by
  rw [before.frame]; exact ⟨rfl, rfl⟩

theorem Process.BeforeMutex.negotiation {s s' : Process} (before : Process.BeforeMutex s s') :
    s'.negotiation = s.negotiation := by
  simp [Process.negotiation, before.statics.1, before.statics.2]

theorem getPlatformType_beforeMutex (w : World) :
    Keeps Process.BeforeMutex (getPlatformType w) := by
  intro s type s' done
  have caches := getPlatformType_keepsCaches done
  have cache := fun inv : CacheInv s => inv.getPlatformType done
  obtain ⟨-, rfl⟩ := getPlatformType_ok done
  refine ⟨rfl, caches, ?_, cache⟩
  split <;> simp [Process.inorderSetopts, ExtCall.setsInorder]

theorem getPlatformData_beforeMutex (w : World) :
    Keeps Process.BeforeMutex (getPlatformData w) := by
  intro s data s' done
  have caches := getPlatformData_keepsCaches done
  have cache := fun inv : CacheInv s => inv.getPlatformData done
  rw [getPlatformData_run] at done
  split at done
  · cases done; exact IsRefl.refl s
  · cases found : (getPlatformType w).run { s with dataInit := true } with
    | error => rw [found] at done; cases done
    | ok r =>
      obtain ⟨type, s₁⟩ := r
      rw [found] at done
      obtain ⟨-, rfl⟩ := getPlatformType_ok found
      have setopts : s'.inorderSetopts = s.inorderSetopts := by
        cases type <;> simp only [Except.map, Except.ok.injEq, Prod.mk.injEq] at done <;>
          obtain ⟨-, rfl⟩ := done <;> split <;> simp [Process.inorderSetopts, ExtCall.setsInorder]
      cases type <;> simp only [Except.map, Except.ok.injEq, Prod.mk.injEq] at done <;>
        obtain ⟨-, rfl⟩ := done <;> exact ⟨rfl, caches, setopts, cache⟩

/-- The native RDMA write check logs its `fi_getopt`, and returns 0 only for a build that declares
the option and an endpoint that writes natively. -/
theorem validateRdmaWrite_spec {b : Build} {ep : Endpoint} {s s' : Process} {ret : Int}
    (done : (validateRdmaWrite b ep).run s = .ok (ret, s')) :
    Process.BeforeMutex s s' ∧ (ret = 0 ∨ ret = -EINVAL ∨ ProviderCode ep ret) ∧
      (ret = 0 → b.declEmulatedWrite = true ∧ ep.emulatedWrite = (0, true, false)) := by
  obtain ⟨⟨code, sized, emulated⟩, setopt⟩ := ep
  by_cases declared : b.declEmulatedWrite <;> simp only [validateRdmaWrite, declared] at done
  · simp only [if_true, StateT.run_bind, StateT.run_modify, ok_bind, StateT.run_pure,
      Except.ok.injEq, Prod.mk.injEq] at done
    obtain ⟨rfl, rfl⟩ := done
    refine ⟨⟨rfl, KeepsCaches.of_eq rfl rfl rfl rfl,
      by simp [Process.inorderSetopts, ExtCall.setsInorder], fun inv => inv.log (by simp)⟩, ?_,
      fun zero => ?_⟩
    · split_ifs with failed
      · exact .inr (.inr ⟨failed, .inl rfl⟩)
      all_goals first | exact .inr (.inl rfl) | exact .inl rfl
    · split_ifs at zero <;> simp_all [EINVAL]
  · simp only [Bool.false_eq_true, if_false, StateT.run_pure, Except.ok.injEq,
      Prod.mk.injEq] at done
    obtain ⟨rfl, rfl⟩ := done
    exact ⟨IsRefl.refl s, .inr (.inl rfl), fun zero => by simp [EINVAL] at zero⟩

theorem checkRdmaWrite_spec {b : Build} {p : Params} {ep : Endpoint} {protocol : String}
    {s s' : Process} {ret : Int} (done : (checkRdmaWrite b p ep protocol).run s = .ok (ret, s')) :
    Process.BeforeMutex s s' ∧ (ret = 0 ∨ ret = -EINVAL ∨ ProviderCode ep ret) ∧
      (ret = 0 → strcaseEq "RDMA" protocol = true → p.disableNativeRdmaCheck = 0 →
        b.declEmulatedWrite = true ∧ ep.emulatedWrite = (0, true, false)) := by
  by_cases applies : (strcaseEq "RDMA" protocol && p.disableNativeRdmaCheck = 0) = true
  · rw [checkRdmaWrite, if_pos applies] at done
    obtain ⟨before, code, passed⟩ := validateRdmaWrite_spec done
    exact ⟨before, code, fun zero _ _ => passed zero⟩
  · rw [checkRdmaWrite, if_neg applies] at done
    cases done
    exact ⟨IsRefl.refl s, .inl rfl, fun _ rdma enabled => absurd (by simp [rdma, enabled]) applies⟩

/-- The GDR check fills the catalog cache at most. When it passes with the check on, GPUDirect
RDMA is supported wherever the entry `get_platform_data` answers requires it. -/
theorem gdrMissing_spec {p : Params} {call : EndpointCall} {s s' : Process} {missing : Bool}
    (done : (gdrMissing p call).run s = .ok (missing, s')) :
    Process.BeforeMutex s s' ∧ (missing = false → p.disableGdrRequiredCheck = 0 → ∀ e s₁,
      (getPlatformData call.world).run s = .ok (some e, s₁) →
      (platformDataMap.get e).gdrRequired = true → call.supportGdr = .supported) := by
  by_cases checked : p.disableGdrRequiredCheck = 0
  · cases found : (getPlatformData call.world).run s with
    | error => simp [gdrMissing, checked, found] at done
    | ok r =>
      obtain ⟨data, s₁⟩ := r
      have before := getPlatformData_beforeMutex call.world s data s₁ found
      simp only [gdrMissing, checked, if_true, StateT.run_bind, found, ok_bind, StateT.run_pure,
        Except.ok.injEq, Prod.mk.injEq] at done
      obtain ⟨rfl, rfl⟩ := done
      refine ⟨before, fun passed _ e s₂ found' required => ?_⟩
      obtain ⟨rfl, -⟩ := Prod.mk.inj (Except.ok.inj found')
      simp only [List.get_eq_getElem] at required
      simpa [required] using passed
  · simp only [gdrMissing, checked, if_false, StateT.run_pure, Except.ok.injEq,
      Prod.mk.injEq] at done
    obtain ⟨rfl, rfl⟩ := done
    exact ⟨IsRefl.refl s, fun _ enabled => absurd enabled checked⟩

/-- The checks before the mutex fill the lookup caches at most. A non-EFA call exits with 0; an
EFA call exits with `-EINVAL` on a missing GPUDirect RDMA, with the code of a failed native
RDMA write check, with 0 in a build without CUDA, with `-EINVAL` under an unknown protocol, and
otherwise goes on to the negotiation with the protocol's in-order option. -/
theorem checkEndpoint_spec {b : Build} {p : Params} {call : EndpointCall} {ep : Endpoint}
    {s s' : Process} {c : Checked} (done : (checkEndpoint b p call ep).run s = .ok (c, s')) :
    Process.BeforeMutex s s' ∧
      (strEq call.provName "efa" = false → c = .exit 0) ∧
      (strEq call.provName "efa" = true → ∃ missing s₁,
        (gdrMissing p call).run s = .ok (missing, s₁) ∧
        (missing = true → c = .exit (-EINVAL)) ∧
        (missing = false → ∃ ret,
          (checkRdmaWrite b p ep s.ncclOfiSelectedProtocol).run s₁ = .ok (ret, s') ∧
          (ret ≠ 0 → c = .exit ret) ∧
          (ret = 0 → c = if b.haveCuda then
            (inorderOptname b s.ncclOfiSelectedProtocol).elim (.exit (-EINVAL)) .negotiate
            else .exit 0))) := by
  by_cases efa : strEq call.provName "efa"
  · cases gdr : (gdrMissing p call).run s with
    | error => simp [checkEndpoint, efa, gdr] at done
    | ok r =>
      obtain ⟨missing, s₁⟩ := r
      have before₁ := (gdrMissing_spec gdr).1
      have protocol : s₁.ncclOfiSelectedProtocol = s.ncclOfiSelectedProtocol := by
        rw [before₁.frame]
      cases missing with
      | true =>
        simp [checkEndpoint, efa, gdr] at done
        obtain ⟨rfl, rfl⟩ := done
        exact ⟨before₁, fun no => by simp [efa] at no,
          fun _ => ⟨true, _, rfl, fun _ => rfl, fun no => by cases no⟩⟩
      | false =>
        cases rdma : (checkRdmaWrite b p ep s.ncclOfiSelectedProtocol).run s₁ with
        | error => simp [checkEndpoint, efa, gdr, protocol, rdma] at done
        | ok r =>
          obtain ⟨ret, s₂⟩ := r
          have before₂ := (checkRdmaWrite_spec rdma).1
          simp [checkEndpoint, efa, gdr, protocol, rdma] at done
          obtain ⟨rfl, result⟩ : s' = s₂ ∧ c = if ret = 0 then
              (if b.haveCuda then (inorderOptname b s.ncclOfiSelectedProtocol).elim
                (.exit (-EINVAL)) .negotiate else .exit 0) else .exit ret := by
            by_cases zero : ret = 0 <;> cases cuda : b.haveCuda <;>
              cases optname : inorderOptname b s.ncclOfiSelectedProtocol <;>
              simp only [zero, cuda, optname, if_true, if_false] at done ⊢ <;> cases done <;>
              simp [zero]
          exact ⟨before₁.trans before₂, fun no => by simp [efa] at no,
            fun _ => ⟨false, s₁, rfl, fun no => (by cases no), fun _ => ⟨ret, rdma,
              fun failed => by simp [result, failed], fun zero => by simp [result, zero]⟩⟩⟩
  · simp [checkEndpoint, efa] at done
    obtain ⟨rfl, rfl⟩ := done
    exact ⟨IsRefl.refl s, fun _ => rfl, fun yes => by simp [efa] at yes⟩

end AwsPlatform
