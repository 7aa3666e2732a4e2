import AwsPlatform.Globals

/-! A `platform_init` that fails returns a code of one of its blocks, and leaves every plugin global
as it found it: the defaults come last. -/
namespace AwsPlatform

/-- Every value a returning run of `m` gives satisfies `P`. -/
def Returns {α : Type} (P : α → Prop) (m : PluginM α) : Prop :=
  ∀ s a s', m.run s = .ok (a, s') → P a

section Returns

variable {α β : Type} {P : β → Prop}

theorem Returns.pure {b : β} (holds : P b) : Returns P (pure b : PluginM β) := by
  intro _ _ _ done
  cases done
  exact holds

theorem Returns.any (m : PluginM α) : Returns (fun _ => True) m := fun _ _ _ _ => trivial

theorem Returns.bind {Q : α → Prop} {m : PluginM α} {f : α → PluginM β} (first : Returns Q m)
    (rest : ∀ a, Q a → Returns P (f a)) : Returns P (m >>= f) := by
  intro s b s' done
  cases ran : m.run s with
  | error => simp [ran] at done
  | ok r =>
    obtain ⟨a, s₁⟩ := r
    simp only [StateT.run_bind, ran, ok_bind] at done
    exact rest a (first s a s₁ ran) s₁ b s' done

theorem Returns.ite {c : Prop} [Decidable c] {t e : PluginM β} (yes : c → Returns P t)
    (no : ¬c → Returns P e) : Returns P (if c then t else e) := by
  by_cases holds : c
  · rw [if_pos holds]; exact yes holds
  · rw [if_neg holds]; exact no holds

theorem Returns.imp {Q : β → Prop} {m : PluginM β} (weaken : ∀ b, P b → Q b)
    (holds : Returns P m) : Returns Q m :=
  fun s b s' done => weaken b (holds s b s' done)

end Returns

theorem Returns.thenIfOk {P : Int → Prop} {step rest : PluginM Int} (first : Returns P step)
    (second : Returns P rest) : Returns P (thenIfOk step rest) :=
  Returns.bind first fun _ holds => Returns.ite (fun _ => Returns.pure holds) fun _ => second

/-- The codes of `platform_init`: 0; `-ENOMEM`, from a failing `setenv` or a topology path that
does not fit `PATH_MAX`; `-ENOTSUP`, in a CUDA build whose `ncclGetVersion` reported an error. -/
def InitCode (b : Build) (rt : Runtime) (ret : Int) : Prop :=
  ret = 0 ∨ ret = -ENOMEM ∨ ret = -ENOTSUP ∧ b.haveCuda = true ∧
    ∃ code version, rt.ncclGetVersion = some (code, version) ∧ code ≠ 0

theorem platformInit_initCode (b : Build) (p : Params) (rt : Runtime) (w : World) :
    Returns (InitCode b rt) (platformInit b p rt w) :=
  Returns.bind (Returns.any _) fun _ _ => Returns.bind (Returns.any _) fun _ _ =>
  Returns.thenIfOk (Returns.ite (fun cuda _ _ _ done => (configureCuda_spec done).2.1.imp_right
    (Or.imp_right fun ⟨unsupported, found⟩ => ⟨unsupported, cuda, found⟩)) fun _ =>
    Returns.pure (.inl rfl)) <|
  Returns.thenIfOk (fun _ _ _ done => (configureTopology_spec done).2.1.imp_right .inl) <|
  Returns.bind (Returns.any _) fun _ _ => Returns.pure (.inl rfl)

/-- A run of `m` that returns a nonzero code relates its states by `R`. -/
def KeepsOnFailure (R : Process → Process → Prop) (m : PluginM Int) : Prop :=
  ∀ s ret s', m.run s = .ok (ret, s') → ret ≠ 0 → R s s'

section Failure

variable {R : Process → Process → Prop} [IsPreorder Process R]

theorem KeepsOnFailure.bind {α : Type} {m : PluginM α} {f : α → PluginM Int} (first : Keeps R m)
    (rest : ∀ a, KeepsOnFailure R (f a)) : KeepsOnFailure R (m >>= f) := by
  intro s ret s' done failed
  cases ran : m.run s with
  | error => simp [ran] at done
  | ok r =>
    obtain ⟨a, s₁⟩ := r
    simp only [StateT.run_bind, ran, ok_bind] at done
    exact IsTrans.trans _ _ _ (first s a s₁ ran) (rest a s₁ ret s' done failed)

theorem KeepsOnFailure.thenIfOk {step rest : PluginM Int} (first : Keeps R step)
    (second : KeepsOnFailure R rest) : KeepsOnFailure R (thenIfOk step rest) :=
  KeepsOnFailure.bind first fun code s ret s' done failed => by
    by_cases zero : code = 0
    · rw [if_neg (not_not.mpr zero)] at done
      exact second s ret s' done failed
    · rw [if_pos zero] at done
      cases done
      exact IsRefl.refl s

omit [IsPreorder Process R] in
/-- A step that always returns 0 never fails. -/
theorem KeepsOnFailure.succeeds (m : PluginM Unit) : KeepsOnFailure R (m >>= fun _ => pure 0) := by
  intro s ret s' done failed
  cases ran : m.run s with
  | error => simp [ran] at done
  | ok r =>
    simp only [StateT.run_bind, ran, ok_bind] at done
    cases done
    exact absurd rfl failed

end Failure

theorem platformInit_keepsOnFailure (b : Build) (p : Params) (rt : Runtime) (w : World) :
    KeepsOnFailure InitPrefix (platformInit b p rt w) :=
  KeepsOnFailure.bind (getPlatformData_initPrefix w) fun _ =>
  KeepsOnFailure.bind selectProvider_initPrefix fun _ =>
  KeepsOnFailure.thenIfOk (Keeps.ite (configureCuda_initPrefix w rt _) (Keeps.pure _ _)) <|
  KeepsOnFailure.thenIfOk (configureTopology_initPrefix b w rt _) (KeepsOnFailure.succeeds _)

/-- A `platform_init` that fails returns `-ENOMEM`, or `-ENOTSUP` in a CUDA build whose
`ncclGetVersion` reported an error; it stops before its defaults, so every plugin global keeps
the value it had. -/
theorem platformInit_failure {b : Build} {p : Params} {rt : Runtime} {w : World}
    {s s' : Process} {ret : Int} (done : (platformInit b p rt w).run s = .ok (ret, s'))
    (failed : ret ≠ 0) :
    (ret = -ENOMEM ∨ ret = -ENOTSUP ∧ b.haveCuda = true ∧
        ∃ code version, rt.ncclGetVersion = some (code, version) ∧ code ≠ 0) ∧
      s'.nicDupConns = s.nicDupConns ∧ s'.netLatency = s.netLatency ∧
      s'.ncclOfiSelectedProtocol = s.ncclOfiSelectedProtocol ∧
      s'.domainPerThread = s.domainPerThread := by
  obtain ⟨nic, latency, protocol, domain, -⟩ :=
    (platformInit_keepsOnFailure b p rt w s ret s' done failed).globals
  rcases platformInit_initCode b p rt w s ret s' done with zero | code
  · exact absurd zero failed
  · exact ⟨code, nic, latency, protocol, domain⟩

/-- A p4d host where no `setenv` gets its memory: `platform_init` fails setting the topology file,
with `-ENOMEM`, and the globals stay as the plugin set them. -/
theorem platformInit_failure_setenv :
    let w : World := ⟨some ⟨"p4d.24xlarge\n".toList, false⟩, true, fun _ => true, fun _ => false⟩
    let start := Process.initial (fun _ => none) none 0 (-1) "SENDRECV" (-1)
    ∃ s', (platformInit ⟨false, true, true, true, true, "/usr/share/aws-ofi-nccl/xml"⟩
        ⟨0, 0, -1, none, -1⟩ ⟨1, 18, none, false, false⟩ w).run start = .ok (-ENOMEM, s') ∧
      -ENOMEM ≠ 0 ∧ s'.netLatency = -1 ∧ s'.domainPerThread = -1 := by
  intro w start
  obtain ⟨s', done⟩ : ∃ s', (platformInit ⟨false, true, true, true, true,
      "/usr/share/aws-ofi-nccl/xml"⟩ ⟨0, 0, -1, none, -1⟩ ⟨1, 18, none, false, false⟩ w).run start =
      .ok (-ENOMEM, s') := ⟨_, rfl⟩
  have failed : -ENOMEM ≠ 0 := by decide
  obtain ⟨-, -, latency, -, domain⟩ := platformInit_failure done failed
  exact ⟨s', done, failed, latency, domain⟩

end AwsPlatform
