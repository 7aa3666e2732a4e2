import AwsPlatform.Catalog

/-! The process `platform-aws.c` runs in: its statics, the environment, the plugin globals and a
log of external calls; what the outside answers is a `World`. -/
namespace AwsPlatform

/-- The endpoint options the code gets or sets with `fi_getopt`/`fi_setopt`. -/
inductive EpOption where
  | sendrecvInorderAligned128Bytes
  | writeInorderAligned128Bytes
  | maxMsgSize
  | efaEmulatedWrite
  deriving DecidableEq, Repr

/-- A call to the outside world, logged as the process makes it. -/
inductive ExtCall where
  | fopen (path : String)
  | fiGetopt (opt : EpOption)
  | fiSetopt (opt : EpOption) (ret : Int)
  deriving DecidableEq, Repr

/-- The state `platform-aws.c` reads and writes. -/
structure Process where
  /-- `init` and `platform_type` of `get_platform_type`. -/
  typeInit : Bool
  platformType : Option String
  /-- `init` and `platform_data` of `get_platform_data`. -/
  dataInit : Bool
  platformData : Option PlatformEntry
  /-- `nccl_proto_configured` and `need_ordering` of `platform_config_endpoint`. -/
  ncclProtoConfigured : Bool
  needOrdering : Bool
  env : Env
  /-- `*provider_filter` of the caller of `platform_init`. -/
  providerFilter : Option String
  nicDupConns : Int
  netLatency : Int
  ncclOfiSelectedProtocol : String
  domainPerThread : Int
  /-- Calls made so far, the latest first. -/
  calls : List ExtCall

/-- A process before any platform code ran: every static zero, the globals as the plugin set
them from its parameters and the user's environment. -/
def Process.initial (env : Env) (providerFilter : Option String)
    (nicDupConns netLatency : Int) (protocol : String) (domainPerThread : Int) : Process :=
  ⟨false, none, false, none, false, false, env, providerFilter, nicDupConns, netLatency,
    protocol, domainPerThread, []⟩

/-- What the outside world answers during one call. -/
structure World where
  /-- `/sys/devices/virtual/dmi/id/product_name`, `none` when `fopen` fails. -/
  productName : Option File
  malloc : Bool
  /-- Whether `realloc` to a given size succeeds. -/
  realloc : Nat → Bool
  /-- Whether `setenv` of a variable gets the memory it needs. -/
  setenvOk : String → Bool

/-- The configure-time choices of the build. -/
structure Build where
  haveCuda : Bool
  /-- `HAVE_DECL_FI_OPT_EFA_EMULATED_WRITE` and its siblings. -/
  declEmulatedWrite : Bool
  declSendrecvInorder : Bool
  declWriteInorder : Bool
  declMaxMsgSize : Bool
  /-- `XML_DIR`, where the topology files are installed. -/
  xmlDir : String

/-- The `OFI_NCCL_*` parameters the code reads, as `ofi_nccl_*()` return them. -/
structure Params where
  disableGdrRequiredCheck : Int
  disableNativeRdmaCheck : Int
  netLatency : Int
  protocol : Option String
  domainPerThread : Int

/-- Platform code runs on the process state and may stop at undefined behaviour. -/
abbrev PluginM := StateT Process (Except Fault)

@[simp] theorem ok_bind {ε α β : Type} (a : α) (f : α → Except ε β) :
    (Except.ok a >>= f) = f a := rfl

@[simp] theorem error_bind {ε α β : Type} (e : ε) (f : α → Except ε β) :
    (Except.error e >>= f) = Except.error e := rfl

theorem pure_eq_ok {ε α : Type} (a : α) : (pure a : Except ε α) = .ok a := rfl

theorem run_throw {α : Type} (fault : Fault) (s : Process) :
    (throw fault : PluginM α).run s = .error fault := rfl

theorem map_eq_ok {ε α β : Type} {f : α → β} {x : Except ε α} {b : β}
    (mapped : f <$> x = .ok b) : ∃ a, x = .ok a ∧ f a = b := by
  cases x with
  | error => cases mapped
  | ok a => exact ⟨a, rfl, Except.ok.inj mapped⟩

/-- `ret = setenv(name, value, overwrite)` with `ret = -errno` on failure: 0 or `-ENOMEM`. -/
def setEnv (w : World) (name value : String) (overwrite : Bool) : PluginM Int := do
  let s ← get
  match setenv s.env (w.setenvOk name) name value overwrite with
  | some env => set { s with env }; pure 0
  | none => pure (-ENOMEM)

theorem setEnv_run (w : World) (name value : String) (overwrite : Bool) (s : Process) :
    (setEnv w name value overwrite).run s =
      match setenv s.env (w.setenvOk name) name value overwrite with
      | some env => .ok (0, { s with env })
      | none => .ok (-ENOMEM, s) := by
  cases stored : setenv s.env (w.setenvOk name) name value overwrite <;>
    simp [setEnv, stored] <;> rfl

theorem setEnv_ok {w : World} {name value : String} {overwrite : Bool} {s s' : Process} {ret : Int}
    (done : (setEnv w name value overwrite).run s = .ok (ret, s')) :
    s' = { s with env := s'.env } ∧
      ∀ n v, s.env n = some v → (n = name → overwrite = false) → s'.env n = some v := by
  rw [setEnv_run] at done
  split at done <;> cases done
  · exact ⟨rfl, fun _ _ set guard => setenv_keeps ‹_› set guard⟩
  · exact ⟨rfl, fun _ _ set _ => set⟩

/-- Runs calls one after another, stopping at the first fault: the answers of the calls that
returned, the state after the last of them, and the fault if one ended the run. -/
def runAll {α : Type} : List (PluginM α) → Process → List α × Process × Option Fault
  | [], s => ([], s, none)
  | op :: ops, s =>
    match op.run s with
    | .error fault => ([], s, some fault)
    | .ok (a, s') =>
      let (answers, last, fault) := runAll ops s'
      (a :: answers, last, fault)

/-! ## Relations every returning call establishes -/

section Keeps

variable {α β : Type} (R : Process → Process → Prop) [IsPreorder Process R]

/-- Every returning run of `m` relates the state it starts in to the state it ends in. -/
def Keeps (m : PluginM α) : Prop := ∀ s a s', m.run s = .ok (a, s') → R s s'

theorem Keeps.pure (a : α) : Keeps R (pure a : PluginM α) := by
  intro s _ s' done
  cases done
  exact IsRefl.refl s

theorem Keeps.get : Keeps R (get : PluginM Process) := by
  intro s _ s' done
  cases done
  exact IsRefl.refl s

omit [IsPreorder Process R] in
theorem Keeps.throw (fault : Fault) : Keeps R (throw fault : PluginM α) := by
  intro _ _ _ done
  cases done

variable {R}

theorem Keeps.bind {m : PluginM α} {f : α → PluginM β} (first : Keeps R m)
    (rest : ∀ a, Keeps R (f a)) : Keeps R (m >>= f) := by
  intro s b s' done
  cases ran : m.run s with
  | error => simp [ran] at done
  | ok r =>
    obtain ⟨a, s₁⟩ := r
    simp only [StateT.run_bind, ran, ok_bind] at done
    exact IsTrans.trans _ _ _ (first s a s₁ ran) (rest a s₁ b s' done)

omit [IsPreorder Process R] in
theorem Keeps.modify {f : Process → Process} (each : ∀ s, R s (f s)) :
    Keeps R (modify f : PluginM Unit) := by
  intro s _ s' done
  cases done
  exact each s

omit [IsPreorder Process R] in
theorem Keeps.mono {R' : Process → Process → Prop} (sub : ∀ s s', R s s' → R' s s')
    {m : PluginM α} (keeps : Keeps R m) : Keeps R' m :=
  fun s a s' done => sub s s' (keeps s a s' done)

omit [IsPreorder Process R] in
/-- A step that reads the state first may use what it read. -/
theorem Keeps.getThen {f : Process → PluginM α}
    (each : ∀ s a s', (f s).run s = .ok (a, s') → R s s') :
    Keeps R (MonadState.get >>= f) :=
  fun s a s' done => each s a s' done

omit [IsPreorder Process R] in
theorem Keeps.ite {c : Prop} [Decidable c] {t e : PluginM α} (yes : Keeps R t) (no : Keeps R e) :
    Keeps R (if c then t else e) := by
  split
  · exact yes
  · exact no

/-- A relation every call keeps holds between the start of a run and its last state. -/
theorem Keeps.runAll {ops : List (PluginM α)} (each : ∀ op ∈ ops, Keeps R op) (s : Process) :
    R s (AwsPlatform.runAll ops s).2.1 := by
  induction ops generalizing s with
  | nil => exact IsRefl.refl s
  | cons op ops ih =>
    simp only [AwsPlatform.runAll]
    split
    · exact IsRefl.refl s
    · rename_i a s' done
      exact IsTrans.trans _ _ _ (each op (by simp) s a s' done)
        (ih (fun o mem => each o (List.mem_cons_of_mem _ mem)) s')

end Keeps

/-- An invariant as a relation: it holds after a step whenever it held before. -/
def Preserves (P : Process → Prop) (s s' : Process) : Prop := P s → P s'

instance (P : Process → Prop) : IsPreorder Process (Preserves P) where
  refl _ := id
  trans _ _ _ first second := second ∘ first

/-- An invariant every returning call keeps holds in the last state of every run. -/
theorem runAll_invariant {α : Type} (P : Process → Prop) {ops : List (PluginM α)}
    (each : ∀ op ∈ ops, Keeps (Preserves P) op) (s : Process) (start : P s) :
    P (runAll ops s).2.1 :=
  Keeps.runAll each s start

end AwsPlatform
