import AwsPlatform.Reinit
import AwsPlatform.Threads

/-! Where the undefined behaviour of the file can come from: a NULL identity, a failed read of
`product_name`, and the `%lu` of the NCCL version. Without them every call returns. -/
namespace AwsPlatform

/-- From every state where `P` holds, `m` returns, reaching no undefined behaviour, with a result
satisfying `Q`, and leaves `P` holding. -/
def Completes {α : Type} (P : Process → Prop) (Q : α → Prop) (m : PluginM α) : Prop :=
  ∀ s, P s → ∃ a s', m.run s = .ok (a, s') ∧ Q a ∧ P s'

section Completes

variable {α β : Type} {P : Process → Prop} {Q : β → Prop}

theorem Completes.pure {b : β} (holds : Q b) : Completes P Q (pure b : PluginM β) :=
  fun s start => ⟨b, s, rfl, holds, start⟩

theorem Completes.done {b : β} : Completes P (fun _ => True) (Pure.pure b : PluginM β) :=
  Completes.pure trivial

theorem Completes.get : Completes P P (get : PluginM Process) :=
  fun s start => ⟨s, s, rfl, start, start⟩

theorem Completes.set {s' : Process} (holds : P s') :
    Completes P (fun _ => True) (set s' : PluginM PUnit) :=
  fun _ _ => ⟨⟨⟩, s', rfl, trivial, holds⟩

theorem Completes.modify {f : Process → Process} (keeps : ∀ s, P s → P (f s)) :
    Completes P (fun _ => True) (modify f : PluginM PUnit) :=
  fun s start => ⟨⟨⟩, f s, rfl, trivial, keeps s start⟩

theorem Completes.of_run {m : PluginM α} {f : α → PluginM β} {s s₁ : Process}
    {a : α} (ran : m.run s = .ok (a, s₁)) (rest : Completes P Q (f a)) (mid : P s₁) :
    ∃ b s', (m >>= f).run s = .ok (b, s') ∧ Q b ∧ P s' := by
  obtain ⟨b, s', done, post, last⟩ := rest s₁ mid
  exact ⟨b, s', by simp only [StateT.run_bind, ran, ok_bind, done], post, last⟩

theorem Completes.bind {R : α → Prop} {m : PluginM α} {f : α → PluginM β}
    (first : Completes P R m) (rest : ∀ a, R a → Completes P Q (f a)) :
    Completes P Q (m >>= f) := fun s start => by
  obtain ⟨a, s₁, ran, holds, mid⟩ := first s start
  exact Completes.of_run ran (rest a holds) mid

theorem Completes.ite {c : Prop} [Decidable c] {t e : PluginM β} (yes : Completes P Q t)
    (no : Completes P Q e) : Completes P Q (if c then t else e) := by
  split
  · exact yes
  · exact no

end Completes

theorem Completes.thenIfOk {P : Process → Prop} {step rest : PluginM Int}
    (first : Completes P (fun _ => True) step) (second : Completes P (fun _ => True) rest) :
    Completes P (fun _ => True) (thenIfOk step rest) :=
  Completes.bind first fun _ _ => Completes.ite Completes.done second

/-- A run of calls that each complete from an invariant reaches no fault. -/
theorem runAll_completes {α : Type} {P : Process → Prop} {ops : List (PluginM α)}
    (each : ∀ op ∈ ops, Completes P (fun _ => True) op) (s : Process) (start : P s) :
    (runAll ops s).2.2 = none := by
  induction ops generalizing s with
  | nil => rfl
  | cons op ops ih =>
    obtain ⟨a, s', ran, -, mid⟩ := each op (List.mem_cons_self _ _) s start
    simp only [runAll, ran]
    exact ih (fun o mem => each o (List.mem_cons_of_mem _ mem)) s' mid

/-! ## The identity as a string -/

/-- The identity is cached, and is a string: every `strcmp` or `%s` of it reads characters. -/
def Identified (s : Process) : Prop := s.typeInit = true ∧ s.platformType.isSome

theorem getPlatformType_completes (w : World) :
    Completes Identified (fun type => type.isSome) (getPlatformType w) := fun s start =>
  ⟨s.platformType, s, by rw [getPlatformType_run, if_pos start.1], start.2, start⟩

theorem getPlatformData_completes (w : World) :
    Completes Identified (fun _ => True) (getPlatformData w) := fun s start => by
  rw [getPlatformData_run]
  split
  · exact ⟨_, _, rfl, trivial, start⟩
  · obtain ⟨type, named⟩ := Option.isSome_iff_exists.mp start.2
    simp only [getPlatformType_run, start.1, named, if_true, Except.map]
    exact ⟨_, _, rfl, trivial, rfl, rfl⟩

/-- The first lookup of `platform_init` leaves the identity a string when the cached identity is
one, or when none is cached and the product file reads as one. -/
theorem getPlatformData_identifies {w : World} {s : Process} (inv : CacheInv s)
    (cached : s.typeInit = true → s.platformType.isSome)
    (readable : s.typeInit = false → ∃ type, readPlatformType w = .ok (some type)) :
    ∃ data s', (getPlatformData w).run s = .ok (data, s') ∧ Identified s' := by
  cases init : s.typeInit
  · obtain ⟨type, read⟩ := readable init
    have unread : s.dataInit = false := by
      cases data : s.dataInit
      · rfl
      · simp [inv.data_init data] at init
    rw [getPlatformData_run, if_neg (by simp [unread]), getPlatformType_run,
      if_neg (by simp [init])]
    simp only [read, Except.map]
    exact ⟨_, _, rfl, rfl, rfl⟩
  · obtain ⟨data, s', done, -, last⟩ := getPlatformData_completes w s ⟨init, cached init⟩
    exact ⟨data, s', done, last⟩

theorem setEnv_completes (w : World) (name value : String) (overwrite : Bool) :
    Completes Identified (fun _ => True) (setEnv w name value overwrite) := fun s start => by
  rw [setEnv_run]
  split
  · exact ⟨_, _, rfl, trivial, start⟩
  · exact ⟨_, _, rfl, trivial, start⟩

theorem logPlatformType_completes (w : World) (rt : Runtime) :
    Completes Identified (fun _ => True) (logPlatformType w rt) :=
  Completes.bind (getPlatformType_completes w) fun type named => by
    split
    next logged => cases type <;> simp_all
    next => exact Completes.done

/-! ## `platform_init` -/

/-- The `%lu` messages of `configure_nvls_option` are not formatted for the version NCCL reports:
no `TRACE` message, and no `INFO` message below 2.18.5. -/
def Runtime.VersionUnlogged (rt : Runtime) : Prop :=
  ∀ version, rt.ncclGetVersion = some (0, version) →
    rt.traceLogged = false ∧ (version < 21805 → rt.infoLogged = false)

theorem logVersion_completes {formatted : Bool} (quiet : formatted = false) :
    Completes Identified (fun _ => True) (logVersion formatted) := by
  subst quiet; exact Completes.done

theorem configureNvlsOption_completes (w : World) {rt : Runtime} (quiet : rt.VersionUnlogged) :
    Completes Identified (fun _ => True) (configureNvlsOption w rt) := by
  refine Completes.bind Completes.get fun _ _ => Completes.ite Completes.done ?_
  split
  · exact Completes.done
  · next ncclRet version reported =>
    split
    · exact Completes.done
    · next succeeded =>
      obtain ⟨trace, info⟩ := quiet version (by rw [reported, not_not.mp succeeded])
      refine Completes.bind (logVersion_completes trace) fun _ _ => ?_
      split
      · next old => exact Completes.bind (logVersion_completes (info old)) fun _ _ =>
          setEnv_completes _ _ _ _
      · exact Completes.bind (logVersion_completes trace) fun _ _ => Completes.done

/-- `configure_nvls_option` reaches undefined behaviour exactly when it formats a `%lu` of the
version: with `NCCL_NVLS_ENABLE` unset and `ncclGetVersion` found and succeeding, at the `TRACE`
level, or at the `INFO` level below 2.18.5. -/
theorem configureNvlsOption_faults_iff (w : World) (rt : Runtime) (s : Process) (fault : Fault) :
    (configureNvlsOption w rt).run s = .error fault ↔
      s.env "NCCL_NVLS_ENABLE" = none ∧ (∃ version, rt.ncclGetVersion = some (0, version) ∧
        (rt.traceLogged = true ∨ version < 21805 ∧ rt.infoLogged = true)) ∧
        fault = .formatMismatch := by
  cases set : s.env "NCCL_NVLS_ENABLE" with
  | some _ => simp [configureNvlsOption, set, pure_eq_ok]
  | none =>
    rcases reported : rt.ncclGetVersion with _ | ⟨ncclRet, version⟩
    · simp [configureNvlsOption, set, reported, pure_eq_ok]
    · by_cases failed : ncclRet = 0
      · cases trace : rt.traceLogged <;> cases info : rt.infoLogged <;>
          by_cases old : version < 21805 <;>
          simp [configureNvlsOption, set, reported, failed, trace, info, old, logVersion, run_throw,
            setEnv_run, pure_eq_ok, @eq_comm _ Fault.formatMismatch fault]
        -- only the quiet run below 2.18.5 is left, with the answer of its `setenv`
        split <;> simp
      · simp [configureNvlsOption, set, reported, failed, pure_eq_ok]

theorem configureCuda_completes (w : World) {rt : Runtime} (quiet : rt.VersionUnlogged)
    (data : Option PlatformEntry) :
    Completes Identified (fun _ => True) (configureCuda w rt data) :=
  have setenv := setEnv_completes w
  Completes.thenIfOk (Completes.bind Completes.get fun _ _ =>
    Completes.ite Completes.done (setenv _ _ _)) <|
  Completes.thenIfOk (configureNvlsOption_completes w quiet) <|
  Completes.thenIfOk (Completes.bind Completes.get fun _ _ =>
    Completes.ite (setenv _ _ _) Completes.done) <|
  Completes.thenIfOk (setenv _ _ _) (setenv _ _ _)

theorem configureTopology_completes (b : Build) (w : World) (rt : Runtime)
    (data : Option PlatformEntry) :
    Completes Identified (fun _ => True) (configureTopology b w rt data) := by
  have log := logPlatformType_completes w rt
  refine Completes.bind Completes.get fun _ _ =>
    Completes.ite (Completes.bind log fun _ _ => Completes.done) ?_
  split
  · exact Completes.done
  · exact Completes.ite Completes.done (Completes.bind log fun _ _ => setEnv_completes _ _ _ _)

/-- A `platform_init` that starts where the identity is, or reads as, a string returns, and
leaves it cached as one. -/
theorem platformInit_identifies {b : Build} {p : Params} {rt : Runtime} {w : World} {s : Process}
    (quiet : b.haveCuda = true → rt.VersionUnlogged) (inv : CacheInv s)
    (cached : s.typeInit = true → s.platformType.isSome)
    (readable : s.typeInit = false → ∃ type, readPlatformType w = .ok (some type)) :
    ∃ ret s', (platformInit b p rt w).run s = .ok (ret, s') ∧ Identified s' := by
  obtain ⟨data, s₁, found, mid⟩ := getPlatformData_identifies inv cached readable
  have provider : Completes Identified (fun _ => True) selectProvider :=
    Completes.bind Completes.get fun _ start => by
      split
      · exact Completes.bind (Completes.set start) fun _ _ => Completes.done
      · exact Completes.done
  suffices ∃ ret s', (platformInit b p rt w).run s = .ok (ret, s') ∧ True ∧ Identified s' by
    obtain ⟨ret, s', done, -, last⟩ := this
    exact ⟨ret, s', done, last⟩
  unfold platformInit
  refine Completes.of_run found (Completes.bind provider fun _ _ => ?_) mid
  have cuda : Completes Identified (fun _ => True)
      (if b.haveCuda then configureCuda w rt data else pure 0) := by
    split
    · next built => exact configureCuda_completes w (quiet built) data
    · exact Completes.done
  exact Completes.thenIfOk cuda <|
    Completes.thenIfOk (configureTopology_completes b w rt data) <|
    Completes.bind (Completes.modify fun _ start => start) fun _ _ => Completes.done

/-! ## `platform_config_endpoint` -/

theorem checkEndpoint_completes (b : Build) (p : Params) (call : EndpointCall) (ep : Endpoint) :
    Completes Identified (fun _ => True) (checkEndpoint b p call ep) :=
  have validate : Completes Identified (fun _ => True) (validateRdmaWrite b ep) :=
    Completes.ite (Completes.bind (Completes.modify fun _ start => start) fun _ _ =>
      Completes.done) Completes.done
  have gdr : Completes Identified (fun _ => True) (gdrMissing p call) :=
    Completes.ite (Completes.bind (getPlatformData_completes _) fun _ _ => Completes.done)
      Completes.done
  Completes.ite Completes.done <| Completes.bind gdr fun _ _ =>
  Completes.ite Completes.done <| Completes.bind Completes.get fun _ _ =>
  Completes.bind (Completes.ite validate Completes.done) fun _ _ =>
  Completes.ite Completes.done <| Completes.ite Completes.done Completes.done

theorem negotiateEndpoint_completes (b : Build) (w : World) (ep : Endpoint) (protocol : String)
    (optname : Option EpOption) :
    Completes Identified (fun _ => True) (negotiateEndpoint b w ep protocol optname) := by
  have setopt : ∀ opt, Completes Identified (fun _ => True) (fiSetopt ep opt) := fun _ =>
    Completes.bind (Completes.modify fun _ start => start) fun _ _ => Completes.done
  have inorder : Completes Identified (fun _ => True) (tryInorder b ep optname) := by
    cases optname
    · exact Completes.done
    · exact Completes.ite (Completes.bind (setopt _) fun _ _ => Completes.done) Completes.done
  have proto : Completes Identified (fun _ => True) (configureNcclProto w) :=
    Completes.bind Completes.get fun _ _ => Completes.ite Completes.done (setEnv_completes _ _ _ _)
  have ordering : Completes Identified (fun _ => True) (configureOrdering b w ep optname) :=
    Completes.bind Completes.get fun _ _ => Completes.ite (Completes.bind inorder fun _ _ =>
      Completes.ite Completes.done <| Completes.ite Completes.done <| Completes.ite
        (Completes.bind (Completes.modify fun _ start => start) fun _ _ =>
          Completes.ite Completes.done (Completes.bind proto fun _ _ => Completes.done))
        Completes.done) Completes.done
  have rest : Completes Identified (fun _ => True) (orderThenSize b w ep protocol optname) :=
    Completes.bind ordering fun _ _ => Completes.ite Completes.done <| Completes.ite
      (Completes.ite (Completes.bind (setopt _) fun _ _ => Completes.done) Completes.done)
      Completes.done
  have exempt : Completes Identified (fun _ => True) (modify Process.exemptP5 : PluginM Unit) :=
    Completes.modify fun s start => by
      unfold Process.exemptP5
      split <;> exact start
  refine Completes.bind (Completes.bind Completes.get fun _ _ => Completes.ite
    (Completes.bind (getPlatformType_completes w) fun type named => ?_) Completes.done) fun _ _ =>
    Completes.ite (Completes.bind exempt fun _ _ => rest) rest
  cases type
  · simp at named
  · exact Completes.done

theorem platformConfigEndpoint_completes (b : Build) (p : Params) (call : EndpointCall) :
    Completes Identified (fun _ => True) (platformConfigEndpoint b p call) := by
  unfold platformConfigEndpoint
  split
  · exact Completes.done
  · refine Completes.bind (checkEndpoint_completes b p call _) fun checked _ => ?_
    cases checked with
    | exit => exact Completes.done
    | negotiate =>
      exact Completes.bind Completes.get fun _ _ => negotiateEndpoint_completes _ _ _ _ _

/-- Once the identity reads as a string, and with the `%lu` messages of a CUDA build unformatted,
no run of the plugin reaches undefined behaviour: `platform_init` and every later
`platform_config_endpoint` return, whatever the worlds of the endpoint calls answer, since the
identity stays cached. -/
theorem pluginCalls_no_fault (b : Build) (p : Params) (rt : Runtime) (w : World)
    (calls : List EndpointCall) {s : Process} (quiet : b.haveCuda = true → rt.VersionUnlogged)
    (inv : CacheInv s)
    (cached : s.typeInit = true → s.platformType.isSome)
    (readable : s.typeInit = false → ∃ type, readPlatformType w = .ok (some type)) :
    (runAll (pluginCalls b p rt w calls) s).2.2 = none := by
  obtain ⟨ret, s₁, init, last⟩ := @platformInit_identifies b p rt w s quiet inv cached readable
  simp only [pluginCalls, runAll, init]
  refine runAll_completes (fun op mem => ?_) s₁ last
  obtain ⟨call, -, rfl⟩ := List.mem_map.mp mem
  exact platformConfigEndpoint_completes b p call

/-- The run that faults on a host without `product_name`, with the product file readable when
`platform_init` runs: the same endpoint call, made on a host where `product_name` cannot be
opened, reaches no undefined behaviour, since the identity stays cached. -/
theorem pluginCalls_no_fault_p4d :
    let b : Build := ⟨true, true, true, true, true, "/usr/share/aws-ofi-nccl/xml"⟩
    let w : World := ⟨some ⟨"p4d.24xlarge\n".toList, false⟩, true, fun _ => true, fun _ => true⟩
    let call : EndpointCall := ⟨"efa", some orderedEndpoint, .supported, unidentifiedWorld⟩
    (runAll (pluginCalls b ⟨0, 0, -1, some "RDMA", -1⟩ ⟨1, 18, some (0, 21805), true, false⟩ w
      [call, call]) (Process.initial (fun _ => none) none 0 (-1) "RDMA" (-1))).2.2 = none :=
  pluginCalls_no_fault _ _ _ _ _ (fun _ _ reported => ⟨rfl, fun old => absurd old (by
    obtain rfl := (Prod.mk.inj (Option.some.inj reported)).2; decide)⟩)
    (cacheInv_initial _ _ _ _ _ _)
    (fun fresh => absurd fresh (by decide)) fun _ => ⟨_, rfl⟩

/-! ## Threads -/

/-- From an identified process, a thread that has not returned takes its step, and leaves the
process identified. -/
theorem Thread.step_completes (b : Build) (p : Params) (chosen : Nat) {s : Process}
    (identified : Identified s) {thread : Thread} (running : ∀ ret, thread.pc ≠ .returned ret) :
    ∃ pc s' ran, thread.step b p chosen s = some (pc, s', ran) ∧ Identified s' := by
  obtain ⟨call, _ | ⟨ep, optname⟩ | ret⟩ := thread
  · simp only [Thread.step]
    split
    next => exact ⟨_, _, _, rfl, identified⟩
    next ep _ =>
      obtain ⟨checked, s', ran, -, last⟩ := checkEndpoint_completes b p call ep s identified
      cases checked <;> simp only [ran] <;> exact ⟨_, _, _, rfl, last⟩
  · obtain ⟨ret, s', ran, -, last⟩ :=
      negotiateEndpoint_completes b call.world ep s.ncclOfiSelectedProtocol optname s identified
    simp only [Thread.step, ran]
    exact ⟨_, _, _, rfl, last⟩
  · exact absurd rfl (running ret)

theorem Domain.step_completes (b : Build) (p : Params) {d : Domain} {chosen : Nat}
    {thread : Thread} (identified : Identified d.process) (found : d.threads[chosen]? = some thread)
    (running : ∀ ret, thread.pc ≠ .returned ret) :
    ∃ d', d.step b p chosen = some d' ∧ Identified d'.process := by
  obtain ⟨pc, s', ran, stepped, last⟩ := Thread.step_completes b p chosen identified running
  exact ⟨⟨s', d.threads.set chosen ⟨thread.call, pc⟩, d.history ++ ran.toList⟩,
    by simp only [Domain.step, found, stepped, Option.map_some'], last⟩

/-- Once the identity is cached as a string, threads configuring endpoints reach no undefined
behaviour, however their steps interleave: a schedule stops short only where it picks a thread
that has returned, or one that does not exist. -/
theorem interleaved_calls_no_fault (b : Build) (p : Params) (schedule : List Nat) {d : Domain}
    (identified : Identified d.process) (stopped : d.runSchedule b p schedule = none) :
    ∃ ran chosen rest d₁, schedule = ran ++ chosen :: rest ∧ d.runSchedule b p ran = some d₁ ∧
      ∀ thread, d₁.threads[chosen]? = some thread → ∃ ret, thread.pc = .returned ret := by
  induction schedule generalizing d with
  | nil => simp [Domain.runSchedule] at stopped
  | cons chosen rest ih =>
    have finished : (∀ thread, d.threads[chosen]? = some thread →
        ∃ ret, thread.pc = .returned ret) ∨
        ∃ thread, d.threads[chosen]? = some thread ∧ ∀ ret, thread.pc ≠ .returned ret := by
      cases found : d.threads[chosen]? with
      | none => exact .inl fun _ missing => by simp at missing
      | some thread =>
        by_cases returned : ∃ ret, thread.pc = .returned ret
        · exact .inl fun _ same => Option.some.inj same ▸ returned
        · exact .inr ⟨thread, rfl, not_exists.mp returned⟩
    rcases finished with finished | ⟨thread, found, running⟩
    · exact ⟨[], chosen, rest, d, rfl, rfl, finished⟩
    · obtain ⟨d', stepped, last⟩ := Domain.step_completes b p identified found running
      have stopped' : d'.runSchedule b p rest = none := by
        simpa [Domain.runSchedule, stepped] using stopped
      obtain ⟨ran, chosen', rest', d₁, split, ran₁, finished⟩ := ih last stopped'
      exact ⟨chosen :: ran, chosen', rest', d₁, by rw [split]; rfl,
        by simp [Domain.runSchedule, stepped, ran₁], finished⟩

/-- Two threads on a p4d host whose `product_name` can no longer be opened: the schedule that
runs both calls through and then picks the first thread again stops at that last pick, which
finds the thread returned. -/
theorem interleaved_calls_no_fault_two_threads :
    let b : Build := ⟨true, true, true, true, true, "/usr/share/aws-ofi-nccl/xml"⟩
    let thread : Thread := ⟨⟨"efa", some orderedEndpoint, .supported, unidentifiedWorld⟩, .start⟩
    let d : Domain := ⟨{ Process.initial (fun _ => none) none 0 (-1) "SENDRECV" (-1) with
      typeInit := true, platformType := some "p4d.24xlarge" }, [thread, thread], []⟩
    ∃ ran chosen rest d₁, [0, 1, 1, 0, 0] = ran ++ chosen :: rest ∧
      d.runSchedule b ⟨0, 0, -1, none, -1⟩ ran = some d₁ ∧
      ∀ thread, d₁.threads[chosen]? = some thread → ∃ ret, thread.pc = .returned ret :=
  interleaved_calls_no_fault _ _ _ ⟨rfl, rfl⟩ rfl

end AwsPlatform
