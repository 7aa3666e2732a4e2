import AwsPlatform.Process

/-! `get_platform_type` and `get_platform_data`: the identity read once from the DMI product file,
and its catalog entry, each cached in function-local statics. -/
namespace AwsPlatform

def productNamePath : String := "/sys/devices/virtual/dmi/id/product_name"

/-- `platform_type_len`: the first allocation, and the step the buffer grows by. -/
def platformTypeLen : Nat := 64

/-- The buffer `platform_type` while the first line is read: the characters stored at
`0..len`, and the size of the allocation, `none` once a failed `realloc` left it NULL. -/
structure ReadBuf where
  chars : List Char
  size : Option Nat

/-- A store at index `i` of an allocation of `size` bytes. -/
def storeAt (size : Option Nat) (i : Nat) : Except Fault Unit :=
  match size with
  | none => .error .nullWrite
  | some n => if i < n then .ok () else .error .overflow

/-- `platform_type[len++] = ch;` then, once `len >= platform_type_len`,
`platform_type = realloc(platform_type, len + platform_type_len)`. -/
def ReadBuf.push (realloc : Nat → Bool) (buf : ReadBuf) (ch : Char) : Except Fault ReadBuf := do
  storeAt buf.size buf.chars.length
  let len := buf.chars.length + 1
  if platformTypeLen ≤ len then
    pure ⟨buf.chars ++ [ch],
      if realloc (len + platformTypeLen) then some (len + platformTypeLen) else none⟩
  else pure ⟨buf.chars ++ [ch], buf.size⟩

/-- `while ((feof(fd) == 0) && (ferror(fd) == 0) && ((ch = fgetc(fd)) != '\n'))` over the bytes
still in the file, returning the buffer and `ferror(fd)`. At the end of the file `fgetc` returns
`EOF` and sets an indicator that only the next test sees, so the body stores `(char)EOF` first. -/
def readLoop (realloc : Nat → Bool) (failsAtEnd : Bool) :
    List Char → ReadBuf → Except Fault (ReadBuf × Bool)
  | ch :: rest, buf =>
    if ch = '\n' then .ok (buf, false)
    else (buf.push realloc ch).bind (readLoop realloc failsAtEnd rest)
  | [], buf => (buf.push realloc eofChar).map (·, failsAtEnd)

/-- The first call's work once `init` is set: open the file, allocate, read the first line,
store its `'\0'`, and drop the buffer (NULL) on a read error. -/
def readPlatformType (w : World) : Except Fault (Option String) :=
  match w.productName, w.malloc with
  | none, _ => .ok none
  | some _, false => .ok none
  | some file, true => do
    let (buf, ferror) ← readLoop w.realloc file.failsAtEnd file.content ⟨[], some platformTypeLen⟩
    storeAt buf.size buf.chars.length
    pure (if ferror then none else some (String.mk buf.chars))

def getPlatformType (w : World) : PluginM (Option String) := do
  let s ← get
  if s.typeInit then pure s.platformType
  else do
    set { s with typeInit := true, calls := .fopen productNamePath :: s.calls }
    let type ← readPlatformType w
    modify fun s => { s with platformType := type }
    pure type

def getPlatformData (w : World) : PluginM (Option PlatformEntry) := do
  let s ← get
  if s.dataInit then pure s.platformData
  else do
    set { s with dataInit := true }
    match ← getPlatformType w with
    | none => pure none
    | some type =>
      let s ← get
      let data := scanPlatformData type s.platformData
      set { s with platformData := data }
      pure data

theorem getPlatformType_run (w : World) (s : Process) :
    (getPlatformType w).run s =
      if s.typeInit then .ok (s.platformType, s)
      else (readPlatformType w).map fun type =>
        (type, { s with typeInit := true, platformType := type,
                        calls := .fopen productNamePath :: s.calls }) := by
  by_cases init : s.typeInit <;> simp [getPlatformType, init]
  · rfl
  · cases readPlatformType w <;> rfl

theorem getPlatformData_run (w : World) (s : Process) :
    (getPlatformData w).run s =
      if s.dataInit then .ok (s.platformData, s)
      else ((getPlatformType w).run { s with dataInit := true }).map fun (type, s') =>
        match type with
        | none => (none, s')
        | some type => (scanPlatformData type s'.platformData,
            { s' with platformData := scanPlatformData type s'.platformData }) := by
  by_cases init : s.dataInit <;> simp [getPlatformData, init]
  · rfl
  · cases (getPlatformType w).run { s with dataInit := true } with
    | error => rfl
    | ok r => obtain ⟨_ | type, s'⟩ := r <;> rfl

/-- `get_platform_type`'s answer is its cached value, or the first read's, after which only the
identity statics and the log have changed. -/
theorem getPlatformType_ok {w : World} {s s' : Process} {type : Option String}
    (done : (getPlatformType w).run s = .ok (type, s')) :
    (s.typeInit = true → type = s.platformType) ∧
      s' = { s with typeInit := true, platformType := type,
                    calls := if s.typeInit then s.calls else .fopen productNamePath :: s.calls } := by
  rw [getPlatformType_run] at done
  by_cases init : s.typeInit <;> simp only [init, if_true, if_false] at done ⊢
  · cases done
    simp [← init]
  · cases read : readPlatformType w <;> simp [read, Except.map] at done
    obtain ⟨rfl, rfl⟩ := done
    simp

/-! ## The buffer stays ahead of the loop -/

/-- The allocation is at least `platform_type_len` and ends past the next store. -/
def ReadBuf.Roomy (buf : ReadBuf) : Prop :=
  ∃ size, buf.size = some size ∧ platformTypeLen ≤ size ∧ buf.chars.length < size

theorem ReadBuf.push_ok {realloc : Nat → Bool} (granted : ∀ n, realloc n = true) {buf : ReadBuf}
    (roomy : buf.Roomy) (ch : Char) :
    ∃ buf', buf.push realloc ch = .ok buf' ∧ buf'.Roomy ∧ buf'.chars = buf.chars ++ [ch] := by
  obtain ⟨size, sized, least, below⟩ := roomy
  by_cases grow : platformTypeLen ≤ buf.chars.length + 1
  · refine ⟨⟨buf.chars ++ [ch], some (buf.chars.length + 1 + platformTypeLen)⟩, ?_,
      ⟨_, rfl, by omega, by simp [platformTypeLen]⟩, rfl⟩
    simp [ReadBuf.push, storeAt, sized, below, grow, granted]
  · refine ⟨⟨buf.chars ++ [ch], buf.size⟩, ?_, ⟨size, sized, least, by simp; omega⟩, rfl⟩
    simp [ReadBuf.push, storeAt, sized, below, grow]

/-- What the loop stores of the file: the bytes before the first newline, or, when there is
none, every byte followed by `(char)EOF`. -/
def storedLine (content : List Char) : List Char :=
  if '\n' ∈ content then content.takeWhile (· != '\n') else content ++ [eofChar]

/-- The read loop with every `realloc` granted: it keeps the buffer roomy, stores `storedLine`,
and ends with `ferror` set exactly when the file has no newline and reading past it fails. -/
theorem readLoop_ok {realloc : Nat → Bool} (granted : ∀ n, realloc n = true) (failsAtEnd : Bool)
    (content : List Char) (buf : ReadBuf) (roomy : buf.Roomy) :
    ∃ buf', readLoop realloc failsAtEnd content buf =
        .ok (buf', !(content.contains '\n') && failsAtEnd) ∧
      buf'.Roomy ∧ buf'.chars = buf.chars ++ storedLine content := by
  induction content generalizing buf with
  | nil =>
    obtain ⟨buf', pushed, roomy', chars⟩ := ReadBuf.push_ok granted roomy eofChar
    exact ⟨buf', by simp [readLoop, pushed, Except.map], roomy', by simp [chars, storedLine]⟩
  | cons ch rest ih =>
    by_cases newline : ch = '\n'
    · subst newline
      exact ⟨buf, by simp [readLoop], roomy, by simp [storedLine]⟩
    · obtain ⟨buf₁, pushed, roomy₁, chars₁⟩ := ReadBuf.push_ok granted roomy ch
      obtain ⟨buf', looped, roomy', chars'⟩ := ih buf₁ roomy₁
      refine ⟨buf', ?_, roomy', ?_⟩
      · simpa [readLoop, newline, pushed, Except.bind, Ne.symm newline] using looped
      · by_cases later : '\n' ∈ rest <;>
          simp [chars', chars₁, storedLine, later, newline, Ne.symm newline]

theorem readLoop_stores_in_bounds (file : File) (realloc : Nat → Bool)
    (granted : ∀ n, realloc n = true) :
    ∃ buf ferror,
      readLoop realloc file.failsAtEnd file.content ⟨[], some platformTypeLen⟩ = .ok (buf, ferror) ∧
      storeAt buf.size buf.chars.length = .ok () := by
  obtain ⟨buf, looped, ⟨size, sized, -, below⟩, -⟩ :=
    readLoop_ok granted file.failsAtEnd file.content ⟨[], some platformTypeLen⟩
      ⟨platformTypeLen, rfl, le_rfl, by simp [platformTypeLen]⟩
  exact ⟨buf, _, looped, by simp [storeAt, sized, below]⟩

/-- A first line of 150 bytes, which makes the loop grow the buffer twice. -/
theorem readLoop_stores_in_bounds_granted :
    (∀ n, (fun _ => true : Nat → Bool) n = true) ∧
      ∃ buf ferror, readLoop (fun _ => true) false (List.replicate 150 'x' ++ ['\n'])
          ⟨[], some platformTypeLen⟩ = .ok (buf, ferror) ∧
        storeAt buf.size buf.chars.length = .ok () :=
  ⟨fun _ => rfl, readLoop_stores_in_bounds ⟨List.replicate 150 'x' ++ ['\n'], false⟩ _ fun _ => rfl⟩

/-- The first read of an opened file, with memory granted: the stored line, unless reading
reached the end of a file without a newline and failed there. -/
theorem readPlatformType_opened {w : World} {file : File} (opened : w.productName = some file)
    (allocated : w.malloc = true) (granted : ∀ n, w.realloc n = true) :
    readPlatformType w = .ok (if !(file.content.contains '\n') && file.failsAtEnd then none
      else some (String.mk (storedLine file.content))) := by
  obtain ⟨buf, looped, ⟨size, sized, -, below⟩, chars⟩ :=
    readLoop_ok granted file.failsAtEnd file.content ⟨[], some platformTypeLen⟩
      ⟨platformTypeLen, rfl, le_rfl, by simp [platformTypeLen]⟩
  simp only [List.nil_append] at chars
  rw [chars] at below
  simp [readPlatformType, opened, allocated, looped, bind, Except.bind, storeAt, sized, below, chars,
    Functor.map, Except.map, pure, Except.pure]

theorem readPlatformType_opened_p5 :
    let w : World := ⟨some ⟨"p5.48xlarge\n".toList, false⟩, true, fun _ => true, fun _ => true⟩
    w.productName = some ⟨"p5.48xlarge\n".toList, false⟩ ∧ w.malloc = true ∧
      (∀ n, w.realloc n = true) ∧
      readPlatformType w = .ok (if !("p5.48xlarge\n".toList.contains '\n') && false then none
        else some (String.mk (storedLine "p5.48xlarge\n".toList))) :=
  ⟨rfl, rfl, fun _ => rfl, readPlatformType_opened rfl rfl fun _ => rfl⟩

/-- A product file whose only line lacks its newline: the first call answers the line with the
byte `(char)EOF` appended. -/
theorem getPlatformType_no_newline :
    (getPlatformType ⟨some ⟨"p5.48xlarge".toList, false⟩, true, fun _ => true, fun _ => true⟩).run'
      (Process.initial (fun _ => none) none 0 (-1) "SENDRECV" (-1)) = .ok (some "p5.48xlarge\xff") := by
  rfl

/-! ## The caches -/

/-- What the identity and catalog statics hold in every reachable state: the catalog entry is
the scan's answer for the cached identity, and the product file was opened once exactly when the
identity was cached. -/
structure CacheInv (s : Process) : Prop where
  data_init : s.dataInit = true → s.typeInit = true
  data_found : s.dataInit = true → s.platformData = s.platformType.bind lastMatch
  data_unset : s.dataInit = false → s.platformData = none
  opened : s.calls.count (.fopen productNamePath) = if s.typeInit then 1 else 0

theorem cacheInv_initial (env : Env) (providerFilter : Option String) (nicDupConns netLatency : Int)
    (protocol : String) (domainPerThread : Int) :
    CacheInv (Process.initial env providerFilter nicDupConns netLatency protocol domainPerThread) :=
  ⟨by simp [Process.initial], by simp [Process.initial], fun _ => rfl, by simp [Process.initial]⟩

theorem CacheInv.log {s : Process} (inv : CacheInv s) {c : ExtCall}
    (other : c ≠ .fopen productNamePath) : CacheInv { s with calls := c :: s.calls } :=
  ⟨inv.data_init, inv.data_found, inv.data_unset,
    by simpa [List.count_cons, other] using inv.opened⟩

/-- Under the invariant, `get_platform_data` answers the last match of the cached identity and
changes nothing but the statics of both caches and the log. -/
theorem getPlatformData_ok {w : World} {s s' : Process} {data : Option PlatformEntry}
    (inv : CacheInv s) (done : (getPlatformData w).run s = .ok (data, s')) :
    ∃ type, (s.typeInit = true → type = s.platformType) ∧ data = type.bind lastMatch ∧
      s' = { s with typeInit := true, platformType := type, dataInit := true,
                    platformData := type.bind lastMatch,
                    calls := if s.typeInit then s.calls else .fopen productNamePath :: s.calls } := by
  rw [getPlatformData_run] at done
  by_cases init : s.dataInit <;> simp only [init, if_true, if_false] at done
  · cases done
    have found := inv.data_found init
    have typed := inv.data_init init
    refine ⟨s.platformType, fun _ => rfl, found, ?_⟩
    cases s
    simp_all
  · cases found : (getPlatformType w).run { s with dataInit := true } with
    | error => rw [found] at done; cases done
    | ok r =>
      obtain ⟨type, s₁⟩ := r
      rw [found] at done
      obtain ⟨cached, rfl⟩ := getPlatformType_ok found
      have unset := inv.data_unset (by simpa using init)
      refine ⟨type, cached, ?_⟩
      cases type <;> simp only [Except.map, Except.ok.injEq, Prod.mk.injEq] at done <;>
        obtain ⟨rfl, rfl⟩ := done <;> simp [unset, scanPlatformData_none]

theorem CacheInv.getPlatformType {w : World} {s s' : Process} {type : Option String}
    (inv : CacheInv s) (done : (getPlatformType w).run s = .ok (type, s')) : CacheInv s' := by
  obtain ⟨cached, rfl⟩ := getPlatformType_ok done
  by_cases init : s.typeInit
  · have same := cached init
    subst same
    exact ⟨by simp, fun data => by simpa using inv.data_found data, by simpa using inv.data_unset,
      by simpa [init] using inv.opened⟩
  · have unset : s.dataInit = false := by
      cases d : s.dataInit
      · rfl
      · exact absurd (inv.data_init d) init
    exact ⟨by simp, by simp [unset], fun _ => by simpa using inv.data_unset unset,
      by simpa [init] using inv.opened⟩

theorem CacheInv.getPlatformData {w : World} {s s' : Process} {data : Option PlatformEntry}
    (inv : CacheInv s) (done : (getPlatformData w).run s = .ok (data, s')) : CacheInv s' := by
  obtain ⟨type, cached, -, rfl⟩ := getPlatformData_ok inv done
  refine ⟨by simp, by simp, by simp, ?_⟩
  by_cases init : s.typeInit <;> simpa [init] using inv.opened

/-- A step after which `get_platform_type` still answers the identity it had cached. -/
def KeepsIdentity (s s' : Process) : Prop :=
  s.typeInit = true → s'.typeInit = true ∧ s'.platformType = s.platformType

/-- A step after which `get_platform_data` still answers the catalog entry it had cached. -/
def KeepsCatalog (s s' : Process) : Prop :=
  s.dataInit = true → s'.dataInit = true ∧ s'.platformData = s.platformData

def KeepsCaches (s s' : Process) : Prop := KeepsIdentity s s' ∧ KeepsCatalog s s'

instance : IsPreorder Process KeepsIdentity where
  refl _ cached := ⟨cached, rfl⟩
  trans _ _ _ first second cached :=
    ⟨(second (first cached).1).1, (second (first cached).1).2.trans (first cached).2⟩

instance : IsPreorder Process KeepsCatalog where
  refl _ cached := ⟨cached, rfl⟩
  trans _ _ _ first second cached :=
    ⟨(second (first cached).1).1, (second (first cached).1).2.trans (first cached).2⟩

instance : IsPreorder Process KeepsCaches where
  refl s := ⟨IsRefl.refl s, IsRefl.refl s⟩
  trans _ _ _ first second :=
    ⟨IsTrans.trans _ _ _ first.1 second.1, IsTrans.trans _ _ _ first.2 second.2⟩

theorem KeepsCaches.of_eq {s s' : Process} (typeInit : s'.typeInit = s.typeInit)
    (type : s'.platformType = s.platformType) (dataInit : s'.dataInit = s.dataInit)
    (data : s'.platformData = s.platformData) : KeepsCaches s s' :=
  ⟨fun cached => ⟨typeInit.trans cached, type⟩, fun cached => ⟨dataInit.trans cached, data⟩⟩

theorem getPlatformType_keepsCaches {w : World} {s s' : Process} {type : Option String}
    (done : (getPlatformType w).run s = .ok (type, s')) : KeepsCaches s s' := by
  obtain ⟨same, rfl⟩ := getPlatformType_ok done
  exact ⟨fun cached => ⟨rfl, same cached⟩, fun cached => ⟨cached, rfl⟩⟩

theorem getPlatformData_keepsCaches {w : World} {s s' : Process} {data : Option PlatformEntry}
    (done : (getPlatformData w).run s = .ok (data, s')) : KeepsCaches s s' := by
  rw [getPlatformData_run] at done
  split at done
  · cases done; exact IsRefl.refl s
  · rename_i unread
    cases found : (getPlatformType w).run { s with dataInit := true } with
    | error => rw [found] at done; cases done
    | ok r =>
      obtain ⟨type, s₁⟩ := r
      obtain ⟨same, rfl⟩ := getPlatformType_ok found
      rw [found] at done
      cases type <;> simp only [Except.map, Except.ok.injEq, Prod.mk.injEq] at done <;>
        obtain ⟨-, rfl⟩ := done <;>
        exact ⟨fun cached => ⟨rfl, same cached⟩, fun cached => absurd cached unread⟩

/-- A call of one of the two cached lookups, with what the world answers during it. -/
inductive CacheQuery where
  | type (w : World)
  | data (w : World)

inductive CacheAnswer where
  | type (type : Option String)
  | data (data : Option PlatformEntry)

def CacheQuery.run : CacheQuery → PluginM CacheAnswer
  | .type w => CacheAnswer.type <$> getPlatformType w
  | .data w => CacheAnswer.data <$> getPlatformData w

/-- One query from an invariant state: the invariant holds after it, the identity is cached and
keeps any value it had, and the answer is the cached identity or its last catalog match. -/
theorem CacheQuery.run_ok {q : CacheQuery} {s s' : Process} {answer : CacheAnswer}
    (inv : CacheInv s) (done : q.run.run s = .ok (answer, s')) :
    CacheInv s' ∧ s'.typeInit = true ∧ (s.typeInit = true → s'.platformType = s.platformType) ∧
      (answer = .type s'.platformType ∨ answer = .data (s'.platformType.bind lastMatch)) := by
  cases q with
  | type w =>
    cases found : (getPlatformType w).run s with
    | error => simp [CacheQuery.run, found] at done
    | ok r =>
      obtain ⟨type, s₁⟩ := r
      simp only [CacheQuery.run, StateT.run_map, found, Except.map_ok, Except.ok.injEq,
        Prod.mk.injEq] at done
      obtain ⟨rfl, rfl⟩ := done
      obtain ⟨cached, rfl⟩ := getPlatformType_ok found
      exact ⟨inv.getPlatformType found, rfl, cached, .inl rfl⟩
  | data w =>
    cases found : (getPlatformData w).run s with
    | error => simp [CacheQuery.run, found] at done
    | ok r =>
      obtain ⟨data, s₁⟩ := r
      simp only [CacheQuery.run, StateT.run_map, found, Except.map_ok, Except.ok.injEq,
        Prod.mk.injEq] at done
      obtain ⟨rfl, rfl⟩ := done
      have inv₁ := inv.getPlatformData found
      obtain ⟨type, cached, rfl, rfl⟩ := getPlatformData_ok inv found
      exact ⟨inv₁, rfl, cached, .inr rfl⟩

/-- Any run of the two lookups from an invariant state answers one identity throughout, and
every catalog answer is that identity's last match. -/
theorem CacheQuery.runAll_agree (queries : List CacheQuery) (s : Process) (inv : CacheInv s) :
    ∃ type : Option String, (s.typeInit = true → type = s.platformType) ∧
      ∀ answer ∈ (runAll (queries.map CacheQuery.run) s).1,
        answer = .type type ∨ answer = .data (type.bind lastMatch) := by
  induction queries generalizing s with
  | nil => exact ⟨s.platformType, fun _ => rfl, by simp [runAll]⟩
  | cons q rest ih =>
    simp only [List.map_cons, runAll]
    split
    · exact ⟨s.platformType, fun _ => rfl, by simp⟩
    · rename_i answer s₁ done
      obtain ⟨inv₁, init₁, kept, first⟩ := CacheQuery.run_ok inv done
      obtain ⟨type, same, later⟩ := ih s₁ inv₁
      rw [same init₁] at later
      refine ⟨s₁.platformType, kept, ?_⟩
      simpa [first] using later

theorem cache_lookups_agree (queries : List CacheQuery) (s : Process) (inv : CacheInv s) :
    (runAll (queries.map CacheQuery.run) s).2.1.calls.count (.fopen productNamePath) ≤ 1 ∧
      ∃ type : Option String, ∀ answer ∈ (runAll (queries.map CacheQuery.run) s).1,
        answer = .type type ∨ answer = .data (type.bind lastMatch) := by
  refine ⟨?_, (CacheQuery.runAll_agree queries s inv).imp fun _ h => h.2⟩
  have last : CacheInv (runAll (queries.map CacheQuery.run) s).2.1 :=
    runAll_invariant CacheInv (fun _ member _ _ _ done inv => by
      obtain ⟨q, -, rfl⟩ := List.mem_map.mp member
      exact (CacheQuery.run_ok inv done).1) s inv
  rw [last.opened]
  split <;> simp

theorem cache_lookups_agree_from_start :
    CacheInv (Process.initial (fun _ => none) none 0 (-1) "SENDRECV" (-1)) ∧
      ((runAll ([CacheQuery.data ⟨none, true, fun _ => true, fun _ => true⟩, .type
          ⟨some ⟨"p4d.24xlarge\n".toList, false⟩, true, fun _ => true, fun _ => true⟩].map
          CacheQuery.run) (Process.initial (fun _ => none) none 0 (-1) "SENDRECV" (-1))).2.1.calls.count
          (.fopen productNamePath) ≤ 1 ∧
        ∃ type : Option String, ∀ answer ∈ (runAll ([CacheQuery.data ⟨none, true, fun _ => true,
          fun _ => true⟩, .type ⟨some ⟨"p4d.24xlarge\n".toList, false⟩, true, fun _ => true,
          fun _ => true⟩].map CacheQuery.run) (Process.initial (fun _ => none) none 0 (-1) "SENDRECV"
          (-1))).1, answer = .type type ∨ answer = .data (type.bind lastMatch)) :=
  ⟨cacheInv_initial _ _ _ _ _ _, cache_lookups_agree _ _ (cacheInv_initial _ _ _ _ _ _)⟩

end AwsPlatform
