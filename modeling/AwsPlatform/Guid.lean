import AwsPlatform.CLib

/-! `get_rail_vf_idx`: the VF index of a NIC, from the last two characters of its `node_guid` in
sysfs, which the code reads with `strtol` in base 10. -/
namespace AwsPlatform

/-- `strlen` of a buffer holding these characters before its terminating NUL. -/
def strlen (buf : List Char) : Nat := (buf.takeWhile (· != '\x00')).length

/-- `guid_file`: `snprintf` into 256 bytes keeps at most 255 of them. -/
def guidFilePath (name : String) : String :=
  String.mk (("/sys/class/infiniband/".toList ++ cString name ++ "/node_guid".toList).take 255)

/-- `get_rail_vf_idx`, for the NIC named `name`, with `fs` the files `fopen` can open. -/
def getRailVfIdx (fs : String → Option File) (name : String) : Int :=
  match fs (guidFilePath name) with
  | none => - EIO
  | some file =>
    match fgets 20 file with
    | none => - EIO
    | some guid =>
      if strlen guid ≠ 19 then -EINVAL
      else if guid[14]? ≠ some ':' then -EINVAL
      else
        let (vfIdx, consumed) := strtol10 (guid.drop 17)
        if consumed ≠ 2 then -EINVAL else vfIdx

/-- A `node_guid` line `get_rail_vf_idx` accepts: 19 characters without a NUL, no newline before
the last, a colon at position 14, and the last two read whole by `strtol` in base 10. -/
def AcceptedGuid (guid : List Char) : Prop :=
  guid.length = 19 ∧ '\n' ∉ guid.dropLast ∧ '\x00' ∉ guid ∧ guid[14]? = some ':' ∧
    (strtol10 (guid.drop 17)).2 = 2

instance : DecidablePred AcceptedGuid := fun _ => inferInstanceAs (Decidable (_ ∧ _))

/-- Two characters `strtol` reads whole, and the value it gives them: two decimal digits, or a
blank or a sign before one. -/
def VfDigits (a b : Char) (v : Int) : Prop :=
  b.isDigit ∧ ((a.isDigit ∧ v = 10 * digitValue a + digitValue b) ∨
    ((isCSpace a ∨ a = '+') ∧ v = digitValue b) ∨ (a = '-' ∧ v = -(digitValue b : Int)))

/-! ## `fgets` and `strtol` on the line -/

/-- What `fgets` stores is a prefix of the file, at most the room it had, with no newline before
its last character. -/
theorem fgetsRead_prefix {n : Nat} {content line : List Char} {failsAtEnd : Bool}
    (read : fgetsRead n content failsAtEnd = some line) :
    line <+: content ∧ line.length ≤ n ∧ '\n' ∉ line.dropLast := by
  induction content generalizing n line with
  | nil => cases n <;> simp [fgetsRead] at read <;> simp [read]
  | cons c rest ih =>
    cases n with
    | zero => simp [fgetsRead] at read; simp [read]
    | succ room =>
      by_cases newline : c = '\n'
      · simp [fgetsRead, newline] at read
        simp [← read, newline]
      · simp only [fgetsRead, newline, if_false] at read
        obtain ⟨tail, found, rfl⟩ := Option.map_eq_some'.mp read
        obtain ⟨pre, len, clean⟩ := ih found
        refine ⟨List.cons_prefix_cons.mpr ⟨rfl, pre⟩, by simpa using len, ?_⟩
        cases tail with
        | nil => simp
        | cons d tail => simpa [List.dropLast, newline, Ne.symm newline] using clean

/-- Given room and no newline before the last character it has room for, `fgets` stores that
many characters. -/
theorem fgetsRead_full {n : Nat} {content : List Char} (failsAtEnd : Bool)
    (long : n ≤ content.length) (clean : '\n' ∉ (content.take n).dropLast) :
    fgetsRead n content failsAtEnd = some (content.take n) := by
  induction content generalizing n with
  | nil => cases n <;> simp_all [fgetsRead]
  | cons c rest ih =>
    cases n with
    | zero => simp [fgetsRead]
    | succ room =>
      cases room with
      | zero => by_cases newline : c = '\n' <;> simp [fgetsRead, newline]
      | succ room =>
        have : c ≠ '\n' ∧ '\n' ∉ (rest.take (room + 1)).dropLast := by
          cases rest with
          | nil => simp at long
          | cons d rest =>
            simp [List.dropLast] at clean
            exact ⟨Ne.symm clean.1, clean.2⟩
        simp [fgetsRead, this.1, ih (by simpa using long) this.2]

theorem strlen_eq_length {buf : List Char} : strlen buf = buf.length ↔ '\x00' ∉ buf := by
  constructor
  · intro full nul
    have kept := List.takeWhile_eq_self_iff.mp ((List.takeWhile_prefix _).eq_of_length full) _ nul
    simp at kept
  · intro clean
    rw [strlen, List.takeWhile_eq_self_iff.mpr fun c mem => by
      simp only [bne_iff_ne, ne_eq]
      rintro rfl
      exact clean mem]

theorem strlen_le_length (buf : List Char) : strlen buf ≤ buf.length :=
  (List.takeWhile_prefix _).length_le

/-- `strtol` reads two characters whole exactly as `VfDigits` says. -/
theorem strtol10_pair {a b : Char} (whole : (strtol10 [a, b]).2 = 2) :
    VfDigits a b (strtol10 [a, b]).1 := by
  have signs : isCSpace '-' = false ∧ isCSpace '+' = false := by decide
  rcases strtolClass a with ⟨ba, ma, pa, da⟩ | rfl | rfl | ⟨da, ba, ma, pa⟩ | ⟨ba, ma, pa, da⟩
  · rw [strtol10_blank ba] at whole ⊢
    rcases strtolClass b with ⟨bb, mb, pb, db⟩ | rfl | rfl | ⟨db, bb, mb, pb⟩ | ⟨bb, mb, pb, db⟩ <;>
      simp_all [strtol10, signPrefix, decimalPrefix, VfDigits]
  all_goals
    rw [strtol10_solid (by simp_all)] at whole ⊢
    cases db : b.isDigit <;> simp_all [signPrefix, decimalPrefix, VfDigits]

theorem fgets_some {size : Nat} {file : File} {line : List Char}
    (read : fgets size file = some line) :
    fgetsRead (size - 1) file.content file.failsAtEnd = some line := by
  unfold fgets at read
  split at read <;> simp_all

/-- A file whose first 19 characters hold no newline before the last: `fgets(guid, 20, fp)`
stores them. -/
theorem fgets_line {file : File} (len : (file.content.take 19).length = 19)
    (clean : '\n' ∉ (file.content.take 19).dropLast) :
    fgets 20 file = some (file.content.take 19) := by
  have read := fgetsRead_full file.failsAtEnd (by rw [List.length_take] at len; omega) clean
  unfold fgets
  split
  · simp_all
  · simpa using read

theorem fgets_accepted {file : File} (accepted : AcceptedGuid (file.content.take 19)) :
    fgets 20 file = some (file.content.take 19) :=
  fgets_line accepted.1 accepted.2.1

/-- A line `fgets` stored that passes the length, colon and `strtol` checks is the file's first
19 characters, and accepted. -/
theorem accepted_of_checks {file : File} {guid : List Char} (read : fgets 20 file = some guid)
    (len : strlen guid = 19) (colon : guid[14]? = some ':')
    (whole : (strtol10 (guid.drop 17)).2 = 2) :
    guid = file.content.take 19 ∧ AcceptedGuid guid := by
  obtain ⟨pre, short, clean⟩ := fgetsRead_prefix (fgets_some read)
  have length : guid.length = 19 := le_antisymm short (len ▸ strlen_le_length guid)
  exact ⟨length ▸ List.prefix_iff_eq_take.mp pre,
    length, clean, strlen_eq_length.mp (len.trans length.symm), colon, whole⟩

/-- `get_rail_vf_idx` fails with `-EIO` or `-EINVAL` unless the file's first 19 characters are an
accepted line; then it returns the base-10 value of the last two. -/
theorem getRailVfIdx_reads_decimal_tail (fs : String → Option File) (name : String) :
    (fs (guidFilePath name) = none → getRailVfIdx fs name = - EIO) ∧
    ∀ file, fs (guidFilePath name) = some file →
      (AcceptedGuid (file.content.take 19) →
        ∃ a b, (file.content.take 19).drop 17 = [a, b] ∧ VfDigits a b (getRailVfIdx fs name)) ∧
      (¬ AcceptedGuid (file.content.take 19) →
        getRailVfIdx fs name = - EIO ∨ getRailVfIdx fs name = -EINVAL) := by
  refine ⟨fun missing => by simp [getRailVfIdx, missing], fun file found =>
    ⟨fun accepted => ?_, fun rejected => ?_⟩⟩
  · have value : getRailVfIdx fs name = (strtol10 ((file.content.take 19).drop 17)).1 := by
      have read := fgets_accepted accepted
      obtain ⟨len, -, clean, colon, whole⟩ := accepted
      simp [getRailVfIdx, found, read, strlen_eq_length.mpr clean, len, colon, whole]
    obtain ⟨a, b, pair⟩ := List.length_eq_two.mp
      (by simp [accepted.1] : ((file.content.take 19).drop 17).length = 2)
    rw [value, pair]
    exact ⟨a, b, rfl, strtol10_pair (pair ▸ accepted.2.2.2.2)⟩
  · simp only [getRailVfIdx, found]
    cases read : fgets 20 file with
    | none => exact .inl rfl
    | some guid =>
      dsimp only
      split_ifs with len colon whole
      · exact .inr rfl
      · exact .inr rfl
      · exact .inr rfl
      · obtain ⟨rfl, accepted⟩ := accepted_of_checks read (not_not.mp len) (not_not.mp colon)
          (not_not.mp whole)
        exact absurd accepted rejected

/-! ## `node_guid` in the format of the code's comment -/

/-- A hex digit as `%x` prints it. -/
def hexDigit (n : Nat) : Char := Char.ofNat (if n < 10 then 48 + n else 87 + n)

/-- `%04x` of the low 16 bits of `v`. -/
def hexGroup (v : Nat) : List Char :=
  [hexDigit (v / 4096 % 16), hexDigit (v / 256 % 16), hexDigit (v / 16 % 16), hexDigit (v % 16)]

/-- The 64-bit GUID `g` as `node_guid` holds it: `XXXX:XXXX:XXXX:XXXX`, then a newline. -/
def nodeGuidText (g : Nat) : List Char :=
  hexGroup (g >>> 48) ++ ':' :: hexGroup (g >>> 32) ++ ':' :: hexGroup (g >>> 16) ++ ':' ::
    hexGroup g ++ ['\n']

/-- How `strtol` classes a hex digit. -/
theorem hexDigit_class : ∀ n < 16, isCSpace (hexDigit n) = false ∧ hexDigit n ≠ '-' ∧
    hexDigit n ≠ '+' ∧ hexDigit n ≠ '\x00' ∧ hexDigit n ≠ '\n' ∧
    (hexDigit n).isDigit = decide (n < 10) ∧ (n < 10 → digitValue (hexDigit n) = n) := by
  decide

@[simp] theorem nul_ne_hexDigit_mod (v : Nat) : '\x00' ≠ hexDigit (v % 16) :=
  (hexDigit_class (v % 16) (Nat.mod_lt _ (by decide))).2.2.2.1.symm

@[simp] theorem newline_ne_hexDigit_mod (v : Nat) : '\n' ≠ hexDigit (v % 16) :=
  (hexDigit_class (v % 16) (Nat.mod_lt _ (by decide))).2.2.2.2.1.symm

/-- For every 64-bit GUID in the format the code's comment gives, `get_rail_vf_idx` reads the two
hex digits of the low byte in base 10: their decimal value when both are decimal digits,
`-EINVAL` otherwise. So it returns the VF id, the low byte, exactly when that byte is below 10. -/
theorem getRailVfIdx_nodeGuidText (name : String) (g : Nat) :
    getRailVfIdx (fun _ => some ⟨nodeGuidText g, false⟩) name =
        (if g / 16 % 16 < 10 ∧ g % 16 < 10 then ((10 * (g / 16 % 16) + g % 16 : Nat) : Int)
        else -EINVAL) ∧
      (getRailVfIdx (fun _ => some ⟨nodeGuidText g, false⟩) name = ((g % 256 : Nat) : Int) ↔
        g % 256 < 10) := by
  have clean : '\n' ∉ ((nodeGuidText g).take 19).dropLast ∧ '\x00' ∉ (nodeGuidText g).take 19 := by
    constructor <;> simp [nodeGuidText, hexGroup]
  have read : fgets 20 ⟨nodeGuidText g, false⟩ = some ((nodeGuidText g).take 19) :=
    fgets_line (by simp [nodeGuidText, hexGroup]) clean.1
  have len : strlen ((nodeGuidText g).take 19) = 19 := by
    rw [strlen_eq_length.mpr clean.2]
    simp [nodeGuidText, hexGroup]
  have colon : ((nodeGuidText g).take 19)[14]? = some ':' := by simp [nodeGuidText, hexGroup]
  have tail : ((nodeGuidText g).take 19).drop 17 = [hexDigit (g / 16 % 16), hexDigit (g % 16)] := by
    simp [nodeGuidText, hexGroup]
  have value : getRailVfIdx (fun _ => some ⟨nodeGuidText g, false⟩) name =
      let (vfIdx, consumed) := strtol10 [hexDigit (g / 16 % 16), hexDigit (g % 16)]
      if consumed ≠ 2 then -EINVAL else vfIdx := by
    unfold getRailVfIdx
    dsimp only
    rw [read]
    simp only [len, colon, tail, ne_eq, not_true_eq_false, if_false]
  obtain ⟨bh, mh, ph, -, -, dh, vh⟩ := hexDigit_class (g / 16 % 16) (Nat.mod_lt _ (by decide))
  obtain ⟨-, -, -, -, -, dl, vl⟩ := hexDigit_class (g % 16) (Nat.mod_lt _ (by decide))
  have decimal : getRailVfIdx (fun _ => some ⟨nodeGuidText g, false⟩) name =
      if g / 16 % 16 < 10 ∧ g % 16 < 10 then ((10 * (g / 16 % 16) + g % 16 : Nat) : Int)
      else -EINVAL := by
    rw [value, strtol10_solid bh]
    simp only [signPrefix, mh, ph, if_false, List.drop_zero, decimalPrefix, dh, dl]
    by_cases high : g / 16 % 16 < 10 <;> by_cases low : g % 16 < 10 <;> simp [high, low, vh, vl]
  refine ⟨decimal, ?_⟩
  rw [decimal]
  split_ifs with digits
  · rw [Int.ofNat_inj]
    omega
  · simp only [EINVAL]
    omega

/-- The code's comment gives `node_guid` as a hex number whose low byte is the VF id, but the line
is read in base 10: a low byte of `0x10` reads as 10, and one of `0xab` is rejected. -/
theorem getRailVfIdx_reads_low_byte_as_decimal :
    nodeGuidText 0x10 = "0000:0000:0000:0010\n".toList ∧
      getRailVfIdx (fun _ => some ⟨nodeGuidText 0x10, false⟩) "rdmap16s27" = 10 ∧
      nodeGuidText 0xab = "0000:0000:0000:00ab\n".toList ∧
      getRailVfIdx (fun _ => some ⟨nodeGuidText 0xab, false⟩) "rdmap16s27" = -EINVAL := by
  decide

end AwsPlatform
