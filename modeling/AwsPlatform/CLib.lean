import Mathlib.Data.List.Basic

/-! The C library as `platform-aws.c` uses it. Undefined behaviour is a `Fault`, after which
nothing is modelled. -/
namespace AwsPlatform

/-! Linux `errno` values; libfabric's `FI_E*` codes are defined as the same numbers. -/
def EIO : Int := 5
def ENOMEM : Int := 12
def EINVAL : Int := 22
def ENOPROTOOPT : Int := 92
def EOPNOTSUPP : Int := 95
def ENOTSUP : Int := 95
def FI_EOPNOTSUPP : Int := EOPNOTSUPP
def FI_ENOPROTOOPT : Int := ENOPROTOOPT

/-- Undefined behaviour the modeled code can reach. -/
inductive Fault where
  /-- A NULL `char *` handed to `strcmp` or printed with `%s`. -/
  | nullString
  /-- A store through a buffer pointer that a failed `realloc` left NULL. -/
  | nullWrite
  /-- A store past the end of an allocation. -/
  | overflow
  /-- A read or write of `sorted_info_array` at an index outside its `num_rails` slots. -/
  | outOfBounds
  /-- A failed `assert`. -/
  | assertion
  /-- An argument of another type than its conversion reads: an `int` printed with `%lu`. -/
  | formatMismatch
  deriving DecidableEq, Repr

/-- What the C string functions see of a buffer: the characters before the first NUL. -/
def cString (s : String) : List Char := s.toList.takeWhile (· != '\x00')

/-- `strcmp(a, b) == 0`. -/
def strEq (a b : String) : Bool := cString a == cString b

/-- `strcasecmp(a, b) == 0` in the C locale, which folds ASCII letters only. -/
def strcaseEq (a b : String) : Bool := (cString a).map Char.toLower == (cString b).map Char.toLower

def Env := String → Option String

def Env.set (env : Env) (name value : String) : Env :=
  fun n => if n = name then some value else env n

@[simp] theorem Env.set_same (env : Env) (name value : String) :
    env.set name value name = some value := by
  simp [Env.set]

@[simp] theorem Env.set_other (env : Env) {name n : String} (value : String) (other : n ≠ name) :
    env.set name value n = env n := by
  simp [Env.set, other]

/-- glibc's `setenv(name, value, overwrite)`, `none` on `ENOMEM`: a set variable stays without an
allocation when `overwrite` is 0, and otherwise the store succeeds when `ok`. -/
def setenv (env : Env) (ok : Bool) (name value : String) (overwrite : Bool) : Option Env :=
  if (env name).isSome && !overwrite then some env
  else if ok then some (env.set name value) else none

theorem setenv_keeps {env env' : Env} {ok : Bool} {name value n v : String} {overwrite : Bool}
    (done : setenv env ok name value overwrite = some env') (set : env n = some v)
    (guard : n = name → overwrite = false) : env' n = some v := by
  unfold setenv at done
  by_cases same : n = name
  · subst same
    simp [set, guard rfl] at done
    simp [← done, set]
  · split_ifs at done <;> cases done <;> simp [Env.set_other _ _ same, set]

theorem setenv_other {env env' : Env} {ok : Bool} {name value n : String} {overwrite : Bool}
    (done : setenv env ok name value overwrite = some env') (other : n ≠ name) :
    env' n = env n := by
  unfold setenv at done
  split_ifs at done <;> cases done <;> simp [Env.set_other _ _ other]

/-- A file as its reader sees it: its bytes, and whether reading past them fails. -/
structure File where
  content : List Char
  failsAtEnd : Bool

/-- `(char)EOF`: the byte a `char` keeps of `fgetc`'s end-of-file value. -/
def eofChar : Char := Char.ofNat 255

/-- The characters `fgets` stores when it has room for `room` more: it stops after a newline,
at the end of the file, or when the room is used up; `none` when a read fails. -/
def fgetsRead : Nat → List Char → Bool → Option (List Char)
  | 0, _, _ => some []
  | _ + 1, [], failsAtEnd => if failsAtEnd then none else some []
  | room + 1, c :: rest, failsAtEnd =>
      if c = '\n' then some ['\n'] else (fgetsRead room rest failsAtEnd).map (c :: ·)

/-- `fgets(buf, size, fp)`: NULL when a read fails or the file ends before the first character. -/
def fgets (size : Nat) (file : File) : Option (List Char) :=
  match fgetsRead (size - 1) file.content file.failsAtEnd with
  | some [] => none
  | read => read

/-- `isspace` in the C locale. -/
def isCSpace (c : Char) : Bool :=
  c = ' ' || c = '\t' || c = '\n' || c = '\x0b' || c = '\x0c' || c = '\r'

def digitValue (c : Char) : Nat := c.toNat - '0'.toNat

def decimalPrefix : List Char → Nat → Nat → Nat × Nat
  | c :: rest, acc, n =>
      if c.isDigit then decimalPrefix rest (10 * acc + digitValue c) (n + 1) else (acc, n)
  | [], acc, n => (acc, n)

def signPrefix : List Char → Bool × Nat
  | c :: _ => if c = '-' then (true, 1) else if c = '+' then (false, 1) else (false, 0)
  | [] => (false, 0)

/-- `strtol(s, &endptr, 10)` as the value and the length up to `endptr`: blanks, a sign, then
digits. Range clamping is left out, since the code passes two characters. -/
def strtol10 (s : List Char) : Int × Nat :=
  let blanks := (s.takeWhile isCSpace).length
  let (negative, signed) := signPrefix (s.drop blanks)
  let (value, digits) := decimalPrefix ((s.drop blanks).drop signed) 0 0
  if digits = 0 then (0, 0)
  else (if negative then -(value : Int) else value, blanks + signed + digits)

theorem strtol10_blank {c : Char} (blank : isCSpace c) (s : List Char) :
    strtol10 (c :: s) =
      if (strtol10 s).2 = 0 then (0, 0) else ((strtol10 s).1, (strtol10 s).2 + 1) := by
  simp only [strtol10, List.takeWhile_cons, blank, if_true, List.length_cons, List.drop_succ_cons]
  split <;> simp_all
  omega

theorem strtol10_solid {c : Char} (solid : isCSpace c = false) (s : List Char) :
    strtol10 (c :: s) =
      let (negative, signed) := signPrefix (c :: s)
      let (value, digits) := decimalPrefix ((c :: s).drop signed) 0 0
      if digits = 0 then (0, 0)
      else (if negative then -(value : Int) else value, signed + digits) := by
  simp [strtol10, List.takeWhile_cons, solid]

theorem strtolClass (c : Char) :
    (isCSpace c ∧ c ≠ '-' ∧ c ≠ '+' ∧ c.isDigit = false) ∨ c = '-' ∨ c = '+' ∨
      (c.isDigit ∧ isCSpace c = false ∧ c ≠ '-' ∧ c ≠ '+') ∨
      (isCSpace c = false ∧ c ≠ '-' ∧ c ≠ '+' ∧ c.isDigit = false) := by
  by_cases minus : c = '-'
  · exact .inr (.inl minus)
  by_cases plus : c = '+'
  · exact .inr (.inr (.inl plus))
  cases blank : isCSpace c
  · cases digit : c.isDigit
    · exact .inr (.inr (.inr (.inr ⟨rfl, minus, plus, rfl⟩)))
    · exact .inr (.inr (.inr (.inl ⟨rfl, rfl, minus, plus⟩)))
  · refine .inl ⟨rfl, minus, plus, ?_⟩
    simp only [isCSpace, Bool.or_eq_true, decide_eq_true_eq] at blank
    rcases blank with (((((h | h) | h) | h) | h) | h) <;> subst h <;> rfl

end AwsPlatform
