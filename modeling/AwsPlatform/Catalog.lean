import Mathlib.Data.List.FinRange
import AwsPlatform.CLib

/-! The static catalog `platform_data_map` and the scan `get_platform_data` makes over it, in which
the last match wins; the table's names are distinct. -/
namespace AwsPlatform

/-- One row of `platform_data_map`. `latency` is a `float` in C; every value the table holds
or the code compares it with is a whole number of microseconds. -/
structure Ec2PlatformData where
  name : String
  topology : Option String
  defaultDupConns : Int
  latency : Int
  gdrRequired : Bool
  netFlushRequired : Bool
  defaultProtocol : String
  domainPerThread : Int
  deriving DecidableEq, Repr

/-- The table as compiled: fields a row leaves out are zero, false or NULL. -/
def platformDataMap : List Ec2PlatformData := [
  ⟨"p4d.24xlarge", some "p4d-24xl-topo.xml", 0, 75, true, true, "SENDRECV", 0⟩,
  ⟨"p4de.24xlarge", some "p4de-24xl-topo.xml", 0, 75, true, true, "SENDRECV", 0⟩,
  ⟨"p3dn.24xlarge", none, 4, 150, false, true, "SENDRECV", 0⟩,
  ⟨"p5.48xlarge", some "p5.48xl-topo.xml", 0, 75, true, false, "RDMA", 0⟩,
  ⟨"g5.48xlarge", some "g5.48xl-topo.xml", 0, 0, false, true, "SENDRECV", 0⟩,
  ⟨"trn1.32xlarge", none, 0, 0, true, true, "SENDRECV", 1⟩,
  ⟨"trn1n.32xlarge", none, 0, 0, true, true, "SENDRECV", 1⟩]

/-- A pointer into `platform_data_map`. -/
abbrev PlatformEntry := Fin platformDataMap.length

/-- The loop of `get_platform_data`: starting from the static `platform_data`, it is overwritten
at every entry whose name `strcmp` finds equal to the identity. -/
def scanPlatformData (type : String) (platformData : Option PlatformEntry) : Option PlatformEntry :=
  (List.finRange platformDataMap.length).foldl
    (fun found idx => if strEq type (platformDataMap.get idx).name then some idx else found)
    platformData

/-- The entry the full scan should find: the last one whose name matches. -/
def lastMatch (type : String) : Option PlatformEntry :=
  ((List.finRange platformDataMap.length).filter
    fun idx => strEq type (platformDataMap.get idx).name).getLast?

private theorem foldl_overwrite {α : Type} (p : α → Bool) (l : List α) (init : Option α) :
    l.foldl (fun found a => if p a then some a else found) init =
      ((l.filter p).getLast?).or init := by
  induction l generalizing init with
  | nil => simp
  | cons a rest ih =>
    by_cases hit : p a
    · simp only [List.foldl_cons, hit, if_true, ih, List.filter_cons_of_pos hit]
      cases rest.filter p <;> simp [List.getLast?_eq_getLast]
    · simp [hit, ih]

/-- Started from NULL, the scan finds the last match. -/
theorem scanPlatformData_none (type : String) : scanPlatformData type none = lastMatch type := by
  simp [scanPlatformData, lastMatch, foldl_overwrite]

/-- The catalog's names are distinct as C strings, so an identity matches one entry at most and
the scan finds exactly the entry whose name `strcmp` finds equal to it. -/
theorem lastMatch_eq_some_iff (type : String) (idx : PlatformEntry) :
    lastMatch type = some idx ↔ strEq type (platformDataMap.get idx).name := by
  have distinct : ∀ i j : PlatformEntry,
      cString (platformDataMap.get i).name = cString (platformDataMap.get j).name → i = j := by
    decide
  constructor
  · intro found
    exact (List.mem_filter.mp (List.mem_of_getLast?_eq_some found)).2
  · intro named
    set found := (List.finRange platformDataMap.length).filter
      fun i => strEq type (platformDataMap.get i).name with filtered
    have only : ∀ j ∈ found, j = idx := fun j mem => by
      have matched := (List.mem_filter.mp mem).2
      simp only [strEq, beq_iff_eq] at matched named
      exact distinct j idx (matched.symm.trans named)
    have mem : idx ∈ found := List.mem_filter.mpr ⟨List.mem_finRange idx, named⟩
    obtain ⟨last, ends⟩ :=
      Option.isSome_iff_exists.mp (List.getLast?_isSome.mpr (List.ne_nil_of_mem mem))
    rw [lastMatch, ← filtered, ends, only last (List.mem_of_getLast?_eq_some ends)]

end AwsPlatform
