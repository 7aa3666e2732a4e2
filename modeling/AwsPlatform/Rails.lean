import Mathlib.Data.List.Nodup
import AwsPlatform.Guid

/-! `platform_sort_rails`: the `fi_info` list reordered by VF index, the k-th VF-0 NIC to slot k
and the k-th VF-1 NIC to slot 2 + k. Nothing keeps a VF-1 slot below `num_rails`. -/
namespace AwsPlatform

/-- An `fi_info` pointer; NULL is `none`. -/
abbrev Addr := Nat

/-- The `fi_info` descriptors as the sorter sees them. -/
structure InfoHeap where
  next : Addr → Option Addr
  /-- `info->nic->device_attr->name`. -/
  deviceName : Addr → String

def InfoHeap.setNext (heap : InfoHeap) (a : Addr) (next : Option Addr) : InfoHeap :=
  { heap with next := fun b => if b = a then next else heap.next b }

@[simp] theorem InfoHeap.setNext_same (heap : InfoHeap) (a : Addr) (next : Option Addr) :
    (heap.setNext a next).next a = next := by
  simp [InfoHeap.setNext]

@[simp] theorem InfoHeap.setNext_other (heap : InfoHeap) {a b : Addr} (next : Option Addr)
    (other : b ≠ a) : (heap.setNext a next).next b = heap.next b := by
  simp [InfoHeap.setNext, other]

/-- The VF index of a descriptor: `get_rail_vf_idx` of its NIC. -/
def InfoHeap.vfIdx (fs : String → Option File) (heap : InfoHeap) (a : Addr) : Int :=
  getRailVfIdx fs (heap.deviceName a)

/-- `rail_map` and `sorted_info_array` during the assignment loop. -/
structure Slots where
  railMap : Nat × Nat
  sorted : List (Option Addr)
  deriving DecidableEq, Repr

/-- The assignment loop with `k` iterations left from `info_list_in`: the slots it filled, or
`none` for `goto error`. -/
def assignLoop (heap : InfoHeap) (vfIdx : Addr → Int) :
    Nat → Option Addr → Slots → Except Fault (Option Slots)
  | 0, _, slots => .ok (some slots)
  | _ + 1, none, _ => .ok none
  | k + 1, some info, slots =>
    let vf := vfIdx info
    if vf < 0 ∨ vf ≥ 2 then .ok none
    else
      let railIdx := if vf = 0 then slots.railMap.1 else slots.railMap.2
      let railMap := if vf = 0 then (railIdx + 1, slots.railMap.2) else (slots.railMap.1, railIdx + 1)
      match slots.sorted[railIdx]? with
      | none => .error .outOfBounds
      | some (some _) => .ok none
      | some none =>
        assignLoop heap vfIdx k (heap.next info) ⟨railMap, slots.sorted.set railIdx (some info)⟩

/-- The relinking loop over the slots from `i` on, with `info_ptr`: each slot's descriptor gets
the next slot as `next`, the last one NULL. -/
def relinkLoop : List (Option Addr) → Option Addr → InfoHeap → Except Fault InfoHeap
  | [], _, heap => .ok heap
  | slot :: rest, infoPtr, heap =>
    match infoPtr, slot with
    | some ptr, some _ =>
      let heap := heap.setNext ptr (match rest with | [] => none | next :: _ => next)
      relinkLoop rest (heap.next ptr) heap
    | _, _ => .error .assertion

/-- `platform_sort_rails(info_list, num_rails)`: the descriptors and `*info_list` after it. -/
def platformSortRails (fs : String → Option File) (heap : InfoHeap) (infoList : Option Addr)
    (numRails : Int) : Except Fault (InfoHeap × Option Addr) :=
  if numRails ≤ 0 then .ok (heap, infoList)
  else
    match assignLoop heap (heap.vfIdx fs) numRails.toNat infoList
        ⟨(0, 2), List.replicate numRails.toNat none⟩ with
    | .error fault => .error fault
    | .ok none => .ok (heap, infoList)
    | .ok (some slots) =>
      let head := slots.sorted[0]?.join
      match relinkLoop slots.sorted head heap with
      | .error fault => .error fault
      | .ok heap => .ok (heap, head)

/-! ## Lists in the heap -/

/-- `head` starts a NULL-terminated list through `next` that visits `infos` in order. -/
inductive IsList (heap : InfoHeap) : Option Addr → List Addr → Prop
  | nil : IsList heap none []
  | cons {a : Addr} {rest : List Addr} : IsList heap (heap.next a) rest → IsList heap (some a) (a :: rest)

namespace IsList

variable {heap : InfoHeap}

theorem tail {a : Addr} {rest : List Addr} (list : IsList heap (some a) (a :: rest)) :
    IsList heap (heap.next a) rest := by
  cases list
  assumption

theorem head_eq {head : Option Addr} {infos : List Addr} (list : IsList heap head infos) :
    head = infos.head? := by
  cases list <;> rfl

theorem unique {head : Option Addr} {xs ys : List Addr} (first : IsList heap head xs)
    (second : IsList heap head ys) : xs = ys := by
  induction first generalizing ys with
  | nil => cases second; rfl
  | cons _ ih => cases second with
    | cons rest => rw [ih rest]

theorem drop {head : Option Addr} {infos : List Addr} (list : IsList heap head infos) (i : Nat) :
    IsList heap (infos.drop i).head? (infos.drop i) := by
  induction list generalizing i with
  | nil => simpa using IsList.nil
  | @cons a rest tail ih =>
    cases i with
    | zero => exact .cons tail
    | succ i => exact ih i

/-- A NULL-terminated list visits each descriptor once. -/
theorem nodup {head : Option Addr} {infos : List Addr} (list : IsList heap head infos) :
    infos.Nodup := by
  induction list with
  | nil => exact .nil
  | @cons a rest tail ih =>
    refine List.nodup_cons.mpr ⟨fun again => ?_, ih⟩
    obtain ⟨pre, post, split⟩ := List.append_of_mem again
    have later : IsList heap (some a) (a :: post) := by
      simpa [split] using tail.drop pre.length
    have same := (IsList.cons tail).unique later
    simp only [List.cons.injEq, true_and] at same
    have := congrArg List.length same
    simp [split] at this
    omega

end IsList

/-! ## The slots the rail map gives -/

section Slots

variable (vf : Addr → Int)

/-- The slots the counters of `rail_map` give `infos` in turn, from `c0` VF-0 and `c1` VF-1
descriptors placed before them. -/
def railSlotsFrom : Nat → Nat → List Addr → List Nat
  | _, _, [] => []
  | c0, c1, a :: rest =>
    if vf a = 0 then c0 :: railSlotsFrom (c0 + 1) c1 rest
    else (2 + c1) :: railSlotsFrom c0 (c1 + 1) rest

/-- The slots of `infos` in `sorted_info_array`: the k-th VF-0 one slot k, the k-th VF-1 one
slot 2 + k. -/
def railSlots (infos : List Addr) : List Nat := railSlotsFrom vf 0 0 infos

/-- The VF-0 descriptors among `infos`, in order. -/
def vf0s (infos : List Addr) : List Addr := infos.filter fun a => vf a = 0

/-- The VF-1 descriptors among `infos`, in order. -/
def vf1s (infos : List Addr) : List Addr := infos.filter fun a => vf a = 1

/-- Inputs `platform_sort_rails` sorts into `n` rails: `n` descriptors, each of VF index 0 or 1,
no two at the same slot. -/
def Sortable (n : Nat) (infos : List Addr) : Prop :=
  n ≤ infos.length ∧ (∀ a ∈ infos.take n, vf a = 0 ∨ vf a = 1) ∧
    (railSlots vf (infos.take n)).Nodup

variable {vf}

theorem mem_railSlotsFrom {r c0 c1 : Nat} {infos : List Addr}
    (valid : ∀ a ∈ infos, vf a = 0 ∨ vf a = 1) :
    r ∈ railSlotsFrom vf c0 c1 infos ↔ (c0 ≤ r ∧ r < c0 + (vf0s vf infos).length) ∨
      (2 + c1 ≤ r ∧ r < 2 + c1 + (vf1s vf infos).length) := by
  induction infos generalizing c0 c1 with
  | nil => simp [railSlotsFrom, vf0s, vf1s]
  | cons a rest ih =>
    have rest_valid := fun b mem => valid b (List.mem_cons_of_mem a mem)
    rcases valid a (List.mem_cons_self a rest) with zero | one
    · simp [railSlotsFrom, zero, ih rest_valid, vf0s, vf1s]
      omega
    · simp [railSlotsFrom, one, ih rest_valid, vf0s, vf1s]
      omega

theorem railSlotsFrom_append {c0 c1 : Nat} {done more : List Addr}
    (valid : ∀ a ∈ done, vf a = 0 ∨ vf a = 1) :
    railSlotsFrom vf c0 c1 (done ++ more) = railSlotsFrom vf c0 c1 done ++
      railSlotsFrom vf (c0 + (vf0s vf done).length) (c1 + (vf1s vf done).length) more := by
  induction done generalizing c0 c1 with
  | nil => simp [railSlotsFrom, vf0s, vf1s]
  | cons a rest ih =>
    have rest_valid := fun b mem => valid b (List.mem_cons_of_mem a mem)
    rcases valid a (List.mem_cons_self a rest) with zero | one
    · simp [railSlotsFrom, zero, ih rest_valid, vf0s, vf1s, Nat.add_assoc, Nat.add_comm 1]
    · simp [railSlotsFrom, one, ih rest_valid, vf0s, vf1s, Nat.add_assoc, Nat.add_comm 1]

/-- No two descriptors share a slot exactly when no VF-1 descriptor comes with more than two VF-0
ones. -/
theorem railSlots_nodup_iff {infos : List Addr} (valid : ∀ a ∈ infos, vf a = 0 ∨ vf a = 1) :
    (railSlots vf infos).Nodup ↔ (vf1s vf infos).length = 0 ∨ (vf0s vf infos).length ≤ 2 := by
  induction infos using List.reverseRecOn with
  | nil => simp [railSlots, railSlotsFrom, vf1s]
  | append_singleton done a ih =>
    have done_valid := fun b mem => valid b (List.mem_append_left [a] mem)
    rw [railSlots, railSlotsFrom_append done_valid, List.nodup_append, ← railSlots,
      ih done_valid]
    rcases valid a (by simp) with zero | one
    · simp [railSlotsFrom, zero, railSlots, mem_railSlotsFrom done_valid, vf0s, vf1s,
        -List.length_eq_zero]
      omega
    · simp [railSlotsFrom, one, railSlots, mem_railSlotsFrom done_valid, vf0s, vf1s,
        -List.length_eq_zero]
      omega

/-- `sorted_info_array` of `n` slots with `firsts` from slot 0 and `seconds` from slot 2. -/
def layout (n : Nat) (firsts seconds : List Addr) : List (Option Addr) :=
  (List.range n).map fun r =>
    if r < firsts.length then firsts[r]? else if 2 ≤ r then seconds[r - 2]? else none

theorem layout_getElem? {n r : Nat} {firsts seconds : List Addr} :
    (layout n firsts seconds)[r]? = if r < n then
      some (if r < firsts.length then firsts[r]? else if 2 ≤ r then seconds[r - 2]? else none)
    else none := by
  by_cases inside : r < n
  · simp [layout, List.getElem?_range inside, inside]
  · simp [layout, inside, List.getElem?_eq_none (by simp; omega : (List.range n).length ≤ r)]

@[simp] theorem layout_length {n : Nat} {firsts seconds : List Addr} :
    (layout n firsts seconds).length = n := by
  simp [layout]

theorem layout_nil (n : Nat) : layout n [] [] = List.replicate n none := by
  apply List.ext_getElem?
  intro r
  simp only [layout_getElem?, List.getElem?_replicate, List.length_nil, Nat.not_lt_zero,
    if_false, List.getElem?_nil, ite_self]

/-- A VF-0 descriptor stored at slot `firsts.length` extends the VF-0 run. -/
theorem layout_set_first {n : Nat} {firsts seconds : List Addr} (a : Addr) :
    (layout n firsts seconds).set firsts.length (some a) = layout n (firsts ++ [a]) seconds := by
  apply List.ext_getElem?
  intro r
  rw [List.getElem?_set, layout_getElem?, layout_getElem?, layout_length]
  rcases lt_trichotomy r firsts.length with before | same | after
  · simp [before, Nat.ne_of_gt before, List.getElem?_append_left before, Nat.lt_succ_of_lt before]
  · subst same
    by_cases inside : firsts.length < n <;> simp [inside]
  · simp [Nat.ne_of_lt after, Nat.not_lt_of_gt after, show ¬r < firsts.length + 1 by omega]

/-- A VF-1 descriptor stored at slot `2 + seconds.length`, past the VF-0 run, extends the VF-1
run. -/
theorem layout_set_second {n : Nat} {firsts seconds : List Addr} (a : Addr)
    (past : firsts.length ≤ 2 + seconds.length) :
    (layout n firsts seconds).set (2 + seconds.length) (some a) =
      layout n firsts (seconds ++ [a]) := by
  apply List.ext_getElem?
  intro r
  rw [List.getElem?_set, layout_getElem?, layout_getElem?, layout_length]
  by_cases same : 2 + seconds.length = r
  · subst same
    by_cases inside : 2 + seconds.length < n <;>
      simp [inside, show ¬2 + seconds.length < firsts.length by omega]
  · rw [if_neg same]
    by_cases early : r < 2 + seconds.length
    · by_cases low : 2 ≤ r
      · simp [List.getElem?_append_left (show r - 2 < seconds.length by omega)]
      · simp [low]
    · simp [List.getElem?_eq_none (show seconds.length ≤ r - 2 by omega),
        List.getElem?_eq_none (show (seconds ++ [a]).length ≤ r - 2 by simp; omega)]

/-- Once every slot is filled, with the VF-1 run right after two VF-0 descriptors when there is
one, `sorted_info_array` holds the VF-0 run then the VF-1 run. -/
theorem layout_full {n : Nat} {firsts seconds : List Addr}
    (filled : firsts.length + seconds.length = n) (arranged : seconds = [] ∨ firsts.length = 2) :
    layout n firsts seconds = (firsts ++ seconds).map some := by
  apply List.ext_getElem?
  intro r
  rw [layout_getElem?, List.getElem?_map]
  by_cases inside : r < n
  · by_cases first : r < firsts.length
    · simp [inside, first, List.getElem?_append_left first]
    · rcases arranged with none | two
      · subst none
        simp at filled
        omega
      · simp [inside, first, two, show ¬r < 2 by omega,
          List.getElem?_append_right (show firsts.length ≤ r by omega),
          List.getElem?_eq_getElem (show r - 2 < seconds.length by omega)]
  · simp [inside, List.getElem?_eq_none (show (firsts ++ seconds).length ≤ r by simp; omega)]

/-- The slot the rail map gives `a` after `done`. -/
def nextSlot (vf : Addr → Int) (done : List Addr) (a : Addr) : Nat :=
  if vf a = 0 then (vf0s vf done).length else 2 + (vf1s vf done).length

theorem railSlots_snoc {done : List Addr} (a : Addr) (valid : ∀ b ∈ done, vf b = 0 ∨ vf b = 1) :
    railSlots vf (done ++ [a]) = railSlots vf done ++ [nextSlot vf done a] := by
  by_cases zero : vf a = 0 <;>
    simp [railSlots, railSlotsFrom_append valid, railSlotsFrom, zero, nextSlot]

/-- `rail_map` and `sorted_info_array` once the loop placed `done`. -/
def assigned (vf : Addr → Int) (n : Nat) (done : List Addr) : Slots :=
  ⟨((vf0s vf done).length, 2 + (vf1s vf done).length), layout n (vf0s vf done) (vf1s vf done)⟩

theorem assigned_nil (n : Nat) : assigned vf n [] = ⟨(0, 2), List.replicate n none⟩ := by
  simp [assigned, vf0s, vf1s, layout_nil]

/-- A slot of `sorted_info_array` holds a descriptor exactly when the rail map gave it one. -/
theorem assigned_occupied {n r : Nat} {done : List Addr} {slot : Option Addr}
    (valid : ∀ a ∈ done, vf a = 0 ∨ vf a = 1) (stored : (assigned vf n done).sorted[r]? = some slot) :
    slot.isSome ↔ r ∈ railSlots vf done := by
  simp only [assigned, layout_getElem?] at stored
  rw [railSlots, mem_railSlotsFrom valid]
  split_ifs at stored with inside first low <;> cases stored
  · simp [first, List.getElem?_eq_getElem first]
  · by_cases within : r - 2 < (vf1s vf done).length
    · simp [List.getElem?_eq_getElem within]
      omega
    · simp [List.getElem?_eq_none (Nat.le_of_not_lt within)]
      omega
  · simp
    omega

theorem assigned_inside {n r : Nat} {done : List Addr} :
    (assigned vf n done).sorted[r]? = none ↔ n ≤ r := by
  simp only [assigned, layout_getElem?]
  split_ifs with inside <;> simp <;> omega

/-- A VF index the loop accepts stores the descriptor at its free slot. -/
theorem assigned_snoc {n : Nat} {done : List Addr} {a : Addr} (valid_a : vf a = 0 ∨ vf a = 1)
    (valid : ∀ b ∈ done, vf b = 0 ∨ vf b = 1) (free : nextSlot vf done a ∉ railSlots vf done) :
    (⟨if vf a = 0 then (nextSlot vf done a + 1, (assigned vf n done).railMap.2)
        else ((assigned vf n done).railMap.1, nextSlot vf done a + 1),
      (assigned vf n done).sorted.set (nextSlot vf done a) (some a)⟩ : Slots) =
      assigned vf n (done ++ [a]) := by
  rcases valid_a with zero | one
  · simp only [assigned, nextSlot, zero, if_true, layout_set_first]
    simp [vf0s, vf1s, zero]
  · have past : (vf0s vf done).length ≤ 2 + (vf1s vf done).length := by
      rw [railSlots, mem_railSlotsFrom valid] at free
      simp only [nextSlot, one, show ¬((1 : Int) = 0) by decide, if_false] at free
      omega
    simp only [assigned, nextSlot, one, show ¬((1 : Int) = 0) by decide, if_false,
      layout_set_second a past]
    simp [vf0s, vf1s, one, Nat.add_assoc]

/-- One iteration on an accepted VF index: the slot lookup decides between the read out of
bounds, the error exit and the next iteration. -/
theorem assignLoop_accepted {heap : InfoHeap} {n k : Nat} {done : List Addr} {a : Addr}
    (valid_a : vf a = 0 ∨ vf a = 1) (valid : ∀ b ∈ done, vf b = 0 ∨ vf b = 1) :
    assignLoop heap vf (k + 1) (some a) (assigned vf n done) =
      match (assigned vf n done).sorted[nextSlot vf done a]? with
      | none => .error .outOfBounds
      | some (some _) => .ok none
      | some none => assignLoop heap vf k (heap.next a) (assigned vf n (done ++ [a])) := by
  have accepted : ¬(vf a < 0 ∨ vf a ≥ 2) := by omega
  have railIdx : (if vf a = 0 then (assigned vf n done).railMap.1
      else (assigned vf n done).railMap.2) = nextSlot vf done a := by
    by_cases zero : vf a = 0 <;> simp [assigned, nextSlot, zero]
  simp only [assignLoop, accepted, if_false, railIdx]
  cases stored : (assigned vf n done).sorted[nextSlot vf done a]? with
  | none => rfl
  | some slot =>
    cases slot with
    | some => rfl
    | none =>
      simp only
      rw [assigned_snoc valid_a valid ((assigned_occupied valid stored).not.mp (by simp))]

theorem vf1s_eq_filter_not {infos : List Addr} (valid : ∀ a ∈ infos, vf a = 0 ∨ vf a = 1) :
    vf1s vf infos = infos.filter fun a => !decide (vf a = 0) :=
  List.filter_congr fun a mem => by rcases valid a mem with same | same <;> simp [same]

/-- Sorted descriptors: the VF-0 ones then the VF-1 ones are the input reordered. -/
theorem vf0s_append_vf1s_perm {infos : List Addr} (valid : ∀ a ∈ infos, vf a = 0 ∨ vf a = 1) :
    (vf0s vf infos ++ vf1s vf infos).Perm infos := by
  rw [vf1s_eq_filter_not valid]
  exact List.filter_append_perm _ _

/-- Filled slots that are all inside `n`, with a VF-1 run, start it after exactly two VF-0
descriptors. -/
theorem arranged_of_fits {n : Nat} {infos : List Addr} (valid : ∀ a ∈ infos, vf a = 0 ∨ vf a = 1)
    (distinct : (railSlots vf infos).Nodup) (bounded : ∀ r ∈ railSlots vf infos, r < n)
    (filled : (vf0s vf infos).length + (vf1s vf infos).length = n) :
    vf1s vf infos = [] ∨ (vf0s vf infos).length = 2 := by
  rw [← List.length_eq_zero]
  have few := (railSlots_nodup_iff valid).mp distinct
  by_cases none : (vf1s vf infos).length = 0
  · exact .inl none
  · have last := bounded (1 + (vf1s vf infos).length)
      ((mem_railSlotsFrom valid).mpr (.inr ⟨by omega, by omega⟩))
    omega

theorem sortable_append_iff {done rest : List Addr} {k : Nat} :
    Sortable vf (done.length + k) (done ++ rest) ↔ k ≤ rest.length ∧
      (∀ b ∈ done ++ rest.take k, vf b = 0 ∨ vf b = 1) ∧
        (railSlots vf (done ++ rest.take k)).Nodup := by
  simp [Sortable, List.take_append_eq_append_take, List.take_of_length_le (Nat.le_add_right _ k)]

/-- The assignment loop with `k` iterations left, `done` placed and `rest` still to walk: it
reads out of bounds at a slot the rail map gives, or takes the error exit exactly when the input
is not sortable into `done.length + k` rails, or places `rest.take k` after `done`. -/
theorem assignLoop_run (heap : InfoHeap) (n : Nat) (k : Nat) {done rest : List Addr}
    (list : IsList heap rest.head? rest) (valid : ∀ a ∈ done, vf a = 0 ∨ vf a = 1)
    (distinct : (railSlots vf done).Nodup) (bounded : ∀ r ∈ railSlots vf done, r < n) :
    (assignLoop heap vf k rest.head? (assigned vf n done) = .error .outOfBounds ∧
      ∃ r ∈ railSlots vf (done ++ rest.take k), n ≤ r) ∨
    (assignLoop heap vf k rest.head? (assigned vf n done) = .ok none ∧
      ¬Sortable vf (done.length + k) (done ++ rest)) ∨
    (assignLoop heap vf k rest.head? (assigned vf n done) =
        .ok (some (assigned vf n (done ++ rest.take k))) ∧
      Sortable vf (done.length + k) (done ++ rest) ∧
      ∀ r ∈ railSlots vf (done ++ rest.take k), r < n) := by
  induction k generalizing done rest with
  | zero =>
    exact .inr (.inr ⟨by simp [assignLoop], sortable_append_iff.mpr ⟨by simp, by simpa using valid,
      by simpa using distinct⟩, by simpa using bounded⟩)
  | succ k ih =>
    cases rest with
    | nil =>
      refine .inr (.inl ⟨rfl, fun sortable => ?_⟩)
      have := sortable.1
      simp only [List.append_nil] at this
      omega
    | cons a rest =>
      by_cases invalid : vf a < 0 ∨ vf a ≥ 2
      · refine .inr (.inl ⟨by simp [assignLoop, invalid], fun sortable => ?_⟩)
        have := (sortable_append_iff.mp sortable).2.1 a (by simp)
        omega
      have valid_a : vf a = 0 ∨ vf a = 1 := by omega
      have valid' : ∀ b ∈ done ++ [a], vf b = 0 ∨ vf b = 1 := by
        simpa [or_imp, forall_and] using ⟨valid, valid_a⟩
      have slots : ∀ more, railSlots vf (done ++ [a] ++ more) =
          railSlots vf done ++ [nextSlot vf done a] ++
            railSlotsFrom vf (vf0s vf (done ++ [a])).length (vf1s vf (done ++ [a])).length more :=
        fun more => by
          rw [railSlots, railSlotsFrom_append valid', ← railSlots, railSlots_snoc a valid,
            Nat.zero_add, Nat.zero_add]
      have shift : done ++ (a :: rest).take (k + 1) = done ++ [a] ++ rest.take k := by simp
      simp only [List.head?_cons, assignLoop_accepted valid_a valid]
      cases stored : (assigned vf n done).sorted[nextSlot vf done a]? with
      | none =>
        refine .inl ⟨rfl, nextSlot vf done a, ?_, assigned_inside.mp stored⟩
        rw [shift, slots]
        simp
      | some slot =>
        cases slot with
        | some =>
          refine .inr (.inl ⟨rfl, fun sortable => ?_⟩)
          have nodup := (sortable_append_iff.mp sortable).2.2
          rw [shift, slots, List.append_assoc] at nodup
          have := (List.nodup_append.mp nodup).2.2
          exact this ((assigned_occupied valid stored).mp (by simp)) (by simp)
        | none =>
          have free := (assigned_occupied valid stored).not.mp (by simp)
          have inside : nextSlot vf done a < n :=
            Nat.lt_of_not_le fun outside => by simp [assigned_inside.mpr outside] at stored
          have tail := IsList.tail list
          have next := ih (tail.head_eq ▸ tail) valid'
            (by
              rw [railSlots_snoc a valid]
              exact List.nodup_append.mpr ⟨distinct, by simp, by simpa using free⟩)
            (by rw [railSlots_snoc a valid]; simpa [or_imp, forall_and] using ⟨bounded, inside⟩)
          have length : (done ++ [a]).length + k = done.length + (k + 1) := by simp; omega
          have whole : done ++ [a] ++ rest = done ++ a :: rest := by simp
          rw [length, whole, ← shift] at next
          simpa only [tail.head_eq] using next

end Slots

/-! ## Relinking -/

/-- The relinking loop over slots holding distinct descriptors `infos`, from the first: it chains
them in order with NULL after the last, and leaves every other `next` alone. -/
theorem relinkLoop_run (heap : InfoHeap) {infos : List Addr} (distinct : infos.Nodup) :
    ∃ heap', relinkLoop (infos.map some) infos.head? heap = .ok heap' ∧
      IsList heap' infos.head? infos ∧ ∀ b ∉ infos, heap'.next b = heap.next b := by
  induction infos generalizing heap with
  | nil => exact ⟨heap, rfl, .nil, fun _ _ => rfl⟩
  | cons a rest ih =>
    obtain ⟨fresh, distinct'⟩ := List.nodup_cons.mp distinct
    have following : (match rest.map some with | [] => none | next :: _ => next) = rest.head? := by
      cases rest <;> rfl
    obtain ⟨heap', run, list, frame⟩ := ih (heap.setNext a rest.head?) distinct'
    refine ⟨heap', ?_, .cons ?_, fun b other => ?_⟩
    · simpa [relinkLoop, following] using run
    · rwa [frame a fresh, InfoHeap.setNext_same]
    · simp only [List.mem_cons, not_or] at other
      rw [frame b other.2, InfoHeap.setNext_other _ _ other.1]

/-- For a positive `num_rails`, the assignment loop decides, and the relinking follows a loop
that went through. -/
theorem platformSortRails_positive (fs : String → Option File) (heap : InfoHeap)
    (head : Option Addr) {n : Nat} (positive : 0 < n) :
    platformSortRails fs heap head n =
      match assignLoop heap (heap.vfIdx fs) n head ⟨(0, 2), List.replicate n none⟩ with
      | .error fault => .error fault
      | .ok none => .ok (heap, head)
      | .ok (some slots) =>
        match relinkLoop slots.sorted slots.sorted[0]?.join heap with
        | .error fault => .error fault
        | .ok heap => .ok (heap, slots.sorted[0]?.join) := by
  simp [platformSortRails, show ¬((n : Int) ≤ 0) by omega]

/-! ## Sorting -/

section Sorting

variable {vf : Addr → Int} {heap : InfoHeap} {head : Option Addr} {infos : List Addr} {n : Nat}

/-- The assignment loop over the whole input, from its initial slots. -/
theorem assignLoop_start (list : IsList heap head infos) :
    (assignLoop heap vf n head ⟨(0, 2), List.replicate n none⟩ = .error .outOfBounds ∧
      ∃ r ∈ railSlots vf (infos.take n), n ≤ r) ∨
    (assignLoop heap vf n head ⟨(0, 2), List.replicate n none⟩ = .ok none ∧
      ¬Sortable vf n infos) ∨
    (assignLoop heap vf n head ⟨(0, 2), List.replicate n none⟩ =
        .ok (some (assigned vf n (infos.take n))) ∧
      Sortable vf n infos ∧ ∀ r ∈ railSlots vf (infos.take n), r < n) := by
  have run := @assignLoop_run vf heap n n [] infos (list.head_eq ▸ list) (by simp)
    (by simp [railSlots, railSlotsFrom]) (by simp [railSlots, railSlotsFrom])
  rw [← list.head_eq, assigned_nil] at run
  simpa only [List.nil_append, List.length_nil, Nat.zero_add] using run

/-- The first `n` descriptors of a sortable input are `n` VF-0 and VF-1 ones. -/
theorem sortable_count (sortable : Sortable vf n infos) :
    (vf0s vf (infos.take n)).length + (vf1s vf (infos.take n)).length = n := by
  rw [← List.length_append, (vf0s_append_vf1s_perm sortable.2.1).length_eq, List.length_take,
    Nat.min_eq_left sortable.1]

/-- Among the slots of `n` VF-0 and VF-1 descriptors, one is past `n` exactly when there is a
VF-1 one and fewer than two VF-0 ones. -/
theorem railSlots_outside_iff (valid : ∀ a ∈ infos, vf a = 0 ∨ vf a = 1)
    (count : (vf0s vf infos).length + (vf1s vf infos).length = n) :
    (∃ r ∈ railSlots vf infos, n ≤ r) ↔ vf1s vf infos ≠ [] ∧ (vf0s vf infos).length < 2 := by
  rw [← List.length_pos]
  constructor
  · rintro ⟨r, mem, outside⟩
    rw [railSlots, mem_railSlotsFrom valid] at mem
    omega
  · intro few
    exact ⟨1 + (vf1s vf infos).length, (mem_railSlotsFrom valid).mpr (.inr ⟨by omega, by omega⟩),
      by omega⟩

/-- A loop that went through every iteration leaves the VF-0 run then the VF-1 run in
`sorted_info_array`, every slot filled, the VF-1 run from slot 2 when there is one. -/
theorem assigned_sorted (sortable : Sortable vf n infos)
    (bounded : ∀ r ∈ railSlots vf (infos.take n), r < n) :
    (assigned vf n (infos.take n)).sorted =
      (vf0s vf (infos.take n) ++ vf1s vf (infos.take n)).map some ∧
    (vf1s vf (infos.take n) ≠ [] → (vf0s vf (infos.take n)).length = 2) := by
  have count := sortable_count sortable
  have arranged := arranged_of_fits sortable.2.1 sortable.2.2 bounded count
  exact ⟨layout_full count arranged, arranged.resolve_left⟩

theorem head_of_slots (out : List Addr) : ((out.map some)[0]?).join = out.head? := by
  cases out <;> simp

/-- Whenever the assignment loop finishes without the error exit, every slot of
`sorted_info_array` holds a descriptor, and the relinking loop passes both its asserts. -/
theorem assignLoop_fills_every_slot (list : IsList heap head infos) {slots : Slots}
    (finished : assignLoop heap vf n head ⟨(0, 2), List.replicate n none⟩ = .ok (some slots)) :
    (∀ slot ∈ slots.sorted, slot.isSome) ∧
      ∃ heap', relinkLoop slots.sorted slots.sorted[0]?.join heap = .ok heap' := by
  rcases assignLoop_start list with ⟨outside, -⟩ | ⟨stopped, -⟩ | ⟨filled, sortable, bounded⟩
  · rw [outside] at finished; cases finished
  · rw [stopped] at finished; cases finished
  · rw [filled] at finished
    cases finished
    have perm := vf0s_append_vf1s_perm sortable.2.1
    obtain ⟨heap', relinked, -⟩ :=
      relinkLoop_run heap (perm.nodup_iff.mpr (list.nodup.sublist (List.take_sublist _ _)))
    rw [(assigned_sorted sortable bounded).1, head_of_slots]
    refine ⟨fun slot mem => ?_, heap', relinked⟩
    obtain ⟨a, -, rfl⟩ := List.mem_map.mp mem
    rfl

end Sorting

/-- `platform_sort_rails` on an acyclic list, when every slot it computes lies inside
`sorted_info_array`: it takes the error exit and changes nothing exactly when the first `n`
descriptors are not sortable; otherwise `*info_list` becomes the VF-0 ones among them in order,
then the VF-1 ones, which start at position 2 when there are any, chained with NULL after the
last, and every other `next` is untouched. -/
theorem platformSortRails_sorts (fs : String → Option File) (heap : InfoHeap)
    {head : Option Addr} {infos : List Addr} {n : Nat} (list : IsList heap head infos)
    (positive : 0 < n)
    (inBounds : assignLoop heap (heap.vfIdx fs) n head ⟨(0, 2), List.replicate n none⟩ ≠
      .error .outOfBounds) :
    (¬Sortable (heap.vfIdx fs) n infos ∧ platformSortRails fs heap head n = .ok (heap, head)) ∨
    (Sortable (heap.vfIdx fs) n infos ∧ ∃ heap' head',
      platformSortRails fs heap head n = .ok (heap', head') ∧
      IsList heap' head'
        (vf0s (heap.vfIdx fs) (infos.take n) ++ vf1s (heap.vfIdx fs) (infos.take n)) ∧
      (vf0s (heap.vfIdx fs) (infos.take n) ++ vf1s (heap.vfIdx fs) (infos.take n)).Perm
        (infos.take n) ∧
      (vf1s (heap.vfIdx fs) (infos.take n) ≠ [] →
        (vf0s (heap.vfIdx fs) (infos.take n)).length = 2) ∧
      ∀ b ∉ infos.take n, heap'.next b = heap.next b) := by
  have call := platformSortRails_positive fs heap head positive
  rcases assignLoop_start list with ⟨outside, -⟩ | ⟨stopped, unsortable⟩ | ⟨filled, sortable, bounded⟩
  · exact absurd outside inBounds
  · exact .inl ⟨unsortable, by rw [call, stopped]⟩
  · have perm := vf0s_append_vf1s_perm sortable.2.1
    obtain ⟨sorted, arranged⟩ := assigned_sorted sortable bounded
    obtain ⟨heap', relinked, chained, frame⟩ :=
      relinkLoop_run heap (perm.nodup_iff.mpr (list.nodup.sublist (List.take_sublist _ _)))
    refine .inr ⟨sortable, heap', _, ?_, chained, perm, arranged,
      fun b other => frame b fun mem => other (perm.subset mem)⟩
    rw [call, filled]
    simp only [sorted, head_of_slots, relinked]

/-- On an acyclic list whose first `n` descriptors are sortable, `platform_sort_rails` reads past
`sorted_info_array` exactly when there is a VF-1 descriptor among them and fewer than two VF-0
ones: the last VF-1 descriptor's slot, one past their count, is then at least `n`. -/
theorem platformSortRails_out_of_bounds_iff (fs : String → Option File) (heap : InfoHeap)
    {head : Option Addr} {infos : List Addr} {n : Nat} (list : IsList heap head infos)
    (positive : 0 < n) (sortable : Sortable (heap.vfIdx fs) n infos) :
    platformSortRails fs heap head n = .error .outOfBounds ↔
      vf1s (heap.vfIdx fs) (infos.take n) ≠ [] ∧ (vf0s (heap.vfIdx fs) (infos.take n)).length < 2 := by
  have outside := railSlots_outside_iff sortable.2.1 (sortable_count sortable)
  rw [platformSortRails_positive fs heap head positive]
  rcases assignLoop_start list with ⟨overflow, reached⟩ | ⟨-, unsortable⟩ | ⟨filled, -, bounded⟩
  · rw [overflow]
    exact iff_of_true rfl (outside.mp reached)
  · exact absurd sortable unsortable
  · obtain ⟨heap', relinked, -⟩ := relinkLoop_run heap
      ((vf0s_append_vf1s_perm sortable.2.1).nodup_iff.mpr (list.nodup.sublist (List.take_sublist _ _)))
    rw [filled]
    simp only [(assigned_sorted sortable bounded).1, head_of_slots, relinked]
    refine iff_of_false (by simp) fun few => ?_
    obtain ⟨r, mem, past⟩ := outside.mpr few
    exact absurd (bounded r mem) (by omega)

/-! ## Two NICs, VF 0 and VF 1 -/

/-- `node_guid` files: VF 1 for `rdmap17s27`, VF 0 for every other NIC. -/
def railsFs : String → Option File := fun path =>
  some ⟨(if path = guidFilePath "rdmap17s27" then "0a1b:2c3d:4e5f:0001\n"
    else "0a1b:2c3d:4e5f:0000\n").toList, false⟩

/-- Descriptors 0 to 3 in a list, the even ones on `rdmap16s27` (VF 0), the odd ones on
`rdmap17s27` (VF 1). -/
def fourRails : InfoHeap :=
  ⟨fun a => if a < 3 then some (a + 1) else none,
    fun a => if a % 2 = 0 then "rdmap16s27" else "rdmap17s27"⟩

/-- Four descriptors alternating VF 0 and VF 1 are sorted to 0, 2, 1, 3. -/
theorem platformSortRails_sorts_alternating :
    IsList fourRails (some 0) [0, 1, 2, 3] ∧ 0 < 4 ∧
    assignLoop fourRails (fourRails.vfIdx railsFs) 4 (some 0) ⟨(0, 2), List.replicate 4 none⟩ ≠
      .error .outOfBounds ∧
    ((¬Sortable (fourRails.vfIdx railsFs) 4 [0, 1, 2, 3] ∧
        platformSortRails railsFs fourRails (some 0) 4 = .ok (fourRails, some 0)) ∨
    (Sortable (fourRails.vfIdx railsFs) 4 [0, 1, 2, 3] ∧ ∃ heap' head',
      platformSortRails railsFs fourRails (some 0) 4 = .ok (heap', head') ∧
      IsList heap' head' (vf0s (fourRails.vfIdx railsFs) ([0, 1, 2, 3].take 4) ++
        vf1s (fourRails.vfIdx railsFs) ([0, 1, 2, 3].take 4)) ∧
      (vf0s (fourRails.vfIdx railsFs) ([0, 1, 2, 3].take 4) ++
        vf1s (fourRails.vfIdx railsFs) ([0, 1, 2, 3].take 4)).Perm ([0, 1, 2, 3].take 4) ∧
      (vf1s (fourRails.vfIdx railsFs) ([0, 1, 2, 3].take 4) ≠ [] →
        (vf0s (fourRails.vfIdx railsFs) ([0, 1, 2, 3].take 4)).length = 2) ∧
      ∀ b ∉ [0, 1, 2, 3].take 4, heap'.next b = fourRails.next b)) :=
  have list : IsList fourRails (some 0) [0, 1, 2, 3] := .cons (.cons (.cons (.cons .nil)))
  have inside : assignLoop fourRails (fourRails.vfIdx railsFs) 4 (some 0)
      ⟨(0, 2), List.replicate 4 none⟩ ≠ .error .outOfBounds := by
    intro outside
    cases outside
  ⟨list, by decide, inside, platformSortRails_sorts railsFs fourRails list (by decide) inside⟩

theorem platformSortRails_out_of_bounds_two_rails :
    IsList fourRails (some 0) [0, 1, 2, 3] ∧ 0 < 2 ∧ Sortable (fourRails.vfIdx railsFs) 2 [0, 1, 2, 3] ∧
      (platformSortRails railsFs fourRails (some 0) 2 = .error .outOfBounds ↔
        vf1s (fourRails.vfIdx railsFs) ([0, 1, 2, 3].take 2) ≠ [] ∧
          (vf0s (fourRails.vfIdx railsFs) ([0, 1, 2, 3].take 2)).length < 2) :=
  have list : IsList fourRails (some 0) [0, 1, 2, 3] := .cons (.cons (.cons (.cons .nil)))
  have sortable : Sortable (fourRails.vfIdx railsFs) 2 [0, 1, 2, 3] := by
    unfold Sortable
    decide
  ⟨list, by decide, sortable, platformSortRails_out_of_bounds_iff railsFs fourRails list (by decide)
    sortable⟩

/-- With two rails, a VF-0 descriptor then a VF-1 one: the VF-1 descriptor's slot is 2, past the
two slots of `sorted_info_array`. -/
theorem platformSortRails_vf1_out_of_bounds :
    platformSortRails railsFs fourRails (some 0) 2 = .error .outOfBounds := by
  rfl

/-- The same four descriptors into four rails: the loop fills the slots with descriptors 0, 2, 1
and 3, and the relinking passes its asserts. -/
theorem assignLoop_fills_four_rails :
    IsList fourRails (some 0) [0, 1, 2, 3] ∧
      assignLoop fourRails (fourRails.vfIdx railsFs) 4 (some 0) ⟨(0, 2), List.replicate 4 none⟩ =
        .ok (some ⟨(2, 4), [some 0, some 2, some 1, some 3]⟩) ∧
      (∀ slot ∈ [some 0, some 2, some 1, some 3], slot.isSome) ∧
      ∃ heap', relinkLoop [some 0, some 2, some 1, some 3] (some 0) fourRails = .ok heap' :=
  have list : IsList fourRails (some 0) [0, 1, 2, 3] := .cons (.cons (.cons (.cons .nil)))
  have finished : assignLoop fourRails (fourRails.vfIdx railsFs) 4 (some 0)
      ⟨(0, 2), List.replicate 4 none⟩ = .ok (some ⟨(2, 4), [some 0, some 2, some 1, some 3]⟩) := rfl
  ⟨list, finished, assignLoop_fills_every_slot list finished⟩

end AwsPlatform
