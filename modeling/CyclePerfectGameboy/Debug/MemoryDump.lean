import CyclePerfectGameboy.Debug.Logger
import Mathlib.Data.List.Basic

/-!
# The memory dump

The outer loop counts in sixteen bits and in steps of sixteen: a length above
`0xFFF0` leaves it no room to pass its bound.
-/

namespace CyclePerfectGameboy

universe u

open CounterLoop

/-- The hexadecimal column goes through the addresses once and in order, in
rows of sixteen that are labelled with their first address. -/
structure CompleteDump (start : Address) (length : Word)
    (rows : List DumpRow) : Prop where
  addresses :
    rows.flatMap DumpRow.hex =
      (List.range length.toNat).map (fun k => start + BitVec.ofNat 16 k)
  full : ∀ row ∈ rows.dropLast, row.hex.length = 16
  last : ∀ row ∈ rows, 0 < row.hex.length ∧ row.hex.length ≤ 16
  /-- The label itself is not reduced to sixteen bits. -/
  labelled : ∀ row ∈ rows, row.hex.head? = some (row.label.setWidth 16)

/-- The call returns, having logged a complete dump. -/
def Logger.DumpsMemory {M : Type u} [MemoryInterface M]
    (logger : Logger) (memory : M) (start : Address) (length : Word) :
    Prop :=
  ∃ fuel rows,
    dumpRows start length fuel = some rows ∧
      CompleteDump start length rows ∧
      logger.logMemoryDump memory start length fuel =
        some (logger.log (dumpText memory start length rows))

theorem takeWhile_range (first bound count : Nat) :
    (List.range count).takeWhile (fun j => decide (first + j < bound)) =
      List.range (min count (bound - first)) := by
  induction count with
  | zero =>
      simp
  | succ count inductionHypothesis =>
      rw [List.range_succ, List.takeWhile_append, inductionHypothesis,
        List.length_range, List.length_range]
      by_cases inside : first + count < bound
      · have all : min count (bound - first) = count := by omega
        have more : min (count + 1) (bound - first) = count + 1 := by omega
        rw [all, if_pos rfl, more, List.range_succ]
        simp [inside]
      · have fewer :
            min count (bound - first) = min (count + 1) (bound - first) := by
          omega
        split
        · rename_i all
          rw [← fewer, all]
          simp [inside]
        · rw [fewer]

/-- The number of rows of a dump. -/
def rowCount (length : Word) : Nat :=
  (length.toNat + 15) / 16

/-- The addresses of the row after some full ones. -/
theorem dumpAddresses_eq
    (start : Address) (length : Word) {i : Word} {row : Nat}
    (offset : i.toNat = row * 16) :
    dumpAddresses start length i =
      (List.range (min 16 (length.toNat - row * 16))).map
        (fun j => start + BitVec.ofNat 16 (row * 16 + j)) := by
  have here : i = BitVec.ofNat 16 (row * 16) := by
    rw [← offset, BitVec.ofNat_toNat, BitVec.setWidth_eq]
  rw [dumpAddresses, offset, takeWhile_range, here]
  refine List.map_congr_left (fun j _ => ?_)
  rw [BitVec.ofNat_add, BitVec.add_assoc]

/-- The offset of a row. -/
def rowOffset (row : Nat) : Word :=
  0 + BitVec.ofNat 16 (row * (16 : Word).toNat)

theorem rowOffset_toNat {length : Word} {row : Nat}
    (inside : row < rowCount length) (room : length.toNat ≤ 0xFFF0) :
    (rowOffset row).toNat = row * 16 := by
  rw [rowCount] at inside
  have sixteen : (16 : Word).toNat = 16 := rfl
  rw [rowOffset, sixteen]
  bv_omega

/-- With room the loop makes one row for every sixteen bytes begun. -/
theorem dumpRows_of_room
    (start : Address) {length : Word} (room : length.toNat ≤ 0xFFF0) :
    dumpRows start length (rowCount length + 1) =
      some
        (((List.range (rowCount length)).map rowOffset).map
          (dumpRow start length)) := by
  have sixteen : (16 : Word).toNat = 16 := rfl
  have zero : (0 : Word).toNat = 0 := rfl
  rw [dumpRows, values_of_room]
  · rfl
  · rw [sixteen]
    omega
  · intro pass fewer
    rw [rowCount] at fewer
    rw [sixteen, zero]
    omega
  · rw [sixteen, zero, rowCount]
    omega

/-- Without it there is no last row. -/
theorem dumpRows_of_no_room
    (start : Address) {length : Word} (noRoom : 0xFFF0 < length.toNat)
    (fuel : Nat) : dumpRows start length fuel = none := by
  have sixteen : (16 : Word).toNat = 16 := rfl
  rw [dumpRows, values_of_no_room]
  · rfl
  · rw [sixteen]
    decide
  · rw [sixteen]
    omega
  · rw [sixteen]
    exact Nat.dvd_zero 16

theorem dumpRow_hex
    (start : Address) {length : Word} (room : length.toNat ≤ 0xFFF0)
    {row : Nat} (inside : row < rowCount length) :
    (dumpRow start length (rowOffset row)).hex =
      (List.range (min 16 (length.toNat - row * 16))).map
        (fun j => start + BitVec.ofNat 16 (row * 16 + j)) :=
  dumpAddresses_eq start length (rowOffset_toNat inside room)

theorem dumpRow_length
    (start : Address) {length : Word} (room : length.toNat ≤ 0xFFF0)
    {row : Nat} (inside : row < rowCount length) :
    (dumpRow start length (rowOffset row)).hex.length =
      min 16 (length.toNat - row * 16) := by
  rw [dumpRow_hex start room inside, List.length_map, List.length_range]

theorem dropLast_range (count : Nat) :
    (List.range count).dropLast = List.range (count - 1) := by
  cases count with
  | zero =>
      rfl
  | succ count =>
      rw [List.range_succ, List.dropLast_concat, Nat.add_sub_cancel]

theorem dumpRows_complete
    (start : Address) {length : Word} (room : length.toNat ≤ 0xFFF0) :
    CompleteDump start length
      (((List.range (rowCount length)).map rowOffset).map
        (dumpRow start length)) where
  addresses := by
    have all : min (rowCount length * 16) length.toNat = length.toNat := by
      rw [rowCount]
      omega
    have windows :=
      flatMap_windows (fun k => start + BitVec.ofNat 16 k) 16
        (rowCount length) length.toNat
    rw [all] at windows
    rw [← windows, List.map_map, List.flatMap_map]
    refine List.flatMap_congr (fun row member => ?_)
    exact dumpRow_hex start room (List.mem_range.mp member)
  full := by
    intro row member
    rw [List.map_map, ← List.map_dropLast, dropLast_range] at member
    obtain ⟨index, inside, rfl⟩ := List.mem_map.mp member
    have before := List.mem_range.mp inside
    have filled : 16 ≤ length.toNat - index * 16 := by
      rw [rowCount] at before
      omega
    rw [Function.comp_apply, dumpRow_length start room (by omega)]
    exact Nat.min_eq_left filled
  last := by
    intro row member
    rw [List.map_map] at member
    obtain ⟨index, inside, rfl⟩ := List.mem_map.mp member
    have before := List.mem_range.mp inside
    have begun : 0 < length.toNat - index * 16 := by
      rw [rowCount] at before
      omega
    rw [Function.comp_apply, dumpRow_length start room before]
    omega
  labelled := by
    intro row member
    rw [List.map_map] at member
    obtain ⟨index, inside, rfl⟩ := List.mem_map.mp member
    have before := List.mem_range.mp inside
    have begun : min 16 (length.toNat - index * 16) ≠ 0 := by
      rw [rowCount] at before
      omega
    have label :
        (dumpRow start length (rowOffset index)).label.setWidth 16 =
          start + BitVec.ofNat 16 (index * 16) := by
      change (start.setWidth 32 + (rowOffset index).setWidth 32).setWidth 16 =
        _
      have offset := rowOffset_toNat before room
      bv_omega
    rw [Function.comp_apply, label, dumpRow_hex start room before,
      List.head?_map, List.head?_range, if_neg begun]
    rfl

/-! ## The dump -/

section Dump

variable {M : Type u} [MemoryInterface M]

theorem Logger.logMemoryDump_of_enabled
    {logger : Logger}
    (enabled : LogLevel.debug.value ≤ logger.currentLevel.value)
    (memory : M) (start : Address) (length : Word) (fuel : Nat) :
    logger.logMemoryDump memory start length fuel =
      (dumpRows start length fuel).map
        (fun rows => logger.log (dumpText memory start length rows)) :=
  if_pos enabled

/-- The dump is complete exactly up to a length of `0xFFF0`, and above that
it does not even return. -/
theorem memory_dump_complete_iff
    (logger : Logger)
    (enabled : LogLevel.debug.value ≤ logger.currentLevel.value)
    (memory : M) (start : Address) (length : Word) :
    (logger.DumpsMemory memory start length ↔ length.toNat ≤ 0xFFF0) ∧
      ((∃ fuel later,
          logger.logMemoryDump memory start length fuel = some later) ↔
        length.toNat ≤ 0xFFF0) := by
  have returns :
      ∀ fuel later,
        logger.logMemoryDump memory start length fuel = some later →
          length.toNat ≤ 0xFFF0 := by
    intro fuel later returned
    by_contra noRoom
    rw [Logger.logMemoryDump_of_enabled enabled,
      dumpRows_of_no_room start (Nat.not_le.mp noRoom)] at returned
    exact Option.some_ne_none _ returned.symm
  have dumps :
      length.toNat ≤ 0xFFF0 → logger.DumpsMemory memory start length := by
    intro room
    refine ⟨_, _, dumpRows_of_room start room,
      dumpRows_complete start room, ?_⟩
    rw [Logger.logMemoryDump_of_enabled enabled,
      dumpRows_of_room start room]
    rfl
  constructor
  · constructor
    · rintro ⟨fuel, rows, -, -, returned⟩
      exact returns fuel _ returned
    · exact dumps
  · constructor
    · rintro ⟨fuel, later, returned⟩
      exact returns fuel later returned
    · intro room
      obtain ⟨fuel, rows, -, -, returned⟩ := dumps room
      exact ⟨fuel, _, returned⟩

/-- A dump over the end of the address space. -/
theorem memory_dump_wraps :
    Logger.DumpsMemory { currentLevel := .debug }
      (fun _ => 0 : FlatMemory) 0xFFF8 0x14 :=
  (memory_dump_complete_iff { currentLevel := .debug } (by decide)
    (fun _ => 0 : FlatMemory) 0xFFF8 0x14).1.mpr (by decide)

/-- A dump of the longest length never returns. -/
theorem memory_dump_of_all_but_one :
    ¬ ∀ (logger : Logger) (memory : FlatMemory) (start : Address)
      (length : Word),
      LogLevel.debug.value ≤ logger.currentLevel.value →
        logger.DumpsMemory memory start length := by
  intro always
  obtain ⟨fuel, rows, made, -, -⟩ :=
    always { currentLevel := .debug } (fun _ => 0) 0 0xFFFF (by decide)
  rw [dumpRows_of_no_room 0 (by decide)] at made
  exact Option.some_ne_none _ made.symm

end Dump

end CyclePerfectGameboy
