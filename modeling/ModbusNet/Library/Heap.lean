import Mathlib.Tactic

/-!
# Blocks of memory

An allocator that may refuse any request, and the rules for what is allocated: `Holds h blocks` says
that the blocks are all that is allocated. A block that is freed twice, or that was never allocated,
leaves no heap.
-/

namespace ModbusNet

structure Heap where
  live : List Nat
  calls : Nat

namespace Heap

def empty : Heap := ⟨[], 0⟩

/-- The calls that `refuses` names give a null pointer. -/
def malloc (refuses : Nat → Bool) (h : Heap) : Option Nat × Heap :=
  if refuses h.calls then (none, { h with calls := h.calls + 1 })
  else (some h.calls, ⟨h.calls :: h.live, h.calls + 1⟩)

def free (block : Option Nat) (h : Heap) : Option Heap :=
  match block with
  | none => some h
  | some b => if b ∈ h.live then some { h with live := h.live.erase b } else none

structure Holds (h : Heap) (blocks : List Nat) : Prop where
  live : h.live.Perm blocks
  nodup : blocks.Nodup
  old : ∀ b ∈ blocks, b < h.calls

theorem empty_holds : empty.Holds [] where
  live := .nil
  nodup := List.nodup_nil
  old := fun _ member => absurd member List.not_mem_nil

variable {h h' : Heap} {blocks : List Nat}

theorem Holds.perm {blocks' : List Nat} (holds : h.Holds blocks) (same : blocks.Perm blocks') :
    h.Holds blocks' where
  live := holds.live.trans same
  nodup := same.nodup_iff.mp holds.nodup
  old := fun b member => holds.old b (same.mem_iff.mpr member)

theorem Holds.malloc_some (holds : h.Holds blocks) {refuses : Nat → Bool} {b : Nat}
    (allocated : h.malloc refuses = (some b, h')) : h'.Holds (b :: blocks) := by
  unfold malloc at allocated
  split at allocated
  · cases allocated
  · obtain ⟨⟨rfl⟩, rfl⟩ := Prod.mk.inj allocated
    constructor
    · exact holds.live.cons _
    · apply List.nodup_cons.mpr
      refine ⟨fun member => ?_, holds.nodup⟩
      exact absurd (holds.old _ member) (lt_irrefl _)
    · intro b member
      rcases List.mem_cons.mp member with rfl | earlier
      · exact Nat.lt_succ_self _
      · exact (holds.old b earlier).trans (Nat.lt_succ_self _)

theorem Holds.malloc_none (holds : h.Holds blocks) {refuses : Nat → Bool}
    (refused : h.malloc refuses = (none, h')) : h'.Holds blocks := by
  unfold malloc at refused
  split at refused
  · obtain ⟨-, rfl⟩ := Prod.mk.inj refused
    exact ⟨holds.live, holds.nodup, fun b member => (holds.old b member).trans (Nat.lt_succ_self _)⟩
  · cases refused

theorem malloc_refused {refuses : Nat → Bool} (refused : h.malloc refuses = (none, h')) :
    refuses h.calls = true := by
  unfold malloc at refused
  split at refused
  · assumption
  · cases refused

theorem malloc_granted {refuses : Nat → Bool} {b : Nat} (granted : h.malloc refuses = (some b, h')) :
    refuses h.calls = false ∧ h'.calls = h.calls + 1 := by
  unfold malloc at granted
  split at granted
  · cases granted
  · rename_i grants
    obtain ⟨-, rfl⟩ := Prod.mk.inj granted
    exact ⟨Bool.eq_false_iff.mpr grants, rfl⟩

theorem Holds.free_some {b : Nat} (holds : h.Holds (b :: blocks)) :
    ∃ h', h.free (some b) = some h' ∧ h'.Holds blocks := by
  have member : b ∈ h.live := holds.live.mem_iff.mpr List.mem_cons_self
  refine ⟨_, if_pos member, ?_, holds.nodup.of_cons, fun c later =>
    holds.old c (List.mem_cons_of_mem b later)⟩
  have erased := holds.live.erase b
  rwa [List.erase_cons_head] at erased

theorem Holds.free {block : Option Nat} (holds : h.Holds (block.toList ++ blocks)) :
    ∃ h', h.free block = some h' ∧ h'.Holds blocks := by
  cases block with
  | none => exact ⟨h, rfl, holds⟩
  | some b => exact holds.free_some

end Heap
end ModbusNet
