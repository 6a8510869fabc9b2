import Mathlib.Tactic

/-!
# Input that arrives over time

A reader sees a sequence of signals: items, silences long enough to end its wait, and the end of
the connection. `Incoming` also says how the items are grouped when they arrive. The lemmas let a
reader forget the grouping: waiting and taking depend on the signals alone.
-/

namespace ModbusNet

variable {α : Type*}

inductive Signal (α : Type*)
  | item (a : α)
  | silence
  | hangup

inductive Arrival (α : Type*)
  | items (first : α) (rest : List α)
  | silence
  | hangup

def Arrival.signals : Arrival α → List (Signal α)
  | .items first rest => (first :: rest).map .item
  | .silence => [.silence]
  | .hangup => [.hangup]

def Signal.arrival : Signal α → Arrival α
  | .item a => .items a []
  | .silence => .silence
  | .hangup => .hangup

theorem arrivals_signals (s : List (Signal α)) :
    (s.map Signal.arrival).flatMap Arrival.signals = s := by
  induction s with
  | nil => rfl
  | cons signal s ih =>
      rw [List.map_cons, List.flatMap_cons, ih]
      cases signal <;> rfl

structure Incoming (α : Type*) where
  queued : List α
  future : List (Arrival α)

namespace Incoming

def signals (l : Incoming α) : List (Signal α) :=
  l.queued.map .item ++ l.future.flatMap Arrival.signals

inductive Wait
  | ready
  | silence
  | endless

def wait : Incoming α → Wait × Incoming α
  | ⟨a :: as, future⟩ => (.ready, ⟨a :: as, future⟩)
  | ⟨[], .items first rest :: future⟩ => (.ready, ⟨first :: rest, future⟩)
  | ⟨[], .silence :: future⟩ => (.silence, ⟨[], future⟩)
  | ⟨[], .hangup :: future⟩ => (.ready, ⟨[], .hangup :: future⟩)
  | ⟨[], []⟩ => (.endless, ⟨[], []⟩)

def take (n : Nat) (l : Incoming α) : List α × Incoming α :=
  (l.queued.take n, { l with queued := l.queued.drop n })

def discard (l : Incoming α) : Incoming α := { l with queued := [] }

@[simp] theorem signals_discard (l : Incoming α) :
    l.discard.signals = l.future.flatMap Arrival.signals := rfl

theorem signals_queue (as : List α) (future : List (Arrival α)) :
    (⟨as, future⟩ : Incoming α).signals = as.map .item ++ future.flatMap Arrival.signals := rfl

theorem wait_item (l : Incoming α) (a : α) (rest : List (Signal α))
    (next : l.signals = .item a :: rest) :
    ∃ as future, l.wait = (.ready, ⟨a :: as, future⟩) ∧
      (⟨a :: as, future⟩ : Incoming α).signals = l.signals := by
  obtain ⟨queued, future⟩ := l
  cases queued with
  | cons b bs =>
      obtain ⟨rfl, -⟩ : b = a ∧ _ := by simpa [signals] using next
      exact ⟨bs, future, rfl, rfl⟩
  | nil =>
      cases future with
      | nil => simp [signals] at next
      | cons arrival future =>
          cases arrival with
          | items first more =>
              obtain ⟨rfl, -⟩ : first = a ∧ _ := by
                simpa [signals, Arrival.signals] using next
              exact ⟨more, future, rfl, by simp [signals, Arrival.signals]⟩
          | silence => simp [signals, Arrival.signals] at next
          | hangup => simp [signals, Arrival.signals] at next

theorem wait_silence (l : Incoming α) (rest : List (Signal α))
    (next : l.signals = .silence :: rest) :
    ∃ future, l.wait = (.silence, ⟨[], future⟩) ∧ (⟨[], future⟩ : Incoming α).signals = rest := by
  obtain ⟨queued, future⟩ := l
  cases queued with
  | cons b bs => simp [signals] at next
  | nil =>
      cases future with
      | nil => simp [signals] at next
      | cons arrival future =>
          cases arrival with
          | items first more => simp [signals, Arrival.signals] at next
          | silence => exact ⟨future, rfl, by simpa [signals, Arrival.signals] using next⟩
          | hangup => simp [signals, Arrival.signals] at next

theorem wait_queued (queued : List α) : (wait ⟨queued, []⟩).2 = ⟨queued, []⟩ := by
  cases queued <;> rfl

theorem wait_signals (l : Incoming α) :
    List.Sublist l.wait.2.signals l.signals ∧ (l.wait.1 = .ready → l.wait.2.signals = l.signals) ∧
      (l.wait.1 = .endless → l.wait.2.signals = []) := by
  obtain ⟨queued, future⟩ := l
  cases queued with
  | cons a as => exact ⟨.refl _, fun _ => rfl, fun _ => by contradiction⟩
  | nil =>
      cases future with
      | nil => exact ⟨.refl _, fun _ => rfl, fun _ => rfl⟩
      | cons arrival future =>
          cases arrival with
          | items first rest =>
              have same : (wait ⟨[], .items first rest :: future⟩).2.signals =
                  (⟨[], .items first rest :: future⟩ : Incoming α).signals := by
                simp [wait, signals, Arrival.signals]
              exact ⟨same ▸ .refl _, fun _ => same, fun _ => by contradiction⟩
          | silence =>
              refine ⟨?_, fun _ => by contradiction, fun _ => by contradiction⟩
              exact List.sublist_cons_self _ _
          | hangup => exact ⟨.refl _, fun _ => rfl, fun _ => by contradiction⟩

theorem eq_of_signals {l : Incoming α} {queued : List α} (settled : l.future = [])
    (next : l.signals = queued.map .item) : l = ⟨queued, []⟩ := by
  obtain ⟨as, future⟩ := l
  obtain rfl : future = [] := settled
  have same : as.map Signal.item = queued.map Signal.item := by simpa [signals] using next
  rw [List.map_injective_iff.mpr (fun _ _ => Signal.item.inj) same]

theorem signals_take (n : Nat) (l : Incoming α) :
    l.signals = (l.take n).1.map .item ++ (l.take n).2.signals := by
  simp only [take, signals, ← List.append_assoc, ← List.map_append, List.take_append_drop]

theorem take_signals (n : Nat) (l : Incoming α) : List.Sublist (l.take n).2.signals l.signals := by
  rw [signals_take n l]
  exact List.sublist_append_right _ _

theorem split_items (xs bs : List α) (s rest : List (Signal α))
    (same : xs.map .item ++ s = bs.map .item ++ rest) (short : xs.length ≤ bs.length) :
    ∃ later, bs = xs ++ later ∧ s = later.map .item ++ rest := by
  induction xs generalizing bs with
  | nil => exact ⟨bs, rfl, same⟩
  | cons x xs ih =>
      cases bs with
      | nil => simp at short
      | cons b bs =>
          simp only [List.map_cons, List.cons_append, List.cons.injEq, Signal.item.injEq] at same
          obtain ⟨rfl, same⟩ := same
          obtain ⟨later, rfl, tail⟩ := ih bs same (by simpa using short)
          exact ⟨later, rfl, tail⟩

theorem take_items (n : Nat) (l : Incoming α) (bs : List α) (rest : List (Signal α))
    (next : l.signals = bs.map .item ++ rest) (enough : n ≤ bs.length) :
    ∃ later, bs = (l.take n).1 ++ later ∧ (l.take n).2.signals = later.map .item ++ rest := by
  apply split_items _ _ _ _ ((signals_take n l).symm.trans next)
  exact (List.length_take_le n l.queued).trans enough

end Incoming
end ModbusNet
