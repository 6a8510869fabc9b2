import ModbusNet.Proof.Ledger

namespace ModbusNet

/-- The file and the section of each register. Two registers hold the totals. -/
structure Layout where
  place : Nat → Option (Feed × Bool)
  inside : ∀ a p, place a = some p → a < meterNumRegisters ∧ a ≠ 10 ∧ a ≠ 26

namespace Layout
variable (layout : Layout)

def weight (current : Bool) (a : Nat) : Int :=
  match layout.place a with
  | some (feed, section') =>
      if section' = current then if feed.port = 1 then -1 else 1 else 0
  | none => 0

def net (current : Bool) (v : Nat → Int) : Int :=
  ∑ a ∈ Finset.range meterNumRegisters, layout.weight current a * v a

def size : Nat := ((Finset.range meterNumRegisters).filter fun a => (layout.place a).isSome).card

theorem weight_abs_le (current : Bool) (a : Nat) :
    |layout.weight current a| ≤ if (layout.place a).isSome then 1 else 0 := by
  unfold weight
  split
  · rename_i placed
    rw [placed]
    split_ifs <;> simp_all
  · rename_i unplaced
    rw [unplaced]
    simp

theorem net_abs_le (current : Bool) {v : Nat → Int} {bound : Nat} (bounded : ∀ a, |v a| ≤ bound) :
    |layout.net current v| ≤ layout.size * bound := by
  calc |layout.net current v|
      ≤ ∑ a ∈ Finset.range meterNumRegisters, |layout.weight current a * v a| :=
        Finset.abs_sum_le_sum_abs _ _
    _ ≤ ∑ a ∈ Finset.range meterNumRegisters,
          (if (layout.place a).isSome then (1 : Int) else 0) * bound := by
        refine Finset.sum_le_sum fun a _ => ?_
        rw [abs_mul]
        exact mul_le_mul (layout.weight_abs_le current a) (bounded a) (abs_nonneg _)
          (by split <;> decide)
    _ = layout.size * bound := by
        rw [← Finset.sum_mul, Finset.sum_boole, size]

theorem net_update (current : Bool) (v : Nat → Int) {a : Nat} (inside : a < meterNumRegisters)
    (x : Int) : layout.net current (Function.update v a x) =
      layout.net current v - layout.weight current a * v a + layout.weight current a * x := by
  have member : a ∈ Finset.range meterNumRegisters := Finset.mem_range.mpr inside
  have others : ∑ b ∈ (Finset.range meterNumRegisters).erase a,
      layout.weight current b * Function.update v a x b =
      ∑ b ∈ (Finset.range meterNumRegisters).erase a, layout.weight current b * v b := by
    refine Finset.sum_congr rfl fun b other => ?_
    rw [Function.update_of_ne (Finset.ne_of_mem_erase other)]
  rw [net, net, ← Finset.add_sum_erase _ _ member, ← Finset.add_sum_erase _ _ member, others,
    Function.update_self]
  ring

theorem weight_placed {a : Nat} {feed : Feed} {current : Bool}
    (placed : layout.place a = some (feed, current)) :
    layout.weight current a = if feed.port = 1 then -1 else 1 := by
  rw [weight, placed]
  simp

theorem weight_other {a : Nat} {feed : Feed} {current : Bool}
    (placed : layout.place a = some (feed, current)) : layout.weight (!current) a = 0 := by
  rw [weight, placed]
  cases current <;> rfl

end Layout

/-- The ledger holds the value `v a` for every register `a` and the totals of these values. -/
structure Accounts (layout : Layout) (bound : Nat) (v : Nat → Int) (l : Ledger) : Prop where
  length : l.values.length = meterNumRegisters
  slots : ∀ a < meterNumRegisters, a ≠ 10 → a ≠ 26 → l.values[a]? = some (.finite (v a))
  bounded : ∀ a, |v a| ≤ bound
  totals : ∀ current, l.total current = .finite (layout.net current v)

structure Accounted (layout : Layout) (bound : Nat) (v : Nat → Int) (p : Posted) : Prop where
  accounts : Accounts layout bound v p.ledger
  integers : ∀ i ∈ p.issues, ∃ n : Int, i.value = .finite n

theorem Accounted.convertible {layout : Layout} {bound : Nat} {v : Nat → Int} {p : Posted}
    (accounted : Accounted layout bound v p) : p.Convertible := by
  intro i member
  obtain ⟨n, value⟩ := accounted.integers i member
  rw [value, Binary32.toUint16_intCast]
  rfl

theorem Accounted.andThen {layout : Layout} {bound : Nat} {v v' : Nat → Int} {p : Posted}
    {next : Ledger → Posted} (first : Accounted layout bound v p)
    (then_ : Accounted layout bound v' (next p.ledger)) :
    Accounted layout bound v' (p.andThen next) where
  accounts := then_.accounts
  integers i member := (List.mem_append.mp member).elim (first.integers i) (then_.integers i)

theorem Ledger.issue_integers {online : Bool} {a : Nat} {n : Int} {i : Issue}
    (member : i ∈ Ledger.issue online a (.finite n)) : ∃ n : Int, i.value = .finite n := by
  rw [issue] at member
  split at member
  · rw [List.mem_singleton.mp member]
    exact ⟨n, rfl⟩
  · cases member

theorem bounded_update {v : Nat → Int} {bound : Nat} (bounded : ∀ a, |v a| ≤ bound) (a : Nat)
    {x : Int} (small : |x| ≤ bound) (b : Nat) : |Function.update v a x b| ≤ bound := by
  by_cases same : b = a
  · rw [same, Function.update_self]
    exact small
  · rw [Function.update_of_ne same]
    exact bounded b

namespace Accounts
variable {layout : Layout} {bound : Nat} {v : Nat → Int} {l : Ledger}

theorem zero (layout : Layout) (bound : Nat) : Accounts layout bound (fun _ => 0) .zero where
  length := rfl
  slots := by
    intro a inside _ _
    rw [Ledger.zero, List.getElem?_replicate, if_pos inside, Int.cast_zero]
    rfl
  bounded := by simp
  totals := by
    intro current
    have nothing : layout.net current (fun _ => 0) = 0 := by simp [Layout.net]
    rw [nothing, Int.cast_zero]
    cases current <;> rfl

theorem enter (accounts : Accounts layout bound v l) {a : Nat} {feed : Feed} {current : Bool}
    (placed : layout.place a = some (feed, current)) {x : Int} (small : |x| ≤ bound)
    (change : Binary32 → Binary32) (changed : change (.finite (layout.net current v)) =
      .finite (layout.net current (Function.update v a x))) :
    Accounts layout bound (Function.update v a x) (l.enter ⟨current, a, .finite x⟩ change) where
  length := by rw [Ledger.enter, List.length_set, accounts.length]
  slots := by
    intro b inside notCurrent notVoltage
    rw [Ledger.enter, Int.toNat_natCast]
    by_cases same : b = a
    · subst same
      rw [Function.update_self, List.getElem?_set_self (by rw [accounts.length]; exact inside)]
    · rw [Function.update_of_ne same, List.getElem?_set_ne (Ne.symm same)]
      exact accounts.slots b inside notCurrent notVoltage
  bounded := bounded_update accounts.bounded a small
  totals := by
    have own := accounts.totals current
    have other : layout.net (!current) (Function.update v a x) = layout.net (!current) v := by
      rw [layout.net_update (!current) v (layout.inside a _ placed).1 x, layout.weight_other placed,
        zero_mul, zero_mul, sub_zero, add_zero]
    intro section'
    rcases Bool.eq_or_eq_not section' current with rfl | rfl
    · rw [← changed, ← own]
      cases section' <;> rfl
    · rw [other, ← accounts.totals (!current)]
      cases current <;> rfl

theorem slot (accounts : Accounts layout bound v l) {a : Nat} {p : Feed × Bool}
    (placed : layout.place a = some p) : l.values.getD a 0 = .finite (v a) := by
  obtain ⟨inside, notCurrent, notVoltage⟩ := layout.inside a p placed
  rw [List.getD_eq_getElem?_getD, accounts.slots a inside notCurrent notVoltage, Option.getD_some]

theorem recordTotals (accounts : Accounts layout bound v l) (online : Bool) :
    Accounted layout bound v (l.recordTotals online) where
  accounts :=
    { length := by rw [Ledger.recordTotals, List.length_set, List.length_set, accounts.length]
      slots := by
        intro a inside notCurrent notVoltage
        rw [Ledger.recordTotals, List.getElem?_set_ne (Ne.symm notVoltage),
          List.getElem?_set_ne (Ne.symm notCurrent)]
        exact accounts.slots a inside notCurrent notVoltage
      bounded := accounts.bounded
      totals := accounts.totals }
  integers := by
    have current : l.totalCurrent = .finite (layout.net true v) := accounts.totals true
    have voltage : l.totalVoltage = .finite (layout.net false v) := accounts.totals false
    intro i member
    rw [Ledger.recordTotals, current, voltage] at member
    exact (List.mem_append.mp member).elim Ledger.issue_integers Ledger.issue_integers

theorem net_without_le (accounts : Accounts layout bound v l) (current : Bool) {a : Nat}
    (inside : a < meterNumRegisters) (x : Int) (small : |x| ≤ bound) :
    |layout.net current v - layout.weight current a * v a| ≤ layout.size * bound ∧
      |layout.net current v - layout.weight current a * v a + layout.weight current a * x| ≤
        layout.size * bound := by
  have removed := layout.net_update current v inside 0
  rw [mul_zero, add_zero] at removed
  rw [← layout.net_update current v inside x, ← removed]
  exact ⟨layout.net_abs_le current (bounded_update accounts.bounded a (by simp)),
    layout.net_abs_le current (bounded_update accounts.bounded a small)⟩

end Accounts

theorem adjust_exact {w t p x : Int} {port : Nat} (sign : w = if port = 1 then -1 else 1)
    (without : |t - w * p| ≤ 2 ^ 24) (whole : |t - w * p + w * x| ≤ 2 ^ 24) :
    (if port = 1 then Binary32.finite t + .finite p - .finite x
      else .finite t - .finite p + .finite x) = .finite (t - w * p + w * x : Int) := by
  by_cases imported : port = 1
  · rw [if_pos imported] at sign ⊢
    subst sign
    have removed : t - -1 * p = t + p := by ring
    have replaced : t + p + -1 * x = t + p - x := by ring
    rw [removed] at without whole ⊢
    rw [replaced] at whole ⊢
    rw [Binary32.add_intCast without, Binary32.sub_intCast whole]
  · rw [if_neg imported] at sign ⊢
    subst sign
    rw [one_mul, one_mul] at *
    rw [Binary32.sub_intCast without, Binary32.add_intCast whole]

section
variable {layout : Layout} {bound : Nat} (exactSums : layout.size * bound ≤ 2 ^ 24) (online : Bool)
include exactSums

theorem Accounts.check {v : Nat → Int} {l : Ledger} (accounts : Accounts layout bound v l)
    {a : Nat} {feed : Feed} {current : Bool} (placed : layout.place a = some (feed, current)) {x : Int}
    (small : |x| ≤ bound) :
    Accounted layout bound (Function.update v a x)
      (l.check online feed.port ⟨current, a, .finite x⟩) := by
  have inside := (layout.inside a _ placed).1
  have limit : ((layout.size * bound : Nat) : Int) ≤ 2 ^ 24 := by exact_mod_cast exactSums
  rw [Nat.cast_mul] at limit
  obtain ⟨without, whole⟩ := accounts.net_without_le current inside x small
  rw [Ledger.check, Int.toNat_natCast, accounts.slot placed]
  simp only [Binary32.finite_differs]
  -- The totals change only for a value that is new.
  by_cases same : v a = x
  · rw [if_neg (by simp [same]), ← same, Function.update_eq_self]
    exact ⟨accounts, by simp⟩
  · rw [if_pos (by simpa using same)]
    have entered := accounts.enter placed small
      (fun total => if feed.port = 1 then total + .finite (v a) - .finite x
        else total - .finite (v a) + .finite x)
      (by
        rw [layout.net_update current v inside x]
        exact adjust_exact (layout.weight_placed placed) (without.trans limit) (whole.trans limit))
    have changed : Accounted layout bound (Function.update v a x)
        (l.change online feed.port ⟨current, a, .finite x⟩ (.finite (v a))) :=
      ⟨entered, fun i member => Ledger.issue_integers member⟩
    refine changed.andThen ?_
    cases online with
    | true => exact changed.accounts.recordTotals true
    | false => exact ⟨changed.accounts, by simp⟩

theorem Accounts.initial {v : Nat → Int} {l : Ledger} (accounts : Accounts layout bound v l)
    {a : Nat} {feed : Feed} {current : Bool} (placed : layout.place a = some (feed, current))
    (unset : v a = 0) {x : Int} (small : |x| ≤ bound) :
    Accounted layout bound (Function.update v a x)
      (l.initial online feed.port ⟨current, a, .finite x⟩) := by
  have inside := (layout.inside a _ placed).1
  have limit : ((layout.size * bound : Nat) : Int) ≤ 2 ^ 24 := by exact_mod_cast exactSums
  rw [Nat.cast_mul] at limit
  have whole := (accounts.net_without_le current inside x small).2.trans limit
  rw [unset, mul_zero, sub_zero, layout.weight_placed placed] at whole
  have entered := accounts.enter placed small
    (fun total => if feed.port = 1 then total - .finite x else total + .finite x)
    (by
      rw [layout.net_update current v inside x, unset, mul_zero, sub_zero,
        layout.weight_placed placed]
      by_cases imported : feed.port = 1
      · rw [if_pos imported, neg_one_mul, ← sub_eq_add_neg] at whole
        simp only [if_pos imported]
        rw [Binary32.sub_intCast whole, neg_one_mul, ← sub_eq_add_neg]
      · rw [if_neg imported, one_mul] at whole
        simp only [if_neg imported]
        rw [Binary32.add_intCast whole, one_mul])
  exact ⟨entered, fun i member => Ledger.issue_integers member⟩

end

def Returning {κ : Type} (writeRegister : κ → Int → Word → Except Failure Int × κ) : Prop :=
  ∀ c address value, (∃ n, (writeRegister c address value).1 = .ok n) ∨
    ∃ e, (writeRegister c address value).1 = .error (.errno e)

theorem Returning.keeps {κ : Type} {writeRegister : κ → Int → Word → Except Failure Int × κ}
    (returning : Returning writeRegister) : Keeps writeRegister fun _ _ _ => True := by
  intro c notices issues a value word _ _ _
  rcases returning c a word with ⟨n, returned⟩ | ⟨e, failed⟩
  · exact ⟨_, _, true, Prod.mk.eta.symm, by simpa using ⟨n, returned⟩, trivial⟩
  · exact ⟨_, _, false, Prod.mk.eta.symm, by simpa using ⟨e, failed⟩, trivial⟩

end ModbusNet
