import ModbusNet.Proof.Accounts

namespace ModbusNet

/-! ## Files -/

def Entry.Fits (layout : Layout) (bound : Nat) (feed : Feed) (e : Entry) : Prop :=
  ∃ (a : Nat) (x : Int), e.address = a ∧ layout.place a = some (feed, e.current) ∧
    e.value = .finite x ∧ |x| ≤ bound

/-- What a register file holds: each of its registers once, in its section. -/
structure FileFits (layout : Layout) (bound : Nat) (feed : Feed) (es : List Entry) : Prop where
  fits : ∀ e ∈ es, e.Fits layout bound feed
  nodup : (es.map Entry.address).Nodup
  complete : ∀ a current, layout.place a = some (feed, current) → ∃ e ∈ es, e.address = a

abbrev Contents := Feed → RegisterFile

/-- The values are those in the files; a register whose file has not been read holds 0. -/
def Reflects (layout : Layout) (contents : Contents) (v : Nat → Int) : Prop :=
  (∀ a, layout.place a = none → v a = 0) ∧
  ∀ a feed current, layout.place a = some (feed, current) →
    match contents feed with
    | none => v a = 0
    | some text => ∃ e ∈ entries (some text), e.address = a ∧ e.value = .finite (v a)

theorem FileFits.inArray {layout : Layout} {bound : Nat} {feed : Feed} {es : List Entry}
    (fits : FileFits layout bound feed es) : ∀ e ∈ es, InArray e.address := by
  intro e member
  obtain ⟨a, -, address, placed, -⟩ := fits.fits e member
  rw [address]
  exact ⟨Int.natCast_nonneg a, Int.ofNat_lt.mpr (layout.inside a _ placed).1⟩

section
variable {layout : Layout} {bound : Nat} {feed : Feed} {post : Entry → Ledger → Posted}
  (Ready : Int → Prop)
  (step : ∀ {v : Nat → Int} {l : Ledger} {a : Nat} {current : Bool} {x : Int},
    Accounts layout bound v l → layout.place a = some (feed, current) → Ready (v a) →
    |x| ≤ bound → Accounted layout bound (Function.update v a x) (post ⟨current, a, .finite x⟩ l))
include step

theorem postAll_accounted (es : List Entry) (fits : ∀ e ∈ es, e.Fits layout bound feed)
    (nodup : (es.map Entry.address).Nodup) {v : Nat → Int} {l : Ledger}
    (accounts : Accounts layout bound v l)
    (ready : ∀ e ∈ es, ∀ a : Nat, e.address = a → Ready (v a)) :
    ∃ v', Accounted layout bound v' (l.postAll post es) ∧
      (∀ e ∈ es, ∀ a : Nat, e.address = a → e.value = .finite (v' a)) ∧
      ∀ a : Nat, (∀ e ∈ es, e.address ≠ a) → v' a = v a := by
  induction es generalizing v l with
  | nil => exact ⟨v, ⟨accounts, by simp [Ledger.postAll]⟩, by simp, fun _ _ => rfl⟩
  | cons e es ih =>
      obtain ⟨current, address, value⟩ := e
      obtain ⟨a, x, rfl, placed, rfl, small⟩ := fits _ List.mem_cons_self
      have accounted := step accounts placed (ready _ List.mem_cons_self a rfl) small
      rw [List.map_cons, List.nodup_cons] at nodup
      obtain ⟨fresh, nodup⟩ := nodup
      have others : ∀ e' ∈ es, e'.address ≠ a := fun e' member same =>
        fresh (List.mem_map.mpr ⟨e', member, same⟩)
      -- No later entry is for this register, so that its value stays to the end.
      obtain ⟨v', accounted', held, kept⟩ := ih
        (fun e' member => fits e' (List.mem_cons_of_mem _ member)) nodup accounted.accounts (by
          intro e' member b address'
          have other : b ≠ a := fun same => others e' member (same ▸ address')
          rw [Function.update_of_ne other]
          exact ready e' (List.mem_cons_of_mem _ member) b address')
      refine ⟨v', accounted.andThen accounted', ?_, ?_⟩
      · intro e' member b address'
        rcases List.mem_cons.mp member with rfl | later
        · obtain rfl : a = b := Int.ofNat.inj address'
          rw [kept a others, Function.update_self]
        · exact held e' later b address'
      · intro b none'
        have other : b ≠ a := fun same => none' _ List.mem_cons_self (same ▸ rfl)
        rw [kept b fun e' member => none' e' (List.mem_cons_of_mem _ member),
          Function.update_of_ne other]

theorem postFile_accounted (file : RegisterFile)
    (fits : ∀ text, file = some text → FileFits layout bound feed (entries (some text)))
    {v : Nat → Int} {l : Ledger} {contents : Contents} (accounts : Accounts layout bound v l)
    (reflects : Reflects layout contents v)
    (ready : ∀ a current, layout.place a = some (feed, current) → Ready (v a)) :
    ∃ v', Accounted layout bound v' (l.postAll post (entries file)) ∧
      Reflects layout (Function.update contents feed (file.or (contents feed))) v' := by
  cases file with
  | none =>
      refine ⟨v, ⟨accounts, by simp [entries, Ledger.postAll]⟩, ?_⟩
      rw [Option.none_or, Function.update_eq_self]
      exact reflects
  | some text =>
      obtain ⟨fits, nodup, complete⟩ := fits text rfl
      obtain ⟨v', accounted, held, kept⟩ := postAll_accounted Ready step _ fits nodup accounts (by
        intro e member a address
        obtain ⟨b, -, address', placed, -⟩ := fits e member
        obtain rfl : a = b := by
          rw [address] at address'
          exact_mod_cast address'
        exact ready a _ placed)
      have elsewhere : ∀ a, (∀ current, layout.place a ≠ some (feed, current)) → v' a = v a := by
        intro a notHere
        refine kept a fun e member address => ?_
        obtain ⟨b, -, address', placed, -⟩ := fits e member
        obtain rfl : a = b := by
          rw [address] at address'
          exact_mod_cast address'
        exact notHere _ placed
      refine ⟨v', accounted, ?_, ?_⟩
      · intro a unplaced
        rw [elsewhere a fun current placed => by rw [unplaced] at placed; cases placed]
        exact reflects.1 a unplaced
      · intro a feed' current placed
        by_cases same : feed' = feed
        · subst same
          obtain ⟨e, member, address⟩ := complete a current placed
          rw [Function.update_self]
          exact ⟨e, member, address, held e member a address⟩
        · rw [Function.update_of_ne same, elsewhere a fun current' here => by
            rw [placed] at here
            exact same (congrArg Prod.fst (Option.some.inj here))]
          exact reflects.2 a feed' current placed

end

theorem Reflects.unique {layout : Layout} {bound : Nat} {contents : Contents} {v v' : Nat → Int}
    (fits : ∀ feed text, contents feed = some text →
      FileFits layout bound feed (entries (some text)))
    (reflects : Reflects layout contents v) (reflects' : Reflects layout contents v') : v = v' := by
  funext a
  cases place : layout.place a with
  | none => rw [reflects.1 a place, reflects'.1 a place]
  | some p =>
      obtain ⟨feed, current⟩ := p
      have here := reflects.2 a feed current place
      have here' := reflects'.2 a feed current place
      cases content : contents feed with
      | none =>
          rw [content] at here here'
          exact Eq.trans here (Eq.symm here')
      | some text =>
          rw [content] at here here'
          obtain ⟨e, member, address, value⟩ := here
          obtain ⟨e', member', address', value'⟩ := here'
          have same : e = e' := List.inj_on_of_nodup_map (fits feed text content).nodup member member'
            (address.trans address'.symm)
          rw [same, value'] at value
          exact_mod_cast (Binary32.finite.inj value).symm

/-! ## Sums over files -/

def Entry.amount (e : Entry) : ℚ :=
  match e.value with
  | .finite q => q
  | _ => 0

def sectionSum (current : Bool) (file : RegisterFile) : ℚ :=
  (((entries file).filter fun e => e.current == current).map Entry.amount).sum

def netSum (current : Bool) (contents : Contents) : ℚ :=
  sectionSum current (contents .pv) - sectionSum current (contents .ev) -
    sectionSum current (contents .hp)

def Layout.registers (layout : Layout) (feed : Feed) (current : Bool) : Finset Nat :=
  (Finset.range meterNumRegisters).filter fun a => layout.place a = some (feed, current)

theorem Layout.mem_registers (layout : Layout) {feed : Feed} {current : Bool} {a : Nat} :
    a ∈ layout.registers feed current ↔ layout.place a = some (feed, current) := by
  rw [registers, Finset.mem_filter, Finset.mem_range]
  exact ⟨And.right, fun placed => ⟨(layout.inside a _ placed).1, placed⟩⟩

theorem Layout.net_eq (layout : Layout) (current : Bool) (v : Nat → Int) :
    layout.net current v = ∑ a ∈ layout.registers .pv current, v a -
      ∑ a ∈ layout.registers .ev current, v a - ∑ a ∈ layout.registers .hp current, v a := by
  simp only [net, registers, Finset.sum_filter, ← Finset.sum_sub_distrib]
  refine Finset.sum_congr rfl fun a _ => ?_
  rw [weight]
  cases layout.place a with
  | none => simp
  | some p =>
      obtain ⟨feed, section'⟩ := p
      by_cases same : section' = current
      · subst same
        cases feed <;> simp [Feed.port, pvInverterPort, evChargerPort, heatPumpPort]
      · simp [same]

theorem sum_registers {layout : Layout} {bound : Nat} {contents : Contents} {v : Nat → Int}
    (fits : ∀ feed text, contents feed = some text →
      FileFits layout bound feed (entries (some text)))
    (reflects : Reflects layout contents v) (feed : Feed) (current : Bool) :
    ((∑ a ∈ layout.registers feed current, v a : Int) : ℚ) = sectionSum current (contents feed) := by
  cases content : contents feed with
  | none =>
      have zero : ∑ a ∈ layout.registers feed current, v a = 0 := by
        refine Finset.sum_eq_zero fun a member => ?_
        have here := reflects.2 a feed current (layout.mem_registers.mp member)
        rwa [content] at here
      rw [zero]
      rfl
  | some text =>
      obtain ⟨fits, nodup, complete⟩ := fits feed text content
      set section' := (entries (some text)).filter fun e => e.current == current with section_def
      have held : ∀ e ∈ entries (some text), ∀ a : Nat, e.address = a → e.value = .finite (v a) := by
        intro e member a address
        obtain ⟨b, x, address', placed, -⟩ := fits e member
        obtain rfl : a = b := by
          rw [address] at address'
          exact_mod_cast address'
        have here := reflects.2 a feed e.current placed
        rw [content] at here
        obtain ⟨e', member', address'', value⟩ := here
        rwa [List.inj_on_of_nodup_map nodup member member' (address.trans address''.symm)]
      have distinct : (section'.map fun e => e.address.toNat).Nodup := by
        refine List.Nodup.map_on ?_ (nodup.of_map.filter _)
        intro e member e' member' same
        obtain ⟨a, -, address, -⟩ := fits e (List.mem_of_mem_filter member)
        obtain ⟨a', -, address', -⟩ := fits e' (List.mem_of_mem_filter member')
        refine List.inj_on_of_nodup_map nodup (List.mem_of_mem_filter member)
          (List.mem_of_mem_filter member') ?_
        omega
      have same : layout.registers feed current = (section'.map fun e => e.address.toNat).toFinset := by
        ext a
        rw [layout.mem_registers, List.mem_toFinset, List.mem_map]
        constructor
        · intro placed
          obtain ⟨e, member, address⟩ := complete a current placed
          obtain ⟨b, -, address', placed', -⟩ := fits e member
          obtain rfl : a = b := by
            rw [address] at address'
            exact_mod_cast address'
          rw [placed] at placed'
          have flag : current = e.current := congrArg Prod.snd (Option.some.inj placed')
          exact ⟨e, List.mem_filter.mpr ⟨member, by simp [flag]⟩, by omega⟩
        · rintro ⟨e, member, rfl⟩
          obtain ⟨inFile, flag⟩ := List.mem_filter.mp member
          obtain ⟨b, -, address, placed, -⟩ := fits e inFile
          rw [address, Int.toNat_natCast, placed, beq_iff_eq.mp flag]
      rw [same, List.sum_toFinset _ distinct, List.map_map, sectionSum, ← section_def,
        Int.cast_list_sum, List.map_map]
      congr 1
      refine List.map_congr_left fun e member => ?_
      obtain ⟨a, -, address, -⟩ := fits e (List.mem_of_mem_filter member)
      have value := held e (List.mem_of_mem_filter member) a address
      simp only [Function.comp_apply, address, Int.toNat_natCast, Entry.amount, value]

theorem Reflects.net {layout : Layout} {bound : Nat} {contents : Contents} {v : Nat → Int}
    (fits : ∀ feed text, contents feed = some text →
      FileFits layout bound feed (entries (some text)))
    (reflects : Reflects layout contents v) (current : Bool) :
    (layout.net current v : ℚ) = netSum current contents := by
  rw [layout.net_eq, netSum, ← sum_registers fits reflects, ← sum_registers fits reflects,
    ← sum_registers fits reflects]
  push_cast
  rfl

/-! ## Runs -/

def Contents.read (contents : Contents) (files : RegisterFiles) : Contents := fun feed =>
  (files.get feed).or (contents feed)

def lastRead (start : RegisterFiles) (rounds : List RegisterFiles) : Contents :=
  rounds.foldl Contents.read start.get

def FilesFit (layout : Layout) (bound : Nat) (contents : Contents) : Prop :=
  ∀ feed text, contents feed = some text → FileFits layout bound feed (entries (some text))

theorem FilesFit.read {layout : Layout} {bound : Nat} {contents : Contents} {files : RegisterFiles}
    (before : FilesFit layout bound contents) (fits : FilesFit layout bound files.get) :
    FilesFit layout bound (contents.read files) := by
  intro feed text content
  rcases Option.or_eq_some_iff.mp content with now | ⟨-, earlier⟩
  · exact fits feed text now
  · exact before feed text earlier

theorem FilesFit.lastRead {layout : Layout} {bound : Nat} {start : RegisterFiles}
    {rounds : List RegisterFiles} (fits : ∀ files ∈ start :: rounds, FilesFit layout bound files.get) :
    FilesFit layout bound (lastRead start rounds) := by
  obtain ⟨first, later⟩ := List.forall_mem_cons.mp fits
  rw [ModbusNet.lastRead]
  generalize start.get = contents at first
  induction rounds generalizing contents with
  | nil => exact first
  | cons files rounds ih =>
      obtain ⟨next, later⟩ := List.forall_mem_cons.mp later
      exact ih (by simp_all) later _ (first.read next)

theorem Contents.read_eq (contents : Contents) (files : RegisterFiles) :
    contents.read files = Function.update (Function.update (Function.update contents .pv
      (files.pv.or (contents .pv))) .ev (files.ev.or (contents .ev))) .hp
      (files.hp.or (contents .hp)) := by
  funext feed
  cases feed <;> rfl

theorem FilesFit.inside {layout : Layout} {bound : Nat} {files : RegisterFiles}
    (fits : FilesFit layout bound files.get) : files.Inside := by
  intro feed e member
  cases content : files.get feed with
  | none =>
      rw [content] at member
      cases member
  | some text =>
      rw [content] at member
      exact (fits feed text content).inArray e member

section
variable {layout : Layout} {bound : Nat} (exactSums : layout.size * bound ≤ 2 ^ 24) (online : Bool)
include exactSums

theorem Accounts.poll {v : Nat → Int} {l : Ledger} {contents : Contents} {files : RegisterFiles}
    (accounts : Accounts layout bound v l) (reflects : Reflects layout contents v)
    (fits : FilesFit layout bound files.get) :
    ∃ v', Accounted layout bound v' (l.poll online files) ∧
      Reflects layout (contents.read files) v' := by
  have checked := fun (feed : Feed) {v : Nat → Int} {l : Ledger} {contents : Contents}
      (accounts : Accounts layout bound v l) (reflects : Reflects layout contents v) =>
    postFile_accounted (fun _ => True)
      (fun accounts placed _ small => accounts.check exactSums online placed small)
      (files.get feed) (fits feed) accounts reflects
  obtain ⟨v₁, pv, reflects₁⟩ := checked .pv accounts reflects fun _ _ _ => trivial
  obtain ⟨v₂, ev, reflects₂⟩ := checked .ev pv.accounts reflects₁ fun _ _ _ => trivial
  obtain ⟨v₃, hp, reflects₃⟩ := checked .hp ev.accounts reflects₂ fun _ _ _ => trivial
  refine ⟨v₃, (pv.andThen ev).andThen hp, ?_⟩
  rw [contents.read_eq]
  exact reflects₃

theorem Accounts.polls (rounds : List RegisterFiles) {v : Nat → Int} {l : Ledger}
    {contents : Contents} (accounts : Accounts layout bound v l) (reflects : Reflects layout contents v)
    (fits : ∀ files ∈ rounds, FilesFit layout bound files.get) :
    ∃ v', Accounted layout bound v' (l.polls online rounds) ∧
      Reflects layout (rounds.foldl Contents.read contents) v' := by
  induction rounds generalizing v l contents with
  | nil => exact ⟨v, ⟨accounts, by simp [Ledger.polls]⟩, reflects⟩
  | cons files rounds ih =>
      obtain ⟨first, later⟩ := List.forall_mem_cons.mp fits
      obtain ⟨v₁, round, reflects₁⟩ := accounts.poll exactSums online reflects first
      obtain ⟨v', more, reflects'⟩ := ih round.accounts reflects₁ later
      exact ⟨v', round.andThen more, reflects'⟩

theorem Accounts.initialAll {v : Nat → Int} {l : Ledger} (files : RegisterFiles)
    (accounts : Accounts layout bound v l) (reflects : Reflects layout (fun _ => none) v)
    (fits : FilesFit layout bound files.get) :
    ∃ v', Accounted layout bound v' (l.initialAll online files) ∧ Reflects layout files.get v' := by
  have read : ∀ (feed : Feed) {v : Nat → Int} {l : Ledger} {contents : Contents},
      Accounts layout bound v l → Reflects layout contents v → contents feed = none →
      ∃ v', Accounted layout bound v'
          (l.postAll (Ledger.initial online feed.port) (entries (files.get feed))) ∧
        Reflects layout (Function.update contents feed (files.get feed)) v' := by
    intro feed v l contents accounts reflects unread
    have reading := postFile_accounted (fun p => p = 0)
      (fun accounts placed unset small => accounts.initial exactSums online placed unset small)
      (files.get feed) (fits feed) accounts reflects fun a current placed => by
        have here := reflects.2 a feed current placed
        rwa [unread] at here
    rw [unread, Option.or_none] at reading
    exact reading
  obtain ⟨v₁, pv, reflects₁⟩ := read .pv accounts reflects rfl
  obtain ⟨v₂, ev, reflects₂⟩ := read .ev pv.accounts reflects₁ rfl
  obtain ⟨v₃, hp, reflects₃⟩ := read .hp ev.accounts reflects₂ rfl
  refine ⟨v₃, (pv.andThen ev).andThen hp, ?_⟩
  have every : files.get = Function.update (Function.update (Function.update
      (fun _ => none : Contents) .pv files.pv) .ev files.ev) .hp files.hp := by
    funext feed
    cases feed <;> rfl
  rw [every]
  exact reflects₃

end

theorem Reflects.zero (layout : Layout) : Reflects layout (fun _ => none) fun _ => 0 :=
  ⟨fun _ _ => rfl, fun _ _ _ _ => rfl⟩

theorem Ledger.run_accounted {layout : Layout} {bound : Nat} (exactSums : layout.size * bound ≤ 2 ^ 24)
    (online : Bool) {start : RegisterFiles} {rounds : List RegisterFiles}
    (fits : ∀ files ∈ start :: rounds, FilesFit layout bound files.get) :
    ∃ v, Accounted layout bound v (Ledger.run online start rounds) ∧
      Reflects layout (lastRead start rounds) v := by
  obtain ⟨first, later⟩ := List.forall_mem_cons.mp fits
  obtain ⟨v₁, initialized, reflects₁⟩ :=
    (Accounts.zero layout bound).initialAll exactSums online start (.zero layout) first
  have updated := initialized.andThen (initialized.accounts.recordTotals online)
  obtain ⟨v, polled, reflects⟩ :=
    updated.accounts.polls exactSums online rounds reflects₁ later
  exact ⟨v, updated.andThen polled, reflects⟩

def lastFiles (start : RegisterFiles) (rounds : List RegisterFiles) : RegisterFiles :=
  ⟨lastRead start rounds .pv, lastRead start rounds .ev, lastRead start rounds .hp⟩

theorem lastFiles_get (start : RegisterFiles) (rounds : List RegisterFiles) :
    (lastFiles start rounds).get = lastRead start rounds := by
  funext feed
  cases feed <;> rfl

/-- After any number of rounds, whatever became of the writes to the controller, the meter holds the
values and totals of a fresh start on the files read last. -/
theorem run_totals {κ : Type} (writeRegister : κ → Int → Word → Except Failure Int × κ)
    (returning : Returning writeRegister) (layout : Layout) (bound : Nat)
    (exactSums : layout.size * bound ≤ 2 ^ 24) (ctx : Option κ) (start : RegisterFiles)
    (rounds : List RegisterFiles) (fits : ∀ files ∈ start :: rounds, FilesFit layout bound files.get) :
    ∃ m fresh, Meter.run writeRegister ctx start rounds = .ok m ∧
      (Meter.zero none).initializeAll writeRegister (lastFiles start rounds) = .ok fresh ∧
      m.totalCurrent = fresh.totalCurrent ∧ m.totalVoltage = fresh.totalVoltage ∧
      (∀ a < meterNumRegisters, a ≠ 10 → a ≠ 26 → m.prevValues[a]? = fresh.prevValues[a]?) ∧
      m.totalCurrent = .finite (netSum true (lastRead start rounds)) ∧
      m.totalVoltage = .finite (netSum false (lastRead start rounds)) := by
  have last := FilesFit.lastRead fits
  obtain ⟨v, accounted, reflects⟩ := Ledger.run_accounted exactSums ctx.isSome fits
  obtain ⟨v', accounted', reflects'⟩ := (Accounts.zero layout bound).initialAll exactSums false
    (lastFiles start rounds) (.zero layout) (by rw [lastFiles_get]; exact last)
  have keeps : Keeps writeRegister fun _ _ _ => True := returning.keeps
  obtain ⟨m, run, ledger, -⟩ := Meter.run_posts keeps ctx trivial start rounds
    (fun files member => (fits files member).inside) accounted.convertible
  have inside : (lastFiles start rounds).Inside := FilesFit.inside (by rw [lastFiles_get]; exact last)
  have zero : (Meter.zero (none : Option κ)).Follows (fun _ _ _ => True) false [] := ⟨rfl, rfl, trivial⟩
  obtain ⟨fresh, recomputed, ledger', -⟩ := zero.initializeAll keeps
    inside accounted'.convertible
  rw [lastFiles_get] at reflects'
  -- Both meters reflect the files read last, and these determine the values.
  obtain rfl : v = v' := Reflects.unique last reflects reflects'
  have accounts : Accounts layout bound v m.ledger := ledger ▸ accounted.accounts
  have accounts' : Accounts layout bound v fresh.ledger := ledger' ▸ accounted'.accounts
  have total : ∀ current, m.ledger.total current = .finite (netSum current (lastRead start rounds)) := by
    intro current
    rw [accounts.totals, reflects.net last]
  have total' : ∀ current, fresh.ledger.total current = m.ledger.total current := by
    intro current
    rw [accounts.totals, accounts'.totals]
  refine ⟨m, fresh, run, recomputed, (total' true).symm, (total' false).symm, ?_, total true,
    total false⟩
  intro a inside notCurrent notVoltage
  exact (accounts.slots a inside notCurrent notVoltage).trans
    (accounts'.slots a inside notCurrent notVoltage).symm

def twoRegisters : Layout where
  place a := if a = 2 then some (.pv, true) else if a = 3 then some (.ev, true) else none
  inside a p placed := by
    split_ifs at placed with first second
    · subst first
      decide
    · subst second
      decide

def pvFile : List Char := "Current Register\n0x3002      10.0\n".toList
def pvFileLater : List Char := "Current Register\n0x3002      25.0\n".toList
def evFile : List Char := "Current Register\n0x3003       4.0\n".toList

theorem entries_pvFile : entries (some pvFile) = [⟨true, 2, .finite 10⟩] := by decide +kernel
theorem entries_pvFileLater : entries (some pvFileLater) = [⟨true, 2, .finite 25⟩] := by
  decide +kernel
theorem entries_evFile : entries (some evFile) = [⟨true, 3, .finite 4⟩] := by decide +kernel

theorem twoRegisters_fits {pv : List Char} {q : Int} (small : |q| ≤ 100)
    (read : entries (some pv) = [⟨true, 2, .finite q⟩]) :
    FilesFit twoRegisters 100 (RegisterFiles.get ⟨some pv, some evFile, none⟩) := by
  rintro (_ | _ | _) text content
  · obtain rfl : pv = text := Option.some.inj content
    rw [read]
    refine ⟨?_, by simp, ?_⟩
    · rintro e (_ | ⟨_, ⟨⟩⟩)
      exact ⟨2, q, rfl, rfl, rfl, small⟩
    · intro a current placed
      refine ⟨_, List.mem_singleton.mpr rfl, ?_⟩
      simp only [twoRegisters] at placed
      split_ifs at placed with first second
      · simp [first]
      · simp at placed
  · obtain rfl : evFile = text := Option.some.inj content
    rw [entries_evFile]
    refine ⟨?_, by simp, ?_⟩
    · rintro e (_ | ⟨_, ⟨⟩⟩)
      exact ⟨3, 4, rfl, rfl, rfl, by decide⟩
    · intro a current placed
      refine ⟨_, List.mem_singleton.mpr rfl, ?_⟩
      simp only [twoRegisters] at placed
      split_ifs at placed with first second
      · simp at placed
      · simp [second]
  · cases content

theorem run_totals_twoRegisters :
    ∃ m, Meter.run (fun (c : Unit) _ _ => (.error (.errno .etimedout), c)) (some ())
      ⟨some pvFile, some evFile, none⟩ [⟨some pvFileLater, some evFile, none⟩] = .ok m ∧
      m.totalCurrent = .finite 21 := by
  obtain ⟨m, -, run, -, -, -, -, total, -⟩ := run_totals
    (fun (c : Unit) _ _ => (.error (.errno .etimedout), c)) (fun _ _ _ => .inr ⟨.etimedout, rfl⟩)
    twoRegisters 100 (by decide +kernel) (some ()) ⟨some pvFile, some evFile, none⟩
    [⟨some pvFileLater, some evFile, none⟩] (by
      simp only [List.forall_mem_cons, List.not_mem_nil, false_imp_iff, implies_true, and_true]
      exact ⟨twoRegisters_fits (q := 10) (by decide) entries_pvFile,
        twoRegisters_fits (q := 25) (by decide) entries_pvFileLater⟩)
  refine ⟨m, run, total.trans ?_⟩
  decide +kernel

end ModbusNet
