import ModbusNet.Model.SimulatorMain
import ModbusNet.Proof.Allocating
import ModbusNet.Proof.Intake
import ModbusNet.Proof.RequestStream

namespace ModbusNet

/-! ## A context that keeps its descriptor -/

section
variable {σ : Type} {dev : Device σ} {s : Int}

end

namespace SimulatorMain

/-! ## Setting up -/

section
variable (sockets : Nat → Bool) {d : Heap} {blocks : List Nat}

end

section
variable {σ : Type} {sockets : Nat → Bool} {m : Machine} {rest blocks : List Nat}

def Context.useBackend : Context → UseBackend
  | .tcp _ _ _ => .tcp
  | .tcpPi _ _ _ => .tcpPi
  | .rtu _ _ _ => .rtu

end

/-! ## Contexts and tables -/

section
variable {memory : Nat → Bool} {h : Heap} {blocks : List Nat}

def Granted (memory : Nat → Bool) (first n : Nat) : Prop := ∀ k < n, memory (first + k) = false

theorem Granted.refused {first n : Nat} (k : Nat) (inside : k < n)
    (refused : memory (first + k) = true) : ¬ Granted memory first n := fun granted => by
  have := granted k inside
  simp [refused] at this

theorem Granted.succ {first n : Nat} (first_ : memory first = false)
    (granted : Granted memory (first + 1) n) : Granted memory first (n + 1) := by
  intro k inside
  cases k with
  | zero => exact first_
  | succ k =>
      have later := granted k (by omega)
      rwa [show first + 1 + k = first + (k + 1) by omega] at later

def Gives {α : Type} (refused : Prop) (good : α → Heap → Prop) :
    Option (Except NewError α × Heap) → Prop
  | none => True
  | some (.error _, _) => refused
  | some (.ok a, h) => good a h

theorem abandon_gives {refused : Prop} {good : Context → Heap → Prop} (e : NewError)
    (freed : Option Heap) (reason : refused) : Gives refused good (Allocating.abandon e freed) := by
  cases freed with
  | none => trivial
  | some h => exact reason

theorem modbusNewRtu_gives (version : VersionString) (uninit : Buffer) (device : CString) :
    Gives (¬ (device.val ≠ [] ∧ Granted memory h.calls 3))
      (fun ctx h' => Context.useBackend ctx = .rtu ∧ device.val ≠ [] ∧ Granted memory h.calls 3 ∧
        h'.calls = h.calls + 3)
      (Allocating.modbusNewRtu memory version uninit (some device) 115200 0x4E 8 1 h) := by
  unfold Allocating.modbusNewRtu
  split
  · rename_i none_
    cases none_
  · rename_i valid empty
    obtain rfl := Option.some.inj empty
    exact fun both => both.1 rfl
  · rename_i first rest valid named
    obtain rfl := Option.some.inj named
    rw [if_neg (by decide)]
    split
    · rename_i refused
      exact fun both => Granted.refused 0 (by omega) (Heap.malloc_refused refused) both.2
    · rename_i block h₁ allocated
      obtain ⟨granted, calls⟩ := Heap.malloc_granted allocated
      simp only
      split
      · rename_i refused
        have refusal := Heap.malloc_refused refused
        rw [calls] at refusal
        exact abandon_gives _ _ fun both => Granted.refused 1 (by omega) refusal both.2
      · rename_i data h₂ allocated'
        obtain ⟨granted', calls'⟩ := Heap.malloc_granted allocated'
        rw [calls] at granted' calls'
        split
        · rename_i refused
          have refusal := Heap.malloc_refused refused
          rw [calls'] at refusal
          exact abandon_gives _ _ fun both => Granted.refused 2 (by omega) refusal both.2
        · rename_i deviceBlock h₃ allocated''
          obtain ⟨granted'', calls''⟩ := Heap.malloc_granted allocated''
          rw [calls'] at granted'' calls''
          refine ⟨rfl, List.cons_ne_nil _ _, ?_, calls''⟩
          exact .succ granted (.succ granted' (.succ granted'' fun k none_ => by omega))

theorem setSlave_useBackend (serverId : Int) (ctx : Context) :
    Context.useBackend (setSlave serverId ctx) = Context.useBackend ctx := by
  cases ctx <;> rfl

end

/-! ## A turn -/

def Stop.left : Stop → Nat
  | .notAccepted | .noSocket => 1
  | _ => 0

structure Idle (m : Machine) : Prop where
  heap : m.heap.Holds []
  descriptors : m.descriptors.Holds []

structure GivenBack (why : Stop) (m : Machine) : Prop where
  heap : m.heap.live = []
  descriptors : m.descriptors.live.length = why.left

section
variable {σ : Type} {dev : Device σ} {memory sockets : Nat → Bool} {version : VersionString}
variable {uninit : Buffer} {contents : Nat → Buffer} {sim : Simulator} {useBackend : UseBackend}
variable {ipOrDevice : CString}
variable {rounds requests : Nat}

theorem Granted.append {n k first : Nat} (granted : Granted memory first n)
    (granted' : Granted memory (first + n) k) : Granted memory first (n + k) := by
  intro i inside
  rcases Nat.lt_or_ge i n with early | late
  · exact granted i early
  · have later := granted' (i - n) (by omega)
    rwa [show first + n + (i - n) = first + i by omega] at later

theorem Granted.split (n k : Nat) {first : Nat} (granted : Granted memory first (n + k)) :
    Granted memory first n ∧ Granted memory (first + n) k :=
  ⟨fun i inside => granted i (by omega), fun i inside => by
    have later := granted (n + i) (by omega)
    rwa [← Nat.add_assoc] at later⟩

theorem initializeModbusContextSimulation_serial {h h' : Heap} {ctx : Context}
    (made : initializeModbusContextSimulation memory version uninit contents sim .rtu ipOrDevice h =
      some (some ctx, h')) : Context.useBackend ctx = .rtu := by
  have gives := @modbusNewRtu_gives memory h version uninit ipOrDevice
  rw [initializeModbusContextSimulation] at made
  generalize Allocating.modbusNewRtu memory version uninit (some ipOrDevice) 115200 0x4E 8 1 h =
    outcome at made gives
  match outcome, gives with
  | some (.ok ctx', h₁), gives =>
      obtain ⟨same, -⟩ := Prod.mk.inj (Option.some.inj made)
      rw [← Option.some.inj same, setSlave_useBackend]
      exact gives.1

theorem setupServerSimulation_serial {answers : Answers σ} {ctx : Context} {m m' : Machine}
    {socket : Except Stop Nat} {s : Option Nat} (serial : Context.useBackend ctx = .rtu)
    (set : setupServerSimulation sockets answers ctx m = some (socket, s, m')) :
    ∃ why, socket = .error why := by
  cases ctx with
  | tcp block ctx data => cases serial
  | tcpPi block ctx data => cases serial
  | rtu block ctx data =>
      rw [setupServerSimulation] at set
      generalize modbusRtuConnect sockets answers.serial m.descriptors = connected at set
      match connected with
      | some (some s, d) => exact ⟨.noSocket, (congrArg Prod.fst (Option.some.inj set)).symm⟩
      | some (none, d) =>
          generalize modbusFree (.rtu block ctx data) m.heap = freed at set
          cases freed with
          | none => cases set
          | some h => exact ⟨.notConnected, (congrArg Prod.fst (Option.some.inj set)).symm⟩

section
variable (dev dev' : Device σ) (rounds requests requests' : Nat)

theorem turn_unserved (answers : Answers σ) (m : Machine) :
    turn dev memory sockets version uninit contents sim .rtu ipOrDevice rounds requests answers m =
      turn dev' memory sockets version uninit contents sim .rtu ipOrDevice rounds requests' answers
        m := by
  simp only [turn, Option.bind_eq_bind]
  cases made : initializeModbusContextSimulation memory version uninit contents sim .rtu ipOrDevice
      m.heap with
  | none => simp only [Option.bind_none]
  | some outcome =>
      obtain ⟨ctx, h⟩ := outcome
      cases ctx with
      | none => simp only [Option.bind_some]
      | some ctx =>
          have serial := initializeModbusContextSimulation_serial made
          simp only [Option.bind_some]
          cases initializeModbusMappingSimulation memory sim h with
          | none => simp only [Option.bind_none]
          | some outcome =>
              obtain ⟨mapping, h⟩ := outcome
              cases mapping with
              | none => simp only [Option.bind_some]
              | some mapping =>
                  simp only [Option.bind_some]
                  cases set : setupServerSimulation sockets answers ctx { m with heap := h } with
                  | none => simp only [Option.bind_none]
                  | some outcome =>
                      obtain ⟨socket, s, m'⟩ := outcome
                      obtain ⟨why, rfl⟩ := setupServerSimulation_serial serial set
                      simp only [Option.bind_some]

theorem run_unserved (answers : List (Answers σ)) (m : Machine) :
    run dev memory sockets version uninit contents sim .rtu ipOrDevice rounds requests answers m =
      run dev' memory sockets version uninit contents sim .rtu ipOrDevice rounds requests' answers m := by
  induction answers generalizing m with
  | nil => rfl
  | cons first rest ih =>
      rw [run, run, turn_unserved dev dev' rounds requests requests']
      refine bind_congr fun outcome => ?_
      obtain ⟨stop, m'⟩ := outcome
      cases stop with
      | none => exact ih m'
      | some why => rfl

end

def Ended (useBackend : UseBackend) (answers : List (Answers σ)) : Option Stop → Machine → Prop
  | none, m =>
      m.heap.live = [] ∧ m.descriptors.live = [] ∧ (useBackend = .rtu → answers = [])
  | some (.failed _), _ => useBackend ≠ .rtu
  | some why, m => GivenBack why m

theorem GivenBack.ended {answers : List (Answers σ)} {why : Stop} {m : Machine}
    (back : GivenBack why m) (returned : ∀ e, why ≠ .failed e) :
    Ended useBackend answers (some why) m := by
  cases why with
  | failed e => exact absurd rfl (returned e)
  | noContext | noMapping | notListening | notAccepted | notConnected | noSocket => exact back

end

end SimulatorMain

end ModbusNet
