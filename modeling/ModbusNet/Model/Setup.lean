import ModbusNet.Model.Types

namespace ModbusNet

/-- The version that `configure.ac` sets, 3.1.10. -/
def libmodbusVersion : VersionString := ⟨[0x33, 0x2E, 0x31, 0x2E, 0x31, 0x30], by decide⟩

def tcpSlave : Int := 0xFF
def quirkMaxSlave : Nat := 2

def modbusInitCommon (backend : Backend) (version : VersionString) (uninit : Buffer) : Ctx where
  backend
  slave := -1
  s := -1
  errorRecovery := 0
  quirks := 0
  tId := 0
  confirmationToIgnore := false
  version
  uninit

def modbusNewTcp (version : VersionString) (uninit : Buffer) : Ctx :=
  { modbusInitCommon .tcp version uninit with slave := tcpSlave }

def modbusNewRtu (version : VersionString) (uninit : Buffer) : Ctx :=
  modbusInitCommon .rtu version uninit

def newTcp : Ctx := modbusNewTcp libmodbusVersion fun _ => 0
def newRtu (slave : Int) : Ctx := { modbusNewRtu libmodbusVersion fun _ => 0 with slave }

def modbusSetSlave (ctx : Ctx) (slave : Int) : Except Errno Ctx :=
  let maxSlave := if ctx.quirks &&& quirkMaxSlave != 0 then 255 else 247
  if 0 ≤ slave ∧ slave ≤ maxSlave then .ok { ctx with slave }
  else
    match ctx.backend with
    | .rtu => .error .einval
    | .tcp => if slave = tcpSlave then .ok { ctx with slave } else .error .einval

def modbusMappingNewStartAddress (startBits nbBits startInputBits nbInputBits startRegisters
    nbRegisters startInputRegisters nbInputRegisters : BitVec 32) : ModbusMapping where
  nbBits := nbBits.toInt
  startBits := startBits.toInt
  nbInputBits := nbInputBits.toInt
  startInputBits := startInputBits.toInt
  nbRegisters := nbRegisters.toInt
  startRegisters := startRegisters.toInt
  nbInputRegisters := nbInputRegisters.toInt
  startInputRegisters := startInputRegisters.toInt
  tabBits := List.replicate nbBits.toNat 0
  tabInputBits := List.replicate nbInputBits.toNat 0
  tabRegisters := List.replicate nbRegisters.toNat 0
  tabInputRegisters := List.replicate nbInputRegisters.toNat 0

def modbusMappingNew (nbBits nbInputBits nbRegisters nbInputRegisters : BitVec 32) : ModbusMapping :=
  modbusMappingNewStartAddress 0 nbBits 0 nbInputBits 0 nbRegisters 0 nbInputRegisters

theorem modbusSetSlave_range {ctx ctx' : Ctx} {slave : Int} (set : modbusSetSlave ctx slave = .ok ctx') :
    ctx' = { ctx with slave } ∧ 0 ≤ slave ∧ slave ≤ 255 := by
  have limit : (if ctx.quirks &&& quirkMaxSlave != 0 then 255 else 247 : Int) ≤ 255 := by
    split <;> omega
  rw [modbusSetSlave] at set
  generalize (if ctx.quirks &&& quirkMaxSlave != 0 then 255 else 247 : Int) = maxSlave at set limit
  by_cases range : 0 ≤ slave ∧ slave ≤ maxSlave
  · rw [if_pos range] at set
    exact ⟨(Except.ok.inj set).symm, range.1, range.2.trans limit⟩
  · rw [if_neg range] at set
    cases backend : ctx.backend with
    | rtu => simp [backend] at set
    | tcp =>
        simp only [backend] at set
        split at set
        · rename_i full
          rw [tcpSlave] at full
          exact ⟨(Except.ok.inj set).symm, by omega, by omega⟩
        · cases set

def FitsInt (x : BitVec 32) : Prop := x.toNat < 2 ^ 31

theorem FitsInt.toInt {x : BitVec 32} (fits : FitsInt x) : x.toInt = x.toNat := by
  unfold FitsInt at fits
  rw [BitVec.toInt_eq_toNat_cond, if_pos (by omega)]

theorem modbusMappingNewStartAddress_wellFormed (startBits nbBits startInputBits nbInputBits
    startRegisters nbRegisters startInputRegisters nbInputRegisters : BitVec 32)
    (fits : ∀ x ∈ [startBits, nbBits, startInputBits, nbInputBits, startRegisters, nbRegisters,
      startInputRegisters, nbInputRegisters], FitsInt x) :
    (modbusMappingNewStartAddress startBits nbBits startInputBits nbInputBits startRegisters
      nbRegisters startInputRegisters nbInputRegisters).WellFormed := by
  simp only [List.forall_mem_cons, List.not_mem_nil, false_imp_iff, implies_true, and_true] at fits
  obtain ⟨f1, f2, f3, f4, f5, f6, f7, f8⟩ := fits
  constructor <;> simp only [modbusMappingNewStartAddress, List.length_replicate, FitsInt.toInt, f1,
    f2, f3, f4, f5, f6, f7, f8] <;> omega

end ModbusNet
