import ModbusNet.Proof.PduFraming
import ModbusNet.Protocol.Operations

namespace ModbusNet

def Contains (b : Backend) (msg : Buffer) (pdu : List Byte) : Prop :=
  AgreeBelow pdu.length (ofBytes pdu) (pduAt b msg)

namespace Contains
variable {b : Backend} {msg : Buffer} {pdu : List Byte}

theorem function (contains : Contains b msg pdu) (nonempty : 0 < pdu.length) :
    msg b.headerLength = ofBytes pdu 0 := (contains 0 nonempty).symm

theorem byte (contains : Contains b msg pdu) (i : Nat) (bound : i < pdu.length) :
    msg (b.headerLength + i) = ofBytes pdu i := (contains i bound).symm

theorem word (contains : Contains b msg pdu) (i : Nat) (bound : i + 1 < pdu.length) :
    be16 msg (b.headerLength + i) = be16 (ofBytes pdu) i := (AgreeBelow.be16_eq contains bound).symm

end Contains

def Request.Expected (r : Request) : Response → Prop
  | .exception function code => function = r.function ∧ code < exceptionMax
  | .values function data => function = r.function ∧ data.length < 256 ∧
      match r with
      | .readBits _ _ nb => data.length = byteCount nb.toNat
      | .readRegisters _ _ nb => data.length = 2 * nb.toNat
      | .writeAndReadRegisters _ nb _ _ _ => data.length = 2 * nb.toNat
      | .reportSlaveId => True
      | _ => False
  | .echo request => request = r ∧
      match r with
      | .writeSingleCoil _ _ | .writeSingleRegister _ _ | .maskWriteRegister _ _ _ => True
      | _ => False
  | .written function address nb => function = r.function ∧
      match r with
      | .writeMultipleCoils address' nb' _ | .writeMultipleRegisters address' nb' _ =>
          address = address' ∧ nb = nb'
      | _ => False
  | .exceptionStatus _ => False

def Response.count (r : Request) : Response → Nat
  | .values _ data =>
      match r with
      | .readRegisters _ _ _ | .writeAndReadRegisters _ _ _ _ _ => data.length / 2
      | _ => data.length
  | .written _ _ nb => nb.toNat
  | _ => 1

def Response.judged (r : Request) (response : Response) : Except (Errno × Bool) Int :=
  match response with
  | .exception _ code => .error (.enobase code, false)
  | _ => .ok (response.count r)

def Response.Normal : Response → Prop
  | .exception _ _ => False
  | _ => True

theorem Response.Normal.judged {response : Response} (normal : response.Normal) (r : Request) :
    response.judged r = .ok (response.count r) := by
  cases response with
  | exception => exact normal.elim
  | _ => rfl

theorem Request.Expected.function {r : Request} {response : Response}
    (expected : r.Expected response) (normal : response.Normal) :
    ofBytes response.encode 0 = ofBytes r.encode 0 := by
  cases response with
  | exception => exact normal.elim
  | exceptionStatus => exact expected.elim
  | values =>
      obtain ⟨rfl, -⟩ := expected
      rfl
  | echo =>
      obtain ⟨rfl, -⟩ := expected
      rfl
  | written =>
      obtain ⟨rfl, -⟩ := expected
      rfl

theorem beWord_wordBytes (w : Word) : beWord (hiByte w.toNat) (loByte w.toNat) = w.toNat :=
  beWord_bytes_nat _ w.isLt

section
variable {b : Backend} {req rsp : Buffer} {r : Request} {response : Response}
  (request : Contains b req r.encode) (expected : r.Expected response)
include request

theorem Contains.asked : (req b.headerLength).toNat = r.function := by
  rw [request.function (Nat.succ_pos _)]
  exact r.encode_head

include expected

theorem computeResponseLength_expected (normal : response.Normal) :
    (b.headerLength + response.encode.length + b.checksumLength : Nat) =
        computeResponseLengthFromRequest b req ∨
      computeResponseLengthFromRequest b req = msgLengthUndefined := by
  have asked := request.asked
  cases response with
  | exception => exact normal.elim
  | exceptionStatus => exact expected.elim
  | values function data =>
      obtain ⟨-, -, counted⟩ := expected
      have total : (Response.values function data).encode.length = 2 + data.length := by
        rw [Response.encode, List.length_cons, List.length_cons]
        omega
      rw [total]
      cases r with
      | readBits isInput address nb =>
          have count : be16 req (b.headerLength + 3) = nb.toNat :=
            (request.word 3 (Nat.le_of_ble_eq_true rfl)).trans (beWord_wordBytes nb)
          rw [counted]
          cases isInput <;>
            simp [computeResponseLengthFromRequest, asked, Request.function, readBitsFunction, count]
      | readRegisters isInput address nb =>
          have count : be16 req (b.headerLength + 3) = nb.toNat :=
            (request.word 3 (Nat.le_of_ble_eq_true rfl)).trans (beWord_wordBytes nb)
          rw [counted]
          cases isInput <;>
            simp [computeResponseLengthFromRequest, asked, Request.function, readRegistersFunction,
              count]
      | writeAndReadRegisters address nb addressWrite nbWrite payload =>
          have count : be16 req (b.headerLength + 3) = nb.toNat :=
            (request.word 3 (Nat.le_of_ble_eq_true rfl)).trans (beWord_wordBytes nb)
          rw [counted]
          simp [computeResponseLengthFromRequest, asked, Request.function, count]
      | reportSlaveId => simp [computeResponseLengthFromRequest, asked, Request.function]
      | _ => exact counted.elim
  | echo request' =>
      obtain ⟨rfl, echoed⟩ := expected
      cases request' with
      | writeSingleCoil | writeSingleRegister | maskWriteRegister =>
          simp [computeResponseLengthFromRequest, asked, Request.function, Response.encode,
            Request.encode, Request.payload]
      | _ => exact echoed.elim
  | written function address nb =>
      obtain ⟨-, echoed⟩ := expected
      cases r with
      | writeMultipleCoils | writeMultipleRegisters =>
          simp [computeResponseLengthFromRequest, asked, Request.function, Response.encode]
      | _ => exact echoed.elim

theorem confirmedValues_expected (answer : Contains b rsp response.encode)
    (normal : response.Normal) :
    confirmedValues b req rsp = (response.count r, response.count r, true, true) := by
  have replied : (rsp b.headerLength).toNat = r.function := by
    rw [answer.function response.encode_pos, expected.function normal]
    exact r.encode_head
  cases response with
  | exception => exact normal.elim
  | exceptionStatus => exact expected.elim
  | values function data =>
      obtain ⟨-, short, counted⟩ := expected
      have stated : (rsp (b.headerLength + 1)).toNat = data.length := by
        rw [answer.byte 1 (Nat.le_of_ble_eq_true rfl)]
        exact loByte_toNat data.length short
      cases r with
      | readBits isInput address nb =>
          have count : be16 req (b.headerLength + 3) = nb.toNat :=
            (request.word 3 (Nat.le_of_ble_eq_true rfl)).trans (beWord_wordBytes nb)
          cases isInput <;>
            simp [confirmedValues, replied, Request.function, readBitsFunction, count, stated,
              counted, Response.count]
      | readRegisters isInput address nb =>
          have count : be16 req (b.headerLength + 3) = nb.toNat :=
            (request.word 3 (Nat.le_of_ble_eq_true rfl)).trans (beWord_wordBytes nb)
          cases isInput <;>
            simp [confirmedValues, replied, Request.function, readRegistersFunction, count, stated,
              counted, Response.count]
      | writeAndReadRegisters address nb addressWrite nbWrite payload =>
          have count : be16 req (b.headerLength + 3) = nb.toNat :=
            (request.word 3 (Nat.le_of_ble_eq_true rfl)).trans (beWord_wordBytes nb)
          simp [confirmedValues, replied, Request.function, count, stated, counted, Response.count]
      | reportSlaveId => simp [confirmedValues, replied, Request.function, stated, Response.count]
      | _ => exact counted.elim
  | echo request' =>
      obtain ⟨rfl, echoed⟩ := expected
      have same : ∀ i, i + 1 < request'.encode.length →
          be16 req (b.headerLength + i) = be16 rsp (b.headerLength + i) := by
        intro i bound
        rw [request.word i bound, answer.word i bound]
        rfl
      have address := same 1
      have data := same 3
      cases request' with
      | writeSingleCoil | writeSingleRegister =>
          simp [confirmedValues, replied, Request.function, address (Nat.le_of_ble_eq_true rfl),
            data (Nat.le_of_ble_eq_true rfl), Response.count]
      | maskWriteRegister => simp [confirmedValues, replied, Request.function, Response.count]
      | _ => exact echoed.elim
  | written function address nb =>
      obtain ⟨-, echoed⟩ := expected
      have address_answered : be16 rsp (b.headerLength + 1) = address.toNat :=
        (answer.word 1 (Nat.le_of_ble_eq_true rfl)).trans (beWord_wordBytes address)
      have count_answered : be16 rsp (b.headerLength + 3) = nb.toNat :=
        (answer.word 3 (Nat.le_of_ble_eq_true rfl)).trans (beWord_wordBytes nb)
      cases r with
      | writeMultipleCoils address' nb' data | writeMultipleRegisters address' nb' data =>
          obtain ⟨rfl, rfl⟩ := echoed
          have address_asked : be16 req (b.headerLength + 1) = address.toNat :=
            (request.word 1 (by simp [Request.encode, Request.payload])).trans
              (beWord_wordBytes address)
          have count_asked : be16 req (b.headerLength + 3) = nb.toNat :=
            (request.word 3 (by simp [Request.encode, Request.payload]; omega)).trans
              (beWord_wordBytes nb)
          simp [confirmedValues, replied, Request.function, address_asked, address_answered,
            count_asked, count_answered, Response.count]
      | _ => exact echoed.elim

end

section
variable {b : Backend} {req rsp : Buffer} {n : Int}
  (accepted : preCheckConfirmation b req rsp = .ok ())
include accepted

theorem judgeConfirmation_exception (function : (rsp b.headerLength).toNat =
      (req b.headerLength).toNat + 0x80)
    (length : n = (b.headerLength + 2 + b.checksumLength : Nat))
    (code : (rsp (b.headerLength + 1)).toNat < exceptionMax) :
    judgeConfirmation b req rsp n = .error (.enobase (rsp (b.headerLength + 1)).toNat, false) := by
  rw [judgeConfirmation, accepted]
  simp only
  rw [if_pos (by omega), if_pos ⟨length, function.symm⟩, if_pos code]

theorem judgeConfirmation_normal (same : rsp b.headerLength = req b.headerLength)
    (small : (req b.headerLength).toNat < 0x80)
    (length : n = computeResponseLengthFromRequest b req ∨
      computeResponseLengthFromRequest b req = msgLengthUndefined)
    {k : Nat} (values : confirmedValues b req rsp = (k, k, true, true)) :
    judgeConfirmation b req rsp n = .ok k := by
  rw [judgeConfirmation, accepted]
  simp only [same, values]
  rw [if_neg (by omega), if_pos length, if_neg (by simp), if_pos (by simp)]

omit accepted in
theorem judgeConfirmation_ok {k : Int} (confirmed : judgeConfirmation b req rsp n = .ok k) :
    preCheckConfirmation b req rsp = .ok () ∧ rsp b.headerLength = req b.headerLength ∧
      (n = computeResponseLengthFromRequest b req ∨
        computeResponseLengthFromRequest b req = msgLengthUndefined) ∧
      ∃ m : Nat, k = m ∧ confirmedValues b req rsp = (m, m, true, true) := by
  rw [judgeConfirmation] at confirmed
  cases checked : preCheckConfirmation b req rsp with
  | error e => simp [checked] at confirmed
  | ok _ =>
      simp only [checked] at confirmed
      split at confirmed
      · split at confirmed
        · split at confirmed <;> cases confirmed
        · cases confirmed
      · split at confirmed
        · rename_i length
          split at confirmed
          · cases confirmed
          · rename_i same
            split at confirmed
            · rename_i equal
              refine ⟨rfl, BitVec.eq_of_toNat_eq (not_not.mp same), length, _,
                (Except.ok.inj confirmed).symm, ?_⟩
              obtain ⟨count, address, data⟩ := equal
              ext
              · exact count
              · rfl
              · exact address
              · exact data
            · cases confirmed
        · cases confirmed

theorem judgeConfirmation_expected (r : Request) (response : Response)
    (known : r.function ∈ knownFunctions) (request : Contains b req r.encode)
    (answer : Contains b rsp response.encode)
    (length : n = (b.headerLength + response.encode.length + b.checksumLength : Nat))
    (expected : r.Expected response) :
    judgeConfirmation b req rsp n = response.judged r := by
  have small := known_small known
  have asked := request.asked
  by_cases normal : response.Normal
  · have answered : rsp b.headerLength = req b.headerLength := by
      rw [answer.function response.encode_pos, request.function (Nat.succ_pos _),
        expected.function normal]
    rw [normal.judged r]
    exact judgeConfirmation_normal accepted answered (by omega)
      (length ▸ computeResponseLength_expected request expected normal)
      (confirmedValues_expected request expected answer normal)
  · cases response with
    | exception function code =>
        obtain ⟨rfl, below⟩ := expected
        have short : code < 256 := by
          simp only [exceptionMax] at below
          omega
        have answered : (rsp b.headerLength).toNat = r.function + 0x80 := by
          rw [answer.function (Nat.succ_pos _)]
          exact loByte_toNat (r.function + 0x80) (by omega)
        have stated : (rsp (b.headerLength + 1)).toNat = code := by
          rw [answer.byte 1 (Nat.le_of_ble_eq_true rfl)]
          exact loByte_toNat code short
        rw [judgeConfirmation_exception accepted (by rw [answered, asked]) length (by rwa [stated]),
          stated]
        rfl
    | _ => exact absurd trivial normal

end

end ModbusNet
