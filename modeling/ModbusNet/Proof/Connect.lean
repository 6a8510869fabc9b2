import ModbusNet.Model.Connect
import ModbusNet.Model.Setup

namespace ModbusNet

/-- The sockets that a log leaves open. There is none if a socket is opened that is open, or closed
that is not. -/
def leftOpen : List SocketEvent → List Nat → Option (List Nat)
  | [], live => some live
  | .opened s :: log, live => if s ∈ live then none else leftOpen log (s :: live)
  | .closed s :: log, live => if s ∈ live then leftOpen log (live.erase s) else none

@[simp] theorem leftOpen_nil (live : List Nat) : leftOpen [] live = some live := rfl

@[simp] theorem leftOpen_opened (s : Nat) (log : List SocketEvent) :
    leftOpen (.opened s :: log) [] = leftOpen log [s] := rfl

@[simp] theorem leftOpen_closed (s : Nat) (log : List SocketEvent) :
    leftOpen (.closed s :: log) [s] = leftOpen log [] := by
  simp [leftOpen]

/-- A call reports whether it has established a connection, the context then has its socket, and no
other socket is left open. -/
structure Reports (result : Int × Ctx × List SocketEvent) (established : Option Nat) : Prop where
  returned : result.1 = 0 ↔ ∃ s, established = some s
  socket : ∀ s, established = some s → result.2.1.s = s
  closed : leftOpen result.2.2 [] = some established.toList

theorem Reports.refused (ctx : Ctx) {log : List SocketEvent} (closed : leftOpen log [] = some []) :
    Reports (-1, ctx, log) none where
  returned := by simp
  socket := by simp
  closed := closed

theorem Reports.connected (ctx : Ctx) {s : Nat} {log : List SocketEvent} (socket : ctx.s = s)
    (closed : leftOpen log [] = some [s]) : Reports (0, ctx, log) (some s) where
  returned := iff_of_true rfl ⟨s, rfl⟩
  socket := by
    rintro _ ⟨⟩
    exact socket
  closed := closed

def establishedSocket (socket : Except Errno Nat) (attempt : Except Errno Unit) : Option Nat :=
  match socket, attempt with
  | .ok s, .ok _ => some s
  | _, _ => none

theorem modbusTcpConnect_reports (ctx : Ctx) (socket : Except Errno Nat) (options : OptionCalls)
    (inetPton : Int) (calls : ConnectCalls) :
    Reports (modbusTcpConnect ctx socket options inetPton calls) (establishedSocket socket do
      modbusTcpSetIpv4Options options
      if inetPton ≤ 0 then .error .einval
      connect calls) := by
  cases socket with
  | error e => exact .refused _ rfl
  | ok s =>
      rw [modbusTcpConnect]
      cases modbusTcpSetIpv4Options options with
      | error e => exact .refused _ (by simp)
      | ok =>
          by_cases invalid : inetPton ≤ 0
          · simp only [if_pos invalid]
            exact .refused _ (by simp)
          · simp only [if_neg invalid]
            cases found : connect calls with
            | error e => exact .refused _ (by simp)
            | ok => exact .connected _ rfl (by simp)

def firstEstablished (aiList : List AddressCalls) : Option Nat :=
  aiList.findSome? fun ai => establishedSocket ai.socket (connect ai.connect)

theorem modbusTcpPiConnectLoop_spec (ctx : Ctx) (aiList : List AddressCalls) :
    (∀ s, firstEstablished aiList = some s → (modbusTcpPiConnectLoop ctx aiList).1.s = s) ∧
      (firstEstablished aiList = none → (modbusTcpPiConnectLoop ctx aiList).1 = ctx) ∧
      leftOpen (modbusTcpPiConnectLoop ctx aiList).2 [] =
        some (firstEstablished aiList).toList := by
  induction aiList with
  | nil => simp [firstEstablished, modbusTcpPiConnectLoop]
  | cons ai rest ih =>
      rw [modbusTcpPiConnectLoop, firstEstablished, List.findSome?_cons]
      cases opened : ai.socket with
      | error e => exact ih
      | ok s =>
          cases attempt : connect ai.connect with
          | error e =>
              -- The socket is closed before the next address is tried.
              obtain ⟨taken, kept, closed⟩ := ih
              refine ⟨taken, kept, ?_⟩
              rw [leftOpen_opened, leftOpen_closed]
              exact closed
          | ok => simp [establishedSocket]

/-- The call reports what it did, unless every attempt fails and the context has a socket from
before. -/
theorem piReports_iff (ctx : Ctx) (getaddrinfo : Option (List AddressCalls)) :
    Reports (modbusTcpPiConnect ctx getaddrinfo) (getaddrinfo.bind firstEstablished) ↔
      getaddrinfo = none ∨ ctx.s < 0 ∨ ∃ s, getaddrinfo.bind firstEstablished = some s := by
  cases getaddrinfo with
  | none => exact iff_of_true (.refused ctx rfl) (.inl rfl)
  | some aiList =>
      obtain ⟨taken, kept, closed⟩ := modbusTcpPiConnectLoop_spec ctx aiList
      rw [Option.bind_some, modbusTcpPiConnect]
      cases first : firstEstablished aiList with
      | none =>
          rw [first] at closed
          simp only [kept first]
          -- No attempt has set the socket, so that the check reads the one of before.
          by_cases fresh : ctx.s < 0
          · rw [if_pos fresh]
            exact iff_of_true (.refused ctx closed) (.inr (.inl fresh))
          · rw [if_neg fresh]
            refine iff_of_false (fun reports => ?_) (by simp [fresh])
            obtain ⟨s, absent⟩ := reports.returned.mp rfl
            cases absent
      | some s =>
          rw [first] at closed
          have socket := taken s first
          have positive : ¬ (modbusTcpPiConnectLoop ctx aiList).1.s < 0 := by omega
          simp only [if_neg positive]
          exact iff_of_true (.connected _ socket closed) (.inr (.inr ⟨s, rfl⟩))

theorem stale_socket_reported :
    let ctx := { newTcp with s := 7 }
    let refused : List AddressCalls := [⟨.ok 8, ⟨.failed .econnrefused, .ok 1, .ok 0⟩⟩]
    ¬ Reports (modbusTcpPiConnect ctx (some refused)) (firstEstablished refused) ∧
      (modbusTcpPiConnect ctx (some refused)).1 = 0 ∧
      (modbusTcpPiConnect ctx (some refused)).2.1.s = 7 := by
  refine ⟨fun reports => ?_, rfl, rfl⟩
  obtain ⟨s, absent⟩ := reports.returned.mp rfl
  cases absent

end ModbusNet
