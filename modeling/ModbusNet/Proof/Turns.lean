import ModbusNet.Proof.ManyUp

namespace ModbusNet
namespace ManyUp

def Asks (w : ManyUp) (fd id : Nat) (frame : List Byte) : Prop :=
  w.descriptors fd = some id ∧ Delimits .tcp .indication (ofBytes frame) frame.length ∧
    ∃ rest, (w.connection id).incoming.signals = frame.map .item ++ rest

section
variable {sys : System} {version : VersionString} {w : ManyUp} {fd id : Nat} {frame : List Byte}

theorem serveClient_answers (serial : w.Serial sys version) (asks : w.Asks fd id frame) :
    ∃ query c, w.serveClient fd = (.ok (), (w.afterRequest version id frame query).attach id c) ∧
      w.Handled version id frame (execute version w.mapping frame).2 c := by
  obtain ⟨named, whole, rest, next⟩ := asks
  set c : Conn (Line Log) := ⟨{ w.ctx with s := fd }, w.connection id⟩ with c_def
  have tcp : c.ctx.backend = .tcp := serial.serves.tcp
  obtain ⟨incoming, remaining, received⟩ := modbusReceiveMsg_frame logReact .indication frame rest c
    (by simp [c_def, Ctx.isConnected]) (by rw [tcp]; exact whole) next
  rw [checkIntegrity_tcp _ (c.withIncoming incoming) frame tcp] at received
  have drawn : c.Drawn frame (c.withIncoming incoming) :=
    ⟨rfl, rfl, by rw [withIncoming_incoming, remaining, ← next]⟩
  have taken : modbusReceive logDevice c w.query =
      (.ok frame.length, overlay w.query frame, c.withIncoming incoming) := by
    rw [modbusReceive, tcp]
    simp only [modbusTcpReceive, received]
  exact serveClient_received serial.serves serial.valid named whole drawn taken

end

structure Awaiting (sys : System) (version : VersionString) (rdset : Finset Nat)
    (frames : Nat → Nat × List Byte) (masterSocket : Nat) (w : ManyUp) : Prop where
  watched : w.Watched
  serial : w.Serial sys version
  open_ : ∀ fd ∈ rdset, masterSocket ≤ fd → fd ∈ w.refset
  asks : ∀ fd ∈ rdset, masterSocket ≤ fd → fd ≠ w.serverSocket →
    w.Asks fd (frames fd).1 (frames fd).2

section
variable {sys : System} {version : VersionString} {rdset : Finset Nat} {frames : Nat → Nat × List Byte}
  {masterSocket : Nat} {w : ManyUp}

def due (w : ManyUp) (rdset : Finset Nat) (frames : Nat → Nat × List Byte) (fd : Nat) :
    Option (Nat × List Byte) :=
  if fd ∈ rdset ∧ fd ≠ w.serverSocket then some (frames fd) else none

theorem Awaiting.visit (awaiting : w.Awaiting sys version rdset frames masterSocket)
    (limit : sys.limit ≤ fdSetsize) (accepts : Bool) :
    ∃ w', w.visit sys accepts rdset masterSocket = (.ok (), w') ∧
      w'.Awaiting sys version rdset frames (masterSocket + 1) ∧ w'.serverSocket = w.serverSocket ∧
      w'.executed = w.executed ++ (w.due rdset frames masterSocket).toList := by
  obtain ⟨watched, serial, still, asks⟩ := awaiting
  rw [ManyUp.visit]
  by_cases ready : masterSocket ∈ rdset
  · rw [if_neg (not_not.mpr ready)]
    by_cases listening : masterSocket = w.serverSocket
    · rw [if_pos listening]
      have none : w.due rdset frames masterSocket = none :=
        if_neg fun both => both.2 listening
      rw [none]
      have does := acceptClient_does sys accepts w
      generalize w.acceptClient sys accepts = done at does
      cases does with
      | refused =>
          refine ⟨w, rfl, ⟨watched, serial, ?_, ?_⟩, rfl, (List.append_nil _).symm⟩
          · exact fun fd member later => still fd member (by omega)
          · exact fun fd member later => asks fd member (by omega)
      | overflow large =>
          obtain ⟨-, newfd, free, large⟩ := large
          have below := (lowestFree_free free).1
          omega
      | @connected newfd free small =>
          refine ⟨w.accepted sys newfd, rfl, ⟨watched.accepted sys free small, serial.accepted newfd,
            ?_, ?_⟩, rfl, (List.append_nil _).symm⟩
          · intro fd member later
            exact Finset.mem_insert_of_mem (still fd member (by omega))
          · intro fd member later other
            have used := (watched.watched fd).mp (still fd member (by omega))
            obtain ⟨named, whole, rest, next⟩ := asks fd member (by omega) other
            refine ⟨?_, whole, rest, ?_⟩
            · have apart : fd ≠ newfd := by
                rintro rfl
                rw [free] at used
                exact absurd used Bool.false_ne_true
              simp only [accepted, Function.update_of_ne apart]
              exact named
            · have known := watched.named fd _ named
              rw [accepted_connection, if_neg known.ne]
              exact next
    · rw [if_neg listening]
      have due : w.due rdset frames masterSocket = some (frames masterSocket) :=
        if_pos ⟨ready, listening⟩
      have asking := asks masterSocket ready le_rfl listening
      obtain ⟨query, c, served, handled⟩ := serveClient_answers serial asking
      have known := watched.named _ _ asking.1
      refine ⟨_, served, ⟨?_, serial.executed known asking.2.1 handled query, ?_, ?_⟩, rfl, ?_⟩
      · exact Watched.attach (w := w.afterRequest _ _ _ query)
          ⟨watched.watched, watched.bound, watched.small, watched.apart, watched.named,
            watched.distinct⟩ _ c
      · exact fun fd member later => still fd member (by omega)
      · intro fd member later other
        obtain ⟨named, whole, rest, next⟩ := asks fd member (by omega) other
        refine ⟨named, whole, rest, ?_⟩
        have apart : (frames fd).1 ≠ (frames masterSocket).1 := by
          intro same
          have := watched.distinct fd masterSocket _ named (same ▸ asking.1)
          omega
        rw [attach_connection (w := w.afterRequest _ _ _ query) known, if_neg apart]
        exact next
      · rw [due]
        rfl
  · rw [if_pos ready]
    have none : w.due rdset frames masterSocket = none := if_neg fun both => ready both.1
    rw [none]
    refine ⟨w, rfl, ⟨watched, serial, ?_, ?_⟩, rfl, (List.append_nil _).symm⟩
    · exact fun fd member later => still fd member (by omega)
    · exact fun fd member later => asks fd member (by omega)

theorem Awaiting.visits (limit : sys.limit ≤ fdSetsize) (accepts : Bool) (fuel : Nat)
    (awaiting : w.Awaiting sys version rdset frames masterSocket) (inside : masterSocket ≤ fdSetsize)
    (enough : fdSetsize < fuel + masterSocket) :
    ∃ w', w.visits sys accepts rdset fuel masterSocket = (.ok (), w') ∧
      w'.executed = w.executed ++
        (List.range' masterSocket (fdSetsize - masterSocket)).filterMap (w.due rdset frames) := by
  induction fuel generalizing masterSocket w with
  | zero => omega
  | succ fuel ih =>
      have small := awaiting.watched.small
      rw [ManyUp.visits]
      by_cases within : masterSocket ≤ w.fdmax
      · obtain ⟨w', visited, awaiting', socket, executed⟩ := awaiting.visit limit accepts
        obtain ⟨w'', rest, executed'⟩ := ih awaiting' (by omega) (by omega)
        rw [if_pos within, visited]
        refine ⟨w'', rest, ?_⟩
        have same : w'.due rdset frames = w.due rdset frames := by
          funext fd
          rw [due, due, socket]
        have first : fdSetsize - masterSocket = fdSetsize - (masterSocket + 1) + 1 := by omega
        rw [executed', executed, same, first, List.range'_succ, List.filterMap_cons,
          List.append_assoc]
        cases w.due rdset frames masterSocket <;> rfl
      · rw [if_neg within]
        refine ⟨w, rfl, ?_⟩
        -- What is ready is watched, and nothing above `fdmax` is.
        have none : (List.range' masterSocket (fdSetsize - masterSocket)).filterMap
            (w.due rdset frames) = [] := by
          rw [List.filterMap_eq_nil_iff]
          intro fd member
          have later := (List.mem_range'_1.mp member).1
          apply if_neg
          rintro ⟨ready, -⟩
          have := awaiting.watched.bound fd (awaiting.open_ fd ready later)
          omega
        rw [none, List.append_nil]

end

/-- In a turn of any run in which every client that is ready has a whole request to be read, the turn
ends, and the mapping and what every client has been sent are those of executing these requests, each
once, in the order of the descriptors. -/
theorem turn_answers {sys : System} {version : VersionString} {uninit query : Buffer} {w : ManyUp}
    (started : start sys version uninit query = .ok w) (limit : sys.limit ≤ fdSetsize)
    (polls : List Poll) (poll : Poll) (ready : Nat → Bool) (selected : poll.select = .ok ready)
    (frames : Nat → Nat × List Byte)
    (asking : ∀ fd ∈ (w.run sys polls).2.refset, ready fd → fd ≠ (w.run sys polls).2.serverSocket →
      (w.run sys polls).2.Asks fd (frames fd).1 (frames fd).2) :
    let w' := (w.run sys polls).2
    let requests := (List.range fdSetsize).filterMap fun fd =>
      if fd ∈ w'.refset ∧ ready fd ∧ fd ≠ w'.serverSocket then some (frames fd) else none
    (w'.turn sys poll).1 = .ok () ∧ (w'.turn sys poll).2.executed = w'.executed ++ requests ∧
      (w'.turn sys poll).2.serialServer =
        requests.foldl (SerialServer.execute version) w'.serialServer := by
  intro w' requests
  obtain ⟨⟨watched, serial⟩, -⟩ := run_sound started polls
  have after := (turn_sound poll w' ⟨watched, serial⟩).1.2.serial
  have awaiting : w'.Awaiting sys version (w'.refset.filter fun fd => ready fd) frames 0 := by
    refine ⟨watched, serial, ?_, ?_⟩
    · exact fun fd member _ => (Finset.mem_filter.mp member).1
    · intro fd member _ other
      obtain ⟨open_, readable⟩ := Finset.mem_filter.mp member
      exact asking fd open_ readable other
  obtain ⟨w'', visited, executed⟩ := awaiting.visits limit poll.accepts (fdSetsize + 1)
    (Nat.zero_le _) (Nat.lt_succ_self _)
  have turned : w'.turn sys poll = (.ok (), w'') := by
    rw [turn, selected]
    exact visited
  have same : w''.executed = w'.executed ++ requests := by
    refine executed.trans ?_
    simp only [requests]
    rw [List.range_eq_range', Nat.sub_zero]
    congr 2
    funext fd
    simp only [due, Finset.mem_filter, and_assoc]
  rw [turned, same, List.foldl_append, ← serial.serial] at after
  rw [turned]
  exact ⟨rfl, same, after⟩

def twoFrames (fd : Nat) : Nat × List Byte := if fd = 4 then (0, writeSeven) else (1, readFirst)

theorem turn_answers_twoClients :
    ∃ w, start twoClients libmodbusVersion (fun _ => 0) (fun _ => 0) = .ok w ∧
      let w' := (w.run twoClients (twoClientsPolls 0)).2
      let w'' := w'.turn twoClients ⟨.ok fun _ => true, false⟩
      let requests := (List.range fdSetsize).filterMap fun fd =>
        if fd ∈ w'.refset ∧ true ∧ fd ≠ w'.serverSocket then some (twoFrames fd) else none
      w''.1 = .ok () ∧ w''.2.executed = w'.executed ++ requests ∧ w''.2.serialServer =
        requests.foldl (SerialServer.execute libmodbusVersion) w'.serialServer := by
  refine ⟨_, rfl, turn_answers rfl (by decide) (twoClientsPolls 0) _ _ rfl twoFrames ?_⟩
  set w' := (ManyUp.run twoClients (twoClientsPolls 0) _).2 with w'_def
  have watched : w'.refset = {3, 4, 5} := by decide +kernel
  intro fd member _ other
  rw [watched] at member
  simp only [Finset.mem_insert, Finset.mem_singleton] at member
  rcases member with rfl | rfl | rfl
  · exact absurd rfl other
  · exact ⟨rfl, ⟨by decide, by decide⟩, [.hangup], rfl⟩
  · exact ⟨rfl, ⟨by decide, by decide⟩, readFirst.map .item, rfl⟩

end ManyUp
end ModbusNet
