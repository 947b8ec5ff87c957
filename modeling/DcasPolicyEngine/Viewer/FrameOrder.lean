import DcasPolicyEngine.Viewer.FrameSends

/-!
# The order of the frames

A client misses frames while one is in flight, but those that it gets come in the order of the
broadcasts, and none of them twice.
-/

namespace DcasPolicyEngine

/-- The frame in a message. -/
def ViewerMessage.frame : ViewerMessage → Option (List UInt8)
  | .binary data => some data
  | .text _ => none

/-- The frame whose broadcast begins. -/
def ServerOutput.begunFrame : ServerOutput → Option (List UInt8)
  | .began message => message.frame
  | .silent | .sent _ _ => none

/-- The frame that has been sent to the client. -/
def ServerOutput.sentFrame (client : ℕ) : ServerOutput → Option (List UInt8)
  | .sent receiver message => if receiver = client then message.frame else none
  | .silent | .began _ => none

/-- The frames of all broadcasts. -/
def broadcastFrames (outputs : List ServerOutput) : List (List UInt8) :=
  outputs.filterMap ServerOutput.begunFrame

/-- The frames that a client has been sent. -/
def sentFrames (client : ℕ) (outputs : List ServerOutput) : List (List UInt8) :=
  outputs.filterMap (ServerOutput.sentFrame client)

theorem broadcast_frames_concat (outputs : List ServerOutput) (output : ServerOutput) :
    broadcastFrames (outputs ++ [output]) =
      broadcastFrames outputs ++ output.begunFrame.toList := by
  cases hframe : output.begunFrame <;> simp [broadcastFrames, hframe]

theorem sent_frames_concat (client : ℕ) (outputs : List ServerOutput) (output : ServerOutput) :
    sentFrames client (outputs ++ [output]) =
      sentFrames client outputs ++ (output.sentFrame client).toList := by
  cases hframe : output.sentFrame client <;> simp [sentFrames, hframe]

theorem ViewerMessage.frame_eq_none {message : ViewerMessage} (h : ¬ message.IsBinary) :
    message.frame = none := by
  cases message with
  | binary data => exact absurd trivial h
  | text message => rfl

namespace DCASWebSocketServer

/-- The frame that is being broadcast. -/
def heldFrame (self : DCASWebSocketServer) : Option (List UInt8) :=
  self.lock.bind fun broadcast => broadcast.message.frame

/-- The frames in flight to a client. -/
def inFlight (self : DCASWebSocketServer) (client : ℕ) : List (List UInt8) :=
  (self.framesOf client).filterMap fun send => send.message.frame

/-- The broadcast has not been handed to the client, but may still be. -/
def Awaits (self : DCASWebSocketServer) (client : ℕ) : Prop :=
  ∃ broadcast, self.lock = some broadcast ∧
    (client ∈ broadcast.todo ∨ broadcast.phase = .handing client)

/-- The frames that a client gets come in the order of the broadcasts. A client that awaits the
present one gets none of it. -/
def Ordered (self : DCASWebSocketServer) (client : ℕ) (broadcasts sent : List (List UInt8)) :
    Prop :=
  ∃ earlier, broadcasts = earlier ++ self.heldFrame.toList ∧
    (sent ++ self.inFlight client).Sublist broadcasts ∧
      (self.Awaits client → (sent ++ self.inFlight client).Sublist earlier)

theorem ordered_start (client : ℕ) : ({} : DCASWebSocketServer).Ordered client [] [] := by
  refine ⟨[], rfl, List.Sublist.refl [], ?_⟩
  rintro ⟨broadcast, ⟨⟩, _⟩

variable {server next : DCASWebSocketServer} {client : ℕ} {broadcasts sent : List (List UInt8)}

theorem in_flight_eq_of_sends (hsends : next.sends = server.sends) (client : ℕ) :
    next.inFlight client = server.inFlight client := by
  unfold inFlight framesOf
  rw [hsends]

/-- A frame that is handed to the loop is in flight to its client. -/
theorem in_flight_cons {send : ClientSend} (hsends : next.sends = send :: server.sends)
    (client : ℕ) : next.inFlight client =
      (if send.client = client then send.message.frame else none).toList ++
        server.inFlight client := by
  obtain ⟨future, receiver, message⟩ := send
  unfold inFlight framesOf
  rw [hsends, List.filter_cons]
  by_cases hclient : receiver = client
  · cases message with
    | binary data => simp [hclient, ViewerMessage.IsBinary, ViewerMessage.frame]
    | text message => simp [ViewerMessage.IsBinary, ViewerMessage.frame]
  · simp [hclient]

/-- Awaiting depends on the lock only. -/
theorem Awaits.of_lock (h : next.Awaits client) (hlock : next.lock = server.lock) :
    server.Awaits client := by
  unfold Awaits at h
  rw [hlock] at h
  exact h

/-- What a send leaves in flight, after what it has sent, was in flight. -/
theorem complete_in_flight (hsound : server.Sound) (client future : ℕ) (succeeds : Bool) :
    (((server.complete future succeeds).1.sentFrame client).toList ++
      (server.complete future succeeds).2.inFlight client).Sublist (server.inFlight client) := by
  have hframes : (server.complete future succeeds).2.framesOf client =
      (server.framesOf client).filter fun send => send.future ≠ future := by
    exact List.filter_comm _ _ _
  have hrest : ((server.complete future succeeds).2.inFlight client).Sublist
      (server.inFlight client) := by
    unfold inFlight
    rw [hframes]
    exact List.filter_sublist.filterMap _
  cases hsent : (server.complete future succeeds).1.sentFrame client with
  | none => exact hrest
  | some data =>
      -- the send that has succeeded is that of the one frame in flight
      obtain ⟨send, hmem, hfuture, hclient, hdata⟩ : ∃ send ∈ server.sends, send.future = future ∧
          send.client = client ∧ send.message.frame = some data := by
        unfold DCASWebSocketServer.complete at hsent
        dsimp only at hsent
        split at hsent
        · rename_i send hfind
          have hfuture := List.find?_some hfind
          obtain rfl : succeeds = true := by
            by_contra hfails
            rw [if_neg hfails] at hsent
            cases hsent
          have hframe : (if send.client = client then send.message.frame else none) = some data :=
            hsent
          split_ifs at hframe with hclient
          exact ⟨send, List.mem_of_find?_eq_some hfind, of_decide_eq_true hfuture, hclient, hframe⟩
        · cases hsent
      have hframe : send ∈ server.framesOf client := by
        refine List.mem_filter.mpr ⟨hmem, decide_eq_true ⟨hclient, ?_⟩⟩
        by_contra htext
        cases (ViewerMessage.frame_eq_none htext).symm.trans hdata
      have hone : server.framesOf client = [send] := by
        obtain ⟨only, honly⟩ := List.length_eq_one_iff.mp
          (le_antisymm (hsound.tracked.frames client) (List.length_pos_of_mem hframe))
        rw [honly] at hframe ⊢
        rw [List.mem_singleton.mp hframe]
      unfold inFlight
      rw [hframes, hone]
      simp [hfuture, hdata]

namespace Ordered

/-- Nothing is sent or handed, and no client awaits the broadcast that has not done so before. -/
theorem of_sends (h : server.Ordered client broadcasts sent) (hsends : next.sends = server.sends)
    (hheld : next.heldFrame = server.heldFrame)
    (hawaits : next.Awaits client → server.Awaits client) :
    next.Ordered client broadcasts sent := by
  obtain ⟨earlier, hbroadcasts, hsublist, hearlier⟩ := h
  unfold Ordered
  rw [hheld, in_flight_eq_of_sends hsends]
  exact ⟨earlier, hbroadcasts, hsublist, fun hnext => hearlier (hawaits hnext)⟩

theorem accept (h : server.Ordered client broadcasts sent) (other : ℕ) :
    (server.accept other).Ordered client broadcasts sent := by
  unfold DCASWebSocketServer.accept
  split_ifs
  · exact h.of_sends rfl rfl fun hawaits => hawaits.of_lock rfl
  · exact h

theorem add (h : server.Ordered client broadcasts sent) (other : ℕ) :
    (server.add other).Ordered client broadcasts sent := by
  unfold DCASWebSocketServer.add
  split_ifs
  · exact h.of_sends rfl rfl fun hawaits => hawaits.of_lock rfl
  · exact h

theorem discard (h : server.Ordered client broadcasts sent) (other : ℕ) :
    (server.discard other).Ordered client broadcasts sent := by
  unfold DCASWebSocketServer.discard
  split_ifs
  · exact h.of_sends rfl rfl fun hawaits => hawaits.of_lock rfl
  · exact h

theorem pop (h : server.Ordered client broadcasts sent) (other : ℕ) :
    (server.pop other).Ordered client broadcasts sent := by
  unfold DCASWebSocketServer.pop
  split_ifs
  · exact h.of_sends rfl rfl fun hawaits => hawaits.of_lock rfl
  · exact h

theorem shutdown (h : server.Ordered client broadcasts sent) :
    server.shutdown.Ordered client broadcasts sent := by
  unfold DCASWebSocketServer.shutdown
  split_ifs
  · exact h.of_sends rfl rfl fun hawaits => hawaits.of_lock rfl
  · exact h

/-- A broadcast begins, for the clients of the set. -/
theorem acquire (h : server.Ordered client broadcasts sent) (message : ViewerMessage) :
    (server.acquire message).2.Ordered client
      (broadcasts ++ (server.acquire message).1.begunFrame.toList) sent := by
  unfold DCASWebSocketServer.acquire
  split_ifs with hfree
  · obtain ⟨_, _, hsublist, _⟩ := h
    exact ⟨broadcasts, rfl, hsublist.trans (List.sublist_append_left _ _), fun _ => hsublist⟩
  · exact (List.append_nil broadcasts).symm ▸ h

theorem visit (h : server.Ordered client broadcasts sent) (other : ℕ) :
    (server.visit other).Ordered client broadcasts sent := by
  obtain ⟨clients, lock, sendFutures, handlers, sends, createdFutures⟩ := server
  unfold DCASWebSocketServer.visit
  dsimp only
  split
  · rename_i message todo dead
    split_ifs with hmem hskip
    · refine h.of_sends rfl rfl ?_
      rintro ⟨broadcast, ⟨⟩, htodo | ⟨⟨⟩⟩⟩
      exact ⟨_, rfl, .inl (Finset.mem_of_mem_erase htodo)⟩
    · refine h.of_sends rfl rfl ?_
      rintro ⟨broadcast, ⟨⟩, htodo | ⟨⟨⟩⟩⟩
      · exact ⟨_, rfl, .inl (Finset.mem_of_mem_erase htodo)⟩
      · exact ⟨_, rfl, .inl hmem⟩
    · exact h
  · exact h

theorem keep (h : server.Ordered client broadcasts sent) :
    server.keep.Ordered client broadcasts sent := by
  obtain ⟨clients, lock, sendFutures, handlers, sends, createdFutures⟩ := server
  unfold DCASWebSocketServer.keep
  dsimp only
  split
  · refine h.of_sends rfl rfl ?_
    rintro ⟨broadcast, ⟨⟩, htodo | ⟨⟨⟩⟩⟩
    exact ⟨_, rfl, .inl htodo⟩
  · exact h

/-- The frame of a broadcast that ends is one of the earlier ones. -/
theorem release (h : server.Ordered client broadcasts sent) :
    server.release.Ordered client broadcasts sent := by
  obtain ⟨clients, lock, sendFutures, handlers, sends, createdFutures⟩ := server
  unfold DCASWebSocketServer.release
  dsimp only
  split
  · split_ifs with hempty
    · obtain ⟨_, _, hsublist, _⟩ := h
      refine ⟨broadcasts, (List.append_nil broadcasts).symm, hsublist, ?_⟩
      rintro ⟨broadcast, ⟨⟩, _⟩
    · exact h
  · exact h

/-- A client that is handed a frame has none in flight, and awaits it no longer. -/
theorem hand (h : server.Ordered client broadcasts sent) (hsound : server.Sound) (raises : Bool) :
    (server.hand raises).Ordered client broadcasts sent := by
  obtain ⟨clients, lock, sendFutures, handlers, sends, createdFutures⟩ := server
  unfold DCASWebSocketServer.hand
  dsimp only
  split
  · rename_i message todo dead receiver
    obtain ⟨_, hvisited⟩ := hsound.guarded.current _ rfl receiver rfl
    cases raises with
    | true =>
        rw [if_pos rfl]
        refine h.of_sends rfl rfl ?_
        rintro ⟨broadcast, ⟨⟩, htodo | ⟨⟨⟩⟩⟩
        exact ⟨_, rfl, .inl htodo⟩
    | false =>
        rw [if_neg Bool.false_ne_true]
        have hflight (lock : Option Broadcast) :
            (⟨clients, lock, sendFutures, handlers,
              ⟨createdFutures, receiver, message⟩ :: sends, createdFutures + 1⟩ :
                DCASWebSocketServer).inFlight client =
              (if receiver = client then message.frame else none).toList ++
                (⟨clients, some ⟨message, todo, dead, .handing receiver⟩, sendFutures, handlers,
                  sends, createdFutures⟩ : DCASWebSocketServer).inFlight client :=
          @in_flight_cons ⟨clients, some ⟨message, todo, dead, .handing receiver⟩, sendFutures,
            handlers, sends, createdFutures⟩ _ ⟨createdFutures, receiver, message⟩ rfl client
        obtain ⟨earlier, hbroadcasts, hsublist, hearlier⟩ := h
        refine ⟨earlier, hbroadcasts, ?_, ?_⟩
        · rw [hflight]
          by_cases hclient : receiver = client
          · subst hclient
            rw [if_pos rfl]
            by_cases hbinary : message.IsBinary
            · have hnone := hsound.tracked.handing _ receiver rfl rfl hbinary
              have hbefore := hearlier ⟨_, rfl, .inr rfl⟩
              unfold inFlight at hbefore ⊢
              rw [hnone] at hbefore ⊢
              rw [hbroadcasts, List.filterMap_nil, List.append_nil]
              rw [List.filterMap_nil, List.append_nil] at hbefore
              exact hbefore.append_right message.frame.toList
            · rw [ViewerMessage.frame_eq_none hbinary]
              exact hsublist
          · rw [if_neg hclient]
            exact hsublist
        · rintro ⟨broadcast, hlock, hawaits⟩
          obtain rfl := Option.some.inj hlock
          have hphase : (if message.IsBinary then BroadcastPhase.keeping receiver createdFutures
              else .next) ≠ .handing client := by
            split_ifs <;> exact nofun
          have htodo : client ∈ todo := hawaits.resolve_right hphase
          have hclient : receiver ≠ client := fun heq => hvisited (heq ▸ htodo)
          rw [hflight, if_neg hclient]
          exact hearlier ⟨_, rfl, .inl htodo⟩
  · exact h

/-- What is sent has been in flight. -/
theorem complete (h : server.Ordered client broadcasts sent) (hsound : server.Sound) (future : ℕ)
    (succeeds : Bool) :
    (server.complete future succeeds).2.Ordered client broadcasts
      (sent ++ ((server.complete future succeeds).1.sentFrame client).toList) := by
  obtain ⟨earlier, hbroadcasts, hsublist, hearlier⟩ := h
  have hflight := complete_in_flight hsound client future succeeds
  have hless : (sent ++ ((server.complete future succeeds).1.sentFrame client).toList ++
      (server.complete future succeeds).2.inFlight client).Sublist
        (sent ++ server.inFlight client) := by
    rw [List.append_assoc]
    exact hflight.append_left sent
  exact ⟨earlier, hbroadcasts, hless.trans hsublist, fun hawaits =>
    hless.trans (hearlier (hawaits.of_lock rfl))⟩

end Ordered

/-- A statement of a thread keeps the order. -/
theorem Ordered.step (h : server.Ordered client broadcasts sent) (hsound : server.Sound)
    (action : ServerAction) :
    (webSocketServer.step server action).2.Ordered client
      (broadcasts ++ (webSocketServer.step server action).1.begunFrame.toList)
      (sent ++ ((webSocketServer.step server action).1.sentFrame client).toList) := by
  have hsilent {next : DCASWebSocketServer} (hnext : next.Ordered client broadcasts sent) :
      next.Ordered client (broadcasts ++ []) (sent ++ []) := by
    rwa [List.append_nil, List.append_nil]
  match action with
  | .accept other => exact hsilent (h.accept other)
  | .add other => exact hsilent (h.add other)
  | .discard other => exact hsilent (h.discard other)
  | .pop other => exact hsilent (h.pop other)
  | .acquire message =>
      have hsent : (server.acquire message).1.sentFrame client = none := by
        unfold DCASWebSocketServer.acquire
        split_ifs <;> rfl
      show (server.acquire message).2.Ordered client _
        (sent ++ ((server.acquire message).1.sentFrame client).toList)
      rw [hsent]
      exact (List.append_nil sent).symm ▸ h.acquire message
  | .visit other => exact hsilent (h.visit other)
  | .hand raises => exact hsilent (h.hand hsound raises)
  | .keep => exact hsilent h.keep
  | .release => exact hsilent h.release
  | .complete future succeeds =>
      have hbegun : (server.complete future succeeds).1.begunFrame = none := by
        unfold DCASWebSocketServer.complete
        dsimp only
        split
        · split_ifs <;> rfl
        · rfl
      show (server.complete future succeeds).2.Ordered client
        (broadcasts ++ ((server.complete future succeeds).1.begunFrame).toList) _
      rw [hbegun]
      exact (List.append_nil broadcasts).symm ▸ h.complete hsound future succeeds
  | .shutdown => exact hsilent h.shutdown

/-- Every interleaving keeps the order. -/
theorem ordered_run (actions : List ServerAction) (client : ℕ) :
    (webSocketServer.run {} actions).Ordered client
      (broadcastFrames (webSocketServer.outputs {} actions))
      (sentFrames client (webSocketServer.outputs {} actions)) := by
  induction actions using List.reverseRecOn with
  | nil => exact ordered_start client
  | append_singleton actions action ih =>
      rw [Machine.run_concat, Machine.outputs_concat, broadcast_frames_concat, sent_frames_concat]
      exact ih.step (.run actions) action

end DCASWebSocketServer

/-- The frames that a client is sent are some of those that have been broadcast, in their order. -/
theorem sent_sublist_broadcast (actions : List ServerAction) (client : ℕ) :
    (sentFrames client (webSocketServer.outputs {} actions)).Sublist
      (broadcastFrames (webSocketServer.outputs {} actions)) := by
  obtain ⟨_, _, hsublist, _⟩ := DCASWebSocketServer.ordered_run actions client
  exact (List.sublist_append_left _ _).trans hsublist

/-- Whatever the interleaving, the frames that a client is sent are some of those that have been
broadcast, in the same order and none of them twice, and so is what is in flight, which comes after
them. -/
theorem frames_in_order (actions : List ServerAction) (client : ℕ) :
    (sentFrames client (webSocketServer.outputs {} actions) ++
        (webSocketServer.run {} actions).inFlight client).Sublist
      (broadcastFrames (webSocketServer.outputs {} actions)) := by
  obtain ⟨_, _, hsublist, _⟩ := DCASWebSocketServer.ordered_run actions client
  exact hsublist

end DcasPolicyEngine
