import DcasPolicyEngine.Feeder.Channel
import DcasPolicyEngine.Register.InOrder

/-!
# The order of the messages

Between the two writes of a message the slot has the new sample and the old number, and a read may
take it then or while it is stored. If a copy returns a whole sample, it may be older than the one
in the slot, but not older than the one at the load of the number: `ticks_follow_messages` says that
in every interleaving the ticks use the messages in the order in which they were stored.
-/

namespace DcasPolicyEngine

/-- The message whose sample a step has stored. -/
def ChannelOutput.message : ChannelOutput → Option PerceptionMessage
  | .stored msg => some msg
  | _ => none

/-- The tick of a step. -/
def ChannelOutput.tick : ChannelOutput → Option RuntimeTickInput
  | .iterated output => output.map BridgeOutput.tick
  | _ => none

/-- The perceptions of the messages that were stored. -/
def messagePerceptions (outputs : List ChannelOutput) : List HeldPerception :=
  (outputs.filterMap ChannelOutput.message).map PerceptionMessage.perception

/-- The perceptions of the ticks. -/
def tickPerceptions (outputs : List ChannelOutput) : List HeldPerception :=
  (outputs.filterMap ChannelOutput.tick).map RuntimeTickInput.perception

theorem message_perceptions_cons (output : ChannelOutput) (outputs : List ChannelOutput) :
    messagePerceptions (output :: outputs) =
      messagePerceptions [output] ++ messagePerceptions outputs := by
  unfold messagePerceptions
  cases output <;> rfl

theorem tick_perceptions_cons (output : ChannelOutput) (outputs : List ChannelOutput) :
    tickPerceptions (output :: outputs) = tickPerceptions [output] ++ tickPerceptions outputs := by
  unfold tickPerceptions
  rcases output with _ | _ | _ | _ | _ <;> rfl

namespace PerceptionChannel

variable {ρ : Type*} {config : BridgeConfig} {slotReader : SlotReader ρ}
variable {self : PerceptionChannel ρ} {history observed : List HeldPerception}

/-- The invariant of a read: the samples that it may copy are the newest of the history, and all
that the loop has ticked on is at least as old as the first of them. -/
structure SlotRead.Follows (read : SlotRead) (bridge : BridgeState)
    (history observed : List HeldPerception) : Prop where
  reads : bridge.ReadsPerception read.input
  window : ∃ older first rest,
    read.samples.map (fun sample => sample.perception) = first :: rest ∧
      history = older ++ first :: rest ∧ InOrder (older ++ [first]) observed

/-- The invariant of the channel: the slot has the newest perception of the history, and the loop
holds one that is as new as all that it has ticked on. -/
structure Follows (channel : PerceptionChannel ρ) (history observed : List HeldPerception) :
    Prop where
  newest : ∃ older, history = older ++ [channel.slotPerception]
  holding : Holding history observed channel.bridge.perception
  reading : ∀ read ∈ channel.reading, SlotRead.Follows read channel.bridge history observed

/-- The invariant does not look at the memory of the reader. -/
theorem Follows.with_reader (h : Follows self history observed) (reader : ρ) :
    Follows { self with reader := reader } history observed :=
  ⟨h.newest, h.holding, h.reading⟩

/-- A stored sample is the last of those that a read may copy. -/
theorem SlotRead.Follows.pass {read : SlotRead} {bridge : BridgeState}
    (h : SlotRead.Follows read bridge history observed) (sample : PerceptionRecord) :
    SlotRead.Follows { read with samples := read.samples ++ [sample] } bridge
      (history ++ [sample.perception]) observed := by
  obtain ⟨hreads, older, first, rest, hsamples, rfl, horder⟩ := h
  exact ⟨hreads, older, first, rest ++ [sample.perception], by simp [hsamples], by simp, horder⟩

/-- The perception of a whole copy can be held. -/
theorem SlotRead.Follows.holding {read : SlotRead} {bridge : BridgeState}
    (h : SlotRead.Follows read bridge history observed) {copied : PerceptionRecord}
    (hcopied : copied ∈ read.samples) : Holding history observed copied.perception := by
  obtain ⟨_, older, first, rest, hsamples, rfl, horder⟩ := h
  refine Holding.renew horder ?_
  rw [← hsamples]
  exact List.mem_map_of_mem hcopied

/-- The end of an iteration keeps the invariant, if it has read nothing or what may be held. -/
theorem Follows.iterate (h : Follows self history observed) {input : BridgeInput}
    {sample : Option PerceptionToDcasSample}
    (hsample : ∀ new ∈ sample, self.bridge.ReadsPerception input ∧
      Holding history observed new.perception) :
    Follows (self.iterate config input sample).2
      (history ++ messagePerceptions [(self.iterate config input sample).1])
      (observed ++ tickPerceptions [(self.iterate config input sample).1]) := by
  rw [show messagePerceptions [(self.iterate config input sample).1] = [] from rfl,
    List.append_nil]
  -- the loop holds what it held, or the new perception
  have hholding : Holding history observed (BridgeState.iterate config self.bridge
      { input with perception := sample }).2.perception := by
    cases sample with
    | none =>
        rw [BridgeState.iterate_perception_held (.inr rfl)]
        exact h.holding
    | some new =>
        obtain ⟨hreads, hnew⟩ := hsample new rfl
        have hreads' : self.bridge.ReadsPerception { input with perception := some new } := hreads
        rw [hreads'.iterate_perception rfl]
        exact hnew
  refine ⟨h.newest, ?_, ?_⟩
  · show Holding history (observed ++ tickPerceptions [.iterated (BridgeState.iterate config
      self.bridge { input with perception := sample }).1]) _
    cases houtput : (BridgeState.iterate config self.bridge { input with perception := sample }).1
      with
    | none =>
        rw [show tickPerceptions [.iterated none] = [] from rfl, List.append_nil]
        exact hholding
    | some output =>
        rw [show tickPerceptions [.iterated (some output)] = [output.tick.perception] from rfl,
          BridgeState.iterate_tick_perception houtput]
        exact hholding.look
  · rintro read ⟨⟩

/-- Every step whose copy is whole keeps the invariant, with what it stores and what it ticks on. -/
theorem Follows.step (h : Follows self history observed) {action : ChannelAction}
    (hwhole : self.CopiesWhole action) :
    Follows ((perceptionChannel config slotReader).step self action).2
      (history ++ messagePerceptions [((perceptionChannel config slotReader).step self action).1])
      (observed ++
        tickPerceptions [((perceptionChannel config slotReader).step self action).1]) := by
  have hidle : Follows self (history ++ []) (observed ++ []) := by
    rw [List.append_nil, List.append_nil]
    exact h
  cases action with
  | startFeeder => exact ⟨hidle.newest, hidle.holding, hidle.reading⟩
  | storeSample poll =>
      show Follows (self.storeSample poll).2 (_ ++ messagePerceptions [(self.storeSample poll).1])
        (_ ++ tickPerceptions [(self.storeSample poll).1])
      unfold storeSample
      split
      · next seq msg _ _ _ =>
          have hslot : (msg.sample poll.nowUs).perception = msg.perception :=
            msg.sample_perception poll.nowUs
          refine ⟨⟨history, ?_⟩, ?_, ?_⟩
          · exact congrArg (fun last => history ++ [last]) hslot.symm
          · show Holding (history ++ [msg.perception]) (observed ++ []) _
            rw [List.append_nil]
            exact h.holding.change msg.perception
          · intro read hread
            obtain ⟨read, hold, rfl⟩ := Option.mem_map.mp hread
            show SlotRead.Follows _ self.bridge (history ++ [msg.perception]) (observed ++ [])
            rw [List.append_nil, ← hslot]
            exact (h.reading read hold).pass _
      · exact hidle
  | storeSeq =>
      show Follows self.storeSeq.2 (_ ++ messagePerceptions [self.storeSeq.1])
        (_ ++ tickPerceptions [self.storeSeq.1])
      unfold storeSeq writeSeq
      split
      · next seq _ _ =>
          cases packUInt32 seq with
          | ok packed => exact ⟨hidle.newest, hidle.holding, hidle.reading⟩
          | error error => exact ⟨hidle.newest, hidle.holding, hidle.reading⟩
      · exact hidle
  | beginIteration input =>
      show Follows (self.beginIteration config slotReader input).2
        (_ ++ messagePerceptions [(self.beginIteration config slotReader input).1])
        (_ ++ tickPerceptions [(self.beginIteration config slotReader input).1])
      unfold beginIteration
      split
      · exact hidle
      · split
        · next hreads =>
            dsimp only
            split
            · refine ⟨hidle.newest, hidle.holding, ?_⟩
              rintro read ⟨⟩
              obtain ⟨older, hnewest⟩ := hidle.newest
              refine ⟨hreads, older, self.slotPerception, [], rfl, hnewest, ?_⟩
              rw [← hnewest]
              exact hidle.holding.inOrder
            · exact (h.with_reader _).iterate (by rintro new ⟨⟩)
        · exact h.iterate (by rintro new ⟨⟩)
  | takeSample copied =>
      show Follows (self.takeSample config copied).2
        (_ ++ messagePerceptions [(self.takeSample config copied).1])
        (_ ++ tickPerceptions [(self.takeSample config copied).1])
      unfold takeSample
      split
      · next read hreading =>
          have hfollows := h.reading read hreading
          refine h.iterate ?_
          rintro new ⟨⟩
          exact ⟨hfollows.reads, hfollows.holding (hwhole read hreading)⟩
      · exact hidle

/-- Every run whose copies are whole keeps the invariant. -/
theorem Follows.run (h : Follows self history observed) {actions : List ChannelAction}
    (hwhole : ∀ e ∈ (perceptionChannel config slotReader).trace self actions,
      e.before.CopiesWhole e.input) :
    Follows ((perceptionChannel config slotReader).run self actions)
      (history ++ messagePerceptions ((perceptionChannel config slotReader).outputs self actions))
      (observed ++
        tickPerceptions ((perceptionChannel config slotReader).outputs self actions)) := by
  induction actions generalizing self history observed with
  | nil =>
      show Follows self (history ++ []) (observed ++ [])
      rw [List.append_nil, List.append_nil]
      exact h
  | cons action actions ih =>
      rw [Machine.trace_cons, List.forall_mem_cons] at hwhole
      rw [Machine.outputs_cons, message_perceptions_cons, tick_perceptions_cons,
        ← List.append_assoc, ← List.append_assoc]
      exact ih (h.step hwhole.1) hwhole.2

end PerceptionChannel

/-- In every interleaving of the two processes in which each copy of the slot returns a whole sample
that the slot has had since the load of the number, whatever the reader makes of the numbers and
wherever the feeder is stopped and started again, the ticks use the perceptions of the messages in
the order in which these were stored. Before the first of them that is the default, and then the
sample that was in the slot at first. -/
theorem ticks_follow_messages {ρ : Type*} (config : BridgeConfig) (slotReader : SlotReader ρ)
    (buf : PerceptionShm) (startupUs : UInt64) (actions : List ChannelAction)
    (hwhole : ∀ e ∈ (perceptionChannel config slotReader).trace
      (.start config slotReader buf startupUs) actions, e.before.CopiesWhole e.input) :
    InOrder
      ({} :: buf.perceptionToDcas.perception ::
        messagePerceptions ((perceptionChannel config slotReader).outputs
          (.start config slotReader buf startupUs) actions))
      (tickPerceptions ((perceptionChannel config slotReader).outputs
        (.start config slotReader buf startupUs) actions)) := by
  have hstart : PerceptionChannel.Follows
      (PerceptionChannel.start config slotReader buf startupUs)
      [{}, buf.perceptionToDcas.perception] [] :=
    ⟨⟨[{}], rfl⟩, .start _ _, by rintro read ⟨⟩⟩
  exact (hstart.run hwhole).holding.inOrder

/-- A message that is stored between the load and the copy may be left for the next read. -/
theorem ticks_follow_messages_overlapped :
    tickPerceptions ((perceptionChannel {} lastNumber).outputs (.start {} lastNumber {} 0)
        overlappedRead) = [{}, { reason := .drowsy }] ∧
      InOrder [{}, { isAttentive := false }, { reason := .drowsy }, { reason := .phone }]
        (tickPerceptions ((perceptionChannel {} lastNumber).outputs (.start {} lastNumber {} 0)
          overlappedRead)) := by
  refine ⟨by decide +kernel, ?_⟩
  have hwhole : ∀ e ∈ (perceptionChannel {} lastNumber).trace (.start {} lastNumber {} 0)
      overlappedRead, e.before.CopiesWhole e.input := by decide +kernel
  have horder := ticks_follow_messages {} lastNumber {} 0 overlappedRead hwhole
  have hmessages : messagePerceptions ((perceptionChannel {} lastNumber).outputs
      (.start {} lastNumber {} 0) overlappedRead) =
        [{ reason := .drowsy }, { reason := .phone }] := by decide +kernel
  have hslot : ({} : PerceptionShm).perceptionToDcas.perception = { isAttentive := false } := by
    decide
  rw [hmessages, hslot] at horder
  exact horder

end DcasPolicyEngine
