import DcasPolicyEngine.Feeder.MessageOrder

/-!
# The messages that a read misses

The reader takes a number for news when it is not the last one that it has seen. The numbers wrap,
so after a multiple of `0xFFFFFFFF` announcements between two reads the second one sees none of
them. `perception_after_read` says that a read misses announced messages in no other case.
-/

namespace DcasPolicyEngine

/-- The number of messages that were announced. -/
def announcements (outputs : List ChannelOutput) : ℕ :=
  outputs.countP fun output => output matches .announced (.ok ())

theorem announcements_cons (output : ChannelOutput) (outputs : List ChannelOutput) :
    announcements (output :: outputs) = announcements outputs + announcements [output] := by
  rw [← List.singleton_append, announcements, List.countP_append]
  exact add_comm _ _

/-- A number that fits is stored. -/
theorem write_seq_fits (buf : PerceptionShm) {value : ℕ} (hfits : value ≤ maxSeq) :
    writeSeq buf value = (.ok (), { buf with perceptionSeq := UInt32.ofNat value }) := by
  have hpack : packUInt32 value = .ok (UInt32.ofNat value) :=
    if_pos ⟨Int.natCast_nonneg value, by exact_mod_cast hfits⟩
  unfold writeSeq
  rw [hpack]

/-- The number that does not fit is not stored. -/
theorem write_seq_overrun (buf : PerceptionShm) :
    writeSeq buf (maxSeq + 1) = (.error ⟨maxSeq + 1⟩, buf) := rfl

/-- The feeder is not running, or it holds the next number or the one that does not fit. -/
def PerceptionFeeder.Counting (feeder : PerceptionFeeder) : Prop :=
  feeder.seq = none ∨ feeder.Numbered ∨ feeder.Overrun

/-- A started feeder counts. -/
theorem PerceptionFeeder.counting_start (buf : PerceptionShm) :
    (PerceptionFeeder.start buf).Counting := by
  have hle : buf.perceptionSeq.toNat ≤ maxSeq := Nat.le_of_lt_succ buf.perceptionSeq.toNat_lt
  rcases hle.lt_or_eq with hlt | htop
  · exact .inr (.inl (numbered_start hlt))
  · exact .inr (.inr (overrun_start htop))

namespace PerceptionChannel

open WrapCounter

variable {ρ : Type*} (config : BridgeConfig) (slotReader : SlotReader ρ)
variable {self : PerceptionChannel ρ}

/-- The next step of the bridge on this input loads the number in the slot. -/
def Loads (channel : PerceptionChannel ρ) (action : ChannelAction) : Prop :=
  ∃ input, action = .beginIteration input ∧ channel.reading = none ∧
    channel.bridge.ReadsPerception input

/-- The write of the number keeps a feeder counting, and moves the slot on if it announces. -/
theorem store_seq_counting (h : self.feeder.Counting) :
    self.storeSeq.2.feeder.Counting ∧
      self.storeSeq.2.feeder.slot =
        (next maxSeq)^[announcements [self.storeSeq.1]] self.feeder.slot := by
  unfold storeSeq
  split
  · next seq _ hseq =>
      rcases h with hnone | hnumbered | hoverrun
      · rw [hseq] at hnone
        cases hnone
      · obtain rfl : seq = (next maxSeq self.feeder.slot : ℤ) :=
          Option.some.inj (hseq.symm.trans hnumbered)
        have hle : next maxSeq self.feeder.slot ≤ maxSeq :=
          next_le PerceptionFeeder.max_seq_pos self.feeder.slot
        have hslot : (UInt32.ofNat (next maxSeq self.feeder.slot)).toNat =
            next maxSeq self.feeder.slot :=
          UInt32.toNat_ofNat_of_lt' (Nat.lt_succ_of_le hle)
        rw [write_seq_fits self.feeder.buf hle]
        refine ⟨.inr (.inl ?_), hslot⟩
        show some (PerceptionFeeder.advanceSeq _) = some _
        rw [PerceptionFeeder.advance_seq_eq hle]
        exact congrArg (fun value => some ((next maxSeq value : ℕ) : ℤ)) hslot.symm
      · obtain rfl : seq = (maxSeq + 1 : ℤ) := Option.some.inj (hseq.symm.trans hoverrun)
        rw [write_seq_overrun]
        exact ⟨.inl rfl, rfl⟩
  · exact ⟨h, rfl⟩

/-- Every step keeps the feeder counting and moves the slot on once for an announcement. Only a load
changes what the reader remembers. -/
theorem step_counting (h : self.feeder.Counting) (action : ChannelAction) :
    ((perceptionChannel config slotReader).step self action).2.feeder.Counting ∧
      ((perceptionChannel config slotReader).step self action).2.feeder.slot =
        (next maxSeq)^[announcements [((perceptionChannel config slotReader).step self action).1]]
          self.feeder.slot ∧
      (¬ self.Loads action →
        ((perceptionChannel config slotReader).step self action).2.reader = self.reader) := by
  cases action with
  | startFeeder => exact ⟨PerceptionFeeder.counting_start _, rfl, fun _ => rfl⟩
  | storeSample poll =>
      show (self.storeSample poll).2.feeder.Counting ∧ (self.storeSample poll).2.feeder.slot =
        (next maxSeq)^[announcements [(self.storeSample poll).1]] _ ∧
        (_ → (self.storeSample poll).2.reader = _)
      unfold storeSample
      split
      · next seq msg _ hseq _ =>
          have hcounting : PerceptionFeeder.Counting { self.feeder with seq := some seq } := by
            rw [← hseq]
            exact h
          exact ⟨hcounting, rfl, fun _ => rfl⟩
      · exact ⟨h, rfl, fun _ => rfl⟩
  | storeSeq =>
      obtain ⟨hcounting, hslot⟩ := store_seq_counting h
      refine ⟨hcounting, hslot, fun _ => ?_⟩
      show self.storeSeq.2.reader = _
      unfold storeSeq writeSeq
      split
      · next seq _ _ => cases packUInt32 seq <;> rfl
      · rfl
  | beginIteration input =>
      show (self.beginIteration config slotReader input).2.feeder.Counting ∧
        (self.beginIteration config slotReader input).2.feeder.slot =
          (next maxSeq)^[announcements [(self.beginIteration config slotReader input).1]] _ ∧
        (_ → (self.beginIteration config slotReader input).2.reader = _)
      unfold beginIteration
      split
      · exact ⟨h, rfl, fun _ => rfl⟩
      · next hreading =>
          split
          · next hreads =>
              have hloads : self.Loads (.beginIteration input) :=
                ⟨input, rfl, Option.not_isSome_iff_eq_none.mp hreading, hreads⟩
              dsimp only
              split
              · exact ⟨h, rfl, fun hno => absurd hloads hno⟩
              · exact ⟨h, rfl, fun hno => absurd hloads hno⟩
          · exact ⟨h, rfl, fun _ => rfl⟩
  | takeSample copied =>
      show (self.takeSample config copied).2.feeder.Counting ∧
        (self.takeSample config copied).2.feeder.slot =
          (next maxSeq)^[announcements [(self.takeSample config copied).1]] _ ∧
        (_ → (self.takeSample config copied).2.reader = _)
      unfold takeSample
      split <;> exact ⟨h, rfl, fun _ => rfl⟩

/-- In every run the feeder keeps counting and the announcements move the slot on. Without a load
the reader remembers what it did. -/
theorem run_counting (h : self.feeder.Counting) (actions : List ChannelAction) :
    ((perceptionChannel config slotReader).run self actions).feeder.Counting ∧
      ((perceptionChannel config slotReader).run self actions).feeder.slot =
        (next maxSeq)^[announcements ((perceptionChannel config slotReader).outputs self actions)]
          self.feeder.slot ∧
      ((∀ e ∈ (perceptionChannel config slotReader).trace self actions,
          ¬ e.before.Loads e.input) →
        ((perceptionChannel config slotReader).run self actions).reader = self.reader) := by
  induction actions generalizing self with
  | nil => exact ⟨h, rfl, fun _ => rfl⟩
  | cons action actions ih =>
      obtain ⟨hcounting, hslot, hreader⟩ :=
        step_counting config slotReader h action
      obtain ⟨hcounting', hslot', hreader'⟩ := ih hcounting
      rw [Machine.run_cons, Machine.outputs_cons, announcements_cons, Machine.trace_cons,
        List.forall_mem_cons, Function.iterate_add_apply, ← hslot]
      refine ⟨hcounting', hslot', ?_⟩
      intro hnone
      rw [hreader' hnone.2]
      exact hreader hnone.1

variable {config slotReader}

/-- The channels that some interleaving reaches. -/
def Reachable (config : BridgeConfig) (slotReader : SlotReader ρ) (channel : PerceptionChannel ρ) :
    Prop :=
  (perceptionChannel config slotReader).Reachable
    (fun first => ∃ buf startupUs, first = .start config slotReader buf startupUs) channel

/-- In a reachable channel the feeder counts. -/
theorem Reachable.counting (h : Reachable config slotReader self) : self.feeder.Counting := by
  refine @Machine.Reachable.invariant _ _ _ _ _ (fun channel => channel.feeder.Counting) _ h ?_ ?_
  · intro first hfirst
    obtain ⟨buf, startupUs, rfl⟩ := hfirst
    exact .inl rfl
  · intro channel action hcounting
    exact (step_counting config slotReader hcounting action).1

variable (config slotReader)

/-- What a load does: the reader has seen the number, and if it is news the sample is next. -/
theorem begin_iteration_of_loads {seen : ρ → UInt32} (hreader : slotReader.Documented seen)
    {input : BridgeInput} (hloads : self.Loads (.beginIteration input)) :
    seen (self.beginIteration config slotReader input).2.reader =
        self.feeder.buf.perceptionSeq ∧
      (self.beginIteration config slotReader input).2.feeder = self.feeder ∧
      (self.feeder.buf.perceptionSeq ≠ seen self.reader →
        (self.beginIteration config slotReader input).2.reading =
            some { input := input, samples := [self.feeder.buf.perceptionToDcas] } ∧
          (self.beginIteration config slotReader input).2.bridge = self.bridge) ∧
      (self.feeder.buf.perceptionSeq = seen self.reader →
        (self.beginIteration config slotReader input).2.reading = none ∧
          (self.beginIteration config slotReader input).2.bridge.perception =
            self.bridge.perception) := by
  obtain ⟨input', hinput, hreading, hreads⟩ := hloads
  obtain rfl := ChannelAction.beginIteration.inj hinput
  have hnews := hreader.news_iff self.reader self.feeder.buf.perceptionSeq
  unfold beginIteration
  rw [hreading, if_neg (by simp), if_pos hreads]
  dsimp only
  split
  · next htrue =>
      refine ⟨hreader.seen_load _ _, rfl, fun _ => ⟨rfl, rfl⟩, ?_⟩
      intro hsame
      exact absurd hsame (hnews.mp htrue)
  · next hfalse =>
      refine ⟨hreader.seen_load _ _, rfl, ?_, ?_⟩
      · intro hnew
        exact absurd (hnews.mpr hnew) hfalse
      · intro _
        exact ⟨rfl, BridgeState.iterate_perception_held (.inr rfl)⟩

/-- Between two loads the number in the slot comes back exactly after no announcement, or after a
multiple of all numbers if the slot was written before. -/
theorem slot_same_iff {seen : ρ → UInt32} (hreader : slotReader.Documented seen)
    (hcounting : self.feeder.Counting) {first : BridgeInput} {window : List ChannelAction}
    (hfirst : self.Loads (.beginIteration first))
    (hwindow : ∀ e ∈ (perceptionChannel config slotReader).trace
      (self.beginIteration config slotReader first).2 window, ¬ e.before.Loads e.input) :
    ((perceptionChannel config slotReader).run self
          (.beginIteration first :: window)).feeder.buf.perceptionSeq =
        seen ((perceptionChannel config slotReader).run self
          (.beginIteration first :: window)).reader ↔
      announcements ((perceptionChannel config slotReader).outputs self
          (.beginIteration first :: window)) = 0 ∨
        0 < self.feeder.slot ∧
          maxSeq ∣ announcements ((perceptionChannel config slotReader).outputs self
            (.beginIteration first :: window)) := by
  obtain ⟨hseen, hfeeder, _, _⟩ := begin_iteration_of_loads config slotReader hreader hfirst
  have hmid : (self.beginIteration config slotReader first).2.feeder.Counting := by
    rw [hfeeder]
    exact hcounting
  obtain ⟨_, hslot, hkept⟩ := run_counting config slotReader
    hcounting (.beginIteration first :: window)
  have hreader' : ((perceptionChannel config slotReader).run self
      (.beginIteration first :: window)).reader =
        (self.beginIteration config slotReader first).2.reader :=
    (run_counting config slotReader hmid window).2.2 hwindow
  rw [hreader', hseen, ← UInt32.toNat_inj]
  show PerceptionFeeder.slot _ = self.feeder.slot ↔ _
  rw [hslot]
  exact next_iterate_eq_self_iff PerceptionFeeder.max_seq_pos self.feeder.slot_le _

/-- A step of the feeder leaves the bridge alone. A read that goes on may copy the sample that it
stores. -/
theorem feeder_step {action : ChannelAction} (hfeeder : action.OfFeeder)
    (self : PerceptionChannel ρ) :
    ((perceptionChannel config slotReader).step self action).2.bridge = self.bridge ∧
      ∃ stored : List PerceptionRecord,
        stored.map (fun sample => sample.perception) =
            messagePerceptions [((perceptionChannel config slotReader).step self action).1] ∧
          ((perceptionChannel config slotReader).step self action).2.reading =
            self.reading.map fun read => { read with samples := read.samples ++ stored } := by
  have hsame : self.reading =
      self.reading.map fun read => { read with samples := read.samples ++ [] } := by
    cases self.reading <;> simp
  cases hfeeder with
  | startFeeder => exact ⟨rfl, [], rfl, hsame⟩
  | storeSample poll =>
      show (self.storeSample poll).2.bridge = _ ∧ ∃ stored, _ =
        messagePerceptions [(self.storeSample poll).1] ∧ (self.storeSample poll).2.reading = _
      unfold storeSample
      split
      · next seq msg _ _ _ =>
          refine ⟨rfl, [msg.sample poll.nowUs], ?_, rfl⟩
          exact congrArg (fun perception => [perception]) (msg.sample_perception poll.nowUs)
      · exact ⟨rfl, [], rfl, hsame⟩
  | storeSeq =>
      show self.storeSeq.2.bridge = _ ∧ ∃ stored, _ = messagePerceptions [self.storeSeq.1] ∧
        self.storeSeq.2.reading = _
      unfold storeSeq writeSeq
      split
      · next seq _ _ => cases packUInt32 seq <;> exact ⟨rfl, [], rfl, hsame⟩
      · exact ⟨rfl, [], rfl, hsame⟩

/-- The steps of the feeder leave the bridge alone. A read that goes on may copy the samples that
they store. -/
theorem feeder_run {during : List ChannelAction} (hfeeder : ∀ action ∈ during, action.OfFeeder)
    (self : PerceptionChannel ρ) :
    ((perceptionChannel config slotReader).run self during).bridge = self.bridge ∧
      ∃ stored : List PerceptionRecord,
        stored.map (fun sample => sample.perception) =
            messagePerceptions ((perceptionChannel config slotReader).outputs self during) ∧
          ((perceptionChannel config slotReader).run self during).reading =
            self.reading.map fun read => { read with samples := read.samples ++ stored } := by
  induction during generalizing self with
  | nil =>
      refine ⟨rfl, [], rfl, ?_⟩
      cases hreading : self.reading <;> simp [hreading]
  | cons action during ih =>
      rw [List.forall_mem_cons] at hfeeder
      obtain ⟨hbridge, stored, hstored, hreading⟩ :=
        feeder_step config slotReader hfeeder.1 self
      obtain ⟨hbridge', stored', hstored', hreading'⟩ :=
        ih hfeeder.2 ((perceptionChannel config slotReader).step self action).2
      rw [Machine.run_cons, Machine.outputs_cons, message_perceptions_cons]
      refine ⟨hbridge'.trans hbridge, stored ++ stored', ?_, ?_⟩
      · rw [List.map_append, hstored, hstored']
      · rw [hreading', hreading, Option.map_map]
        congr 1
        funext read
        simp

variable {config slotReader}

/-- In every interleaving, take the first read of the slot after another one, with any steps of the
feeder between its load of the number and its copy. After no announcement since the load of the
other read, and in a slot that was written before also after a multiple of all numbers, it misses
what was announced and the loop goes on with what it held. After every other number of announcements
it takes over what the copy returned. If the copy is whole, that is the sample that the slot had at
the load, or one that was stored since. -/
theorem perception_after_read {seen : ρ → UInt32} (hreader : slotReader.Documented seen)
    (h : Reachable config slotReader self) {first second : BridgeInput}
    {window during : List ChannelAction} (hfirst : self.Loads (.beginIteration first))
    (hwindow : ∀ e ∈ (perceptionChannel config slotReader).trace
      (self.beginIteration config slotReader first).2 window, ¬ e.before.Loads e.input)
    {loaded copying : PerceptionChannel ρ}
    (hloaded : loaded =
      (perceptionChannel config slotReader).run self (.beginIteration first :: window))
    (hsecond : loaded.Loads (.beginIteration second))
    (hduring : ∀ action ∈ during, action.OfFeeder)
    (hcopying : copying = (perceptionChannel config slotReader).run
      (loaded.beginIteration config slotReader second).2 during)
    (copied : PerceptionRecord) :
    if announcements ((perceptionChannel config slotReader).outputs self
          (.beginIteration first :: window)) = 0 ∨
        0 < self.feeder.slot ∧
          maxSeq ∣ announcements ((perceptionChannel config slotReader).outputs self
            (.beginIteration first :: window)) then
      (copying.takeSample config copied).2.bridge.perception = loaded.bridge.perception
    else
      (copying.takeSample config copied).2.bridge.perception = copied.perception ∧
        (copying.CopiesWhole (.takeSample copied) →
          copied.perception ∈ loaded.slotPerception ::
            messagePerceptions ((perceptionChannel config slotReader).outputs
              (loaded.beginIteration config slotReader second).2 during)) := by
  have hsame := slot_same_iff config slotReader hreader h.counting hfirst hwindow
  rw [← hloaded] at hsame
  obtain ⟨_, _, hnew, hold⟩ := begin_iteration_of_loads config slotReader hreader hsecond
  obtain ⟨hbridge, stored, hstored, hreading⟩ :=
    feeder_run config slotReader hduring (loaded.beginIteration config slotReader second).2
  rw [← hcopying] at hbridge hreading
  split
  · next hmissed =>
      obtain ⟨hnone, hperception⟩ := hold (hsame.mpr hmissed)
      rw [hnone] at hreading
      unfold takeSample
      rw [hreading]
      show copying.bridge.perception = _
      rw [hbridge, hperception]
  · next hnews =>
      obtain ⟨hsome, hkept⟩ := hnew fun heq => hnews (hsame.mp heq)
      rw [hsome] at hreading
      rw [hkept] at hbridge
      constructor
      · obtain ⟨input, hinput, _, hreads⟩ := hsecond
        obtain rfl := ChannelAction.beginIteration.inj hinput
        have hreads' : copying.bridge.ReadsPerception
            { second with perception := some copied.toPerceptionToDcasSample } := by
          rw [hbridge]
          exact hreads
        unfold takeSample
        rw [hreading]
        exact hreads'.iterate_perception rfl
      · intro hwhole
        have hmem : copied.perception ∈ ([loaded.feeder.buf.perceptionToDcas] ++ stored).map
            (fun sample => sample.perception) := List.mem_map_of_mem (hwhole _ hreading)
        rw [List.map_append, hstored] at hmem
        exact hmem

/-- A message that was announced between two reads is used by the second, also when another one is
stored before the copy. -/
theorem perception_after_read_overlapped :
    ((perceptionChannel {} lastNumber).run (.start {} lastNumber {} 0)
      overlappedRead).bridge.perception = { reason := .drowsy } := by
  have hwindow : ∀ e ∈ (perceptionChannel {} lastNumber).trace
      (PerceptionChannel.beginIteration {} lastNumber (.start {} lastNumber {} 0)
        (readyInput none)).2
      [.startFeeder, .storeSample { msg := some { reason := "drowsy" } }, .storeSeq],
      ¬ e.before.Loads e.input := by
    simp [Loads, startFeeder, storeSample, storeSeq, perceptionChannel]
  have hduring : ∀ action ∈ [ChannelAction.storeSample { msg := some { reason := "phone" } }],
      action.OfFeeder := List.forall_mem_singleton.mpr (.storeSample _)
  have hread := perception_after_read last_number_documented ⟨_, [], ⟨{}, 0, rfl⟩, rfl⟩
    ⟨readyInput none, rfl, rfl, by decide +kernel⟩ hwindow rfl
    ⟨readyInput none, rfl, rfl, by decide +kernel⟩ hduring rfl
    (PerceptionMessage.sample { reason := "drowsy" } 0)
  rw [if_neg (by decide +kernel)] at hread
  exact hread.1

end PerceptionChannel

end DcasPolicyEngine
