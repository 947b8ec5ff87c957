import DcasPolicyEngine.Bridge.HeldPerception
import DcasPolicyEngine.Feeder.SequenceNumbers

/-!
# The perception slot between the feeder and the bridge

The feeder and the bridge are two processes that share one slot. `_write` stores the sample and then
the number, and the bridge loads the number and then copies the sample, so a write can fall between
the two steps of a read and a read between the two steps of a write. `perceptionChannel` is the
machine of these steps, and a list of actions is one interleaving. The feeder may be stopped
anywhere and started again. `store_eq_iterate` says that the two writes are one iteration of the
feeder.

The copy is not one access of the memory, and nothing keeps the feeder from storing a sample while
it goes on. What it returns is therefore part of the action, and may be a mixture of two samples or
anything else. `CopiesWhole` is the assumption that it is one of the samples that the slot has had
since the number was loaded.
-/

namespace DcasPolicyEngine

/-! ## The two writes of `_write` -/

/-- The sample that `_write` packs for a message. -/
def PerceptionMessage.sample (msg : PerceptionMessage) (timestampUs : UInt64) : PerceptionRecord :=
  { timestampUs := timestampUs
    isAttentive := if msg.isAttentive then 1 else 0
    cameraBlocked := if msg.cameraBlocked then 1 else 0
    reason := (reasonMap msg.reason).getD 5
    reserved := 0 }

/-- The second write of `_write`. -/
def writeSeq (buf : PerceptionShm) (seq : ℤ) : Except StructError Unit × PerceptionShm :=
  match packUInt32 seq with
  | .ok packed => (.ok (), { buf with perceptionSeq := packed })
  | .error error => (.error error, buf)

/-! ## Messages -/

/-- What a message says. An unrecognised reason is `UNKNOWN`. -/
def PerceptionMessage.perception (msg : PerceptionMessage) : HeldPerception :=
  { isAttentive := msg.isAttentive
    reason := .ofCode ((reasonMap msg.reason).getD 5)
    cameraBlocked := msg.cameraBlocked }

/-- The sample of a message says what the message says. -/
theorem PerceptionMessage.sample_perception (msg : PerceptionMessage) (timestampUs : UInt64) :
    (msg.sample timestampUs).perception = msg.perception := by
  unfold PerceptionToDcasSample.perception PerceptionMessage.sample PerceptionMessage.perception
  cases msg.isAttentive <;> cases msg.cameraBlocked <;> rfl

/-! ## The channel -/

/-- The reader of the slot, whose code is in a submodule that is not here. `load` is what it makes
of the number in the slot: whether it goes on to read the sample, and what it remembers. -/
structure SlotReader (ρ : Type*) where
  initial : ρ
  load : ρ → UInt32 → Bool × ρ

/-- What the comments of the feeder say about the reader: it takes a number for news that is not the
last number it has seen. -/
structure SlotReader.Documented {ρ : Type*} (slotReader : SlotReader ρ) (seen : ρ → UInt32) :
    Prop where
  news_iff : ∀ memory number, (slotReader.load memory number).1 = true ↔ number ≠ seen memory
  seen_load : ∀ memory number, seen (slotReader.load memory number).2 = number

/-- A reader that remembers the last number. -/
def lastNumber : SlotReader UInt32 :=
  { initial := 0
    load := fun seen number => (number != seen, number) }

theorem last_number_documented : lastNumber.Documented id :=
  ⟨fun _ _ => bne_iff_ne, fun _ _ => rfl⟩

/-- An iteration of the bridge on `input` that has loaded the number and not yet copied the sample.
No step depends on `samples`, the samples that the slot has had since the load. -/
structure SlotRead where
  input : BridgeInput
  samples : List PerceptionRecord

/-- The two processes around the slot. `stored` says that the feeder is between its two writes, and
`reading` that the bridge is between its two reads. -/
structure PerceptionChannel (ρ : Type*) where
  feeder : PerceptionFeeder
  stored : Bool := false
  reader : ρ
  bridge : BridgeState
  reading : Option SlotRead := none

/-- A step of one of the two processes. The sample is stored from the moment on at which a copy can
return it, and `copied` is what the copy of an iteration has returned. -/
inductive ChannelAction where
  | startFeeder
  | storeSample (poll : Poll)
  | storeSeq
  | beginIteration (input : BridgeInput)
  | takeSample (copied : PerceptionRecord)

/-- The steps of the feeder. -/
inductive ChannelAction.OfFeeder : ChannelAction → Prop
  | startFeeder : OfFeeder .startFeeder
  | storeSample (poll : Poll) : OfFeeder (.storeSample poll)
  | storeSeq : OfFeeder .storeSeq

/-- What a step does. -/
inductive ChannelOutput where
  | silent
  | stored (msg : PerceptionMessage)
  | announced (result : Except StructError Unit)
  | iterated (output : Option BridgeOutput)

namespace PerceptionChannel

variable {ρ : Type*}

/-- The perception in the slot. -/
def slotPerception (self : PerceptionChannel ρ) : HeldPerception :=
  self.feeder.buf.perceptionToDcas.perception

/-- The feeder is not running yet, and the bridge is before its loop. -/
def start (config : BridgeConfig) (slotReader : SlotReader ρ) (buf : PerceptionShm)
    (startupUs : UInt64) : PerceptionChannel ρ :=
  { feeder := { buf := buf }
    reader := slotReader.initial
    bridge := .start config startupUs }

/-- The feeder starts, perhaps after it was stopped between its two writes. -/
def startFeeder (self : PerceptionChannel ρ) : PerceptionChannel ρ :=
  { self with feeder := PerceptionFeeder.start self.feeder.buf, stored := false }

/-- The feeder polls and stores the sample of the message, if there is one. -/
def storeSample (self : PerceptionChannel ρ) (poll : Poll) :
    ChannelOutput × PerceptionChannel ρ :=
  match self.stored, self.feeder.seq, poll.msg with
  | false, some seq, some msg =>
      (.stored msg,
        { self with
          feeder :=
            { buf := { self.feeder.buf with perceptionToDcas := msg.sample poll.nowUs }
              seq := some seq }
          stored := true
          reading := self.reading.map fun read =>
            { read with samples := read.samples ++ [msg.sample poll.nowUs] } })
  | _, _, _ => (.silent, self)

/-- The feeder stores the number of the message. An error ends the process. -/
def storeSeq (self : PerceptionChannel ρ) : ChannelOutput × PerceptionChannel ρ :=
  match self.stored, self.feeder.seq with
  | true, some seq =>
      match writeSeq self.feeder.buf seq with
      | (.ok (), buf) =>
          (.announced (.ok ()),
            { self with
              feeder := { buf := buf, seq := some (PerceptionFeeder.advanceSeq seq) }
              stored := false })
      | (.error error, buf) =>
          (.announced (.error error),
            { self with feeder := { buf := buf, seq := none }, stored := false })
  | _, _ => (.silent, self)

/-- The bridge ends an iteration with what the read of the slot returned. -/
def iterate (config : BridgeConfig) (self : PerceptionChannel ρ) (input : BridgeInput)
    (sample : Option PerceptionToDcasSample) : ChannelOutput × PerceptionChannel ρ :=
  let (output, bridge) := BridgeState.iterate config self.bridge { input with perception := sample }
  (.iterated output, { self with bridge := bridge, reading := none })

/-- The bridge begins an iteration and loads the number if it gets that far. Without news it goes
on to the end. -/
def beginIteration (config : BridgeConfig) (slotReader : SlotReader ρ)
    (self : PerceptionChannel ρ) (input : BridgeInput) : ChannelOutput × PerceptionChannel ρ :=
  if self.reading.isSome then (.silent, self)
  else if self.bridge.ReadsPerception input then
    let (news, reader) := slotReader.load self.reader self.feeder.buf.perceptionSeq
    if news then
      (.silent,
        { self with
          reader := reader
          reading := some { input := input, samples := [self.feeder.buf.perceptionToDcas] } })
    else iterate config { self with reader := reader } input none
  else iterate config self input none

/-- The bridge has copied the sample and goes on to the end of the iteration. -/
def takeSample (config : BridgeConfig) (self : PerceptionChannel ρ) (copied : PerceptionRecord) :
    ChannelOutput × PerceptionChannel ρ :=
  match self.reading with
  | some read => iterate config self read.input (some copied.toPerceptionToDcasSample)
  | none => (.silent, self)

/-- The copy returns one of the samples that the slot has had since the load of the number. -/
def CopiesWhole (self : PerceptionChannel ρ) : ChannelAction → Prop
  | .takeSample copied => ∀ read ∈ self.reading, copied ∈ read.samples
  | _ => True

instance (self : PerceptionChannel ρ) (action : ChannelAction) :
    Decidable (self.CopiesWhole action) :=
  match action with
  | .takeSample copied =>
      inferInstanceAs (Decidable (∀ read ∈ self.reading, copied ∈ read.samples))
  | .startFeeder | .storeSample _ | .storeSeq | .beginIteration _ => .isTrue trivial

end PerceptionChannel

/-- The two processes as one machine. -/
def perceptionChannel {ρ : Type*} (config : BridgeConfig) (slotReader : SlotReader ρ) :
    Machine (PerceptionChannel ρ) ChannelAction ChannelOutput where
  step
    | self, .startFeeder => (.silent, self.startFeeder)
    | self, .storeSample poll => self.storeSample poll
    | self, .storeSeq => self.storeSeq
    | self, .beginIteration input => self.beginIteration config slotReader input
    | self, .takeSample copied => self.takeSample config copied

/-- The two writes of a message are one iteration of the feeder. -/
theorem PerceptionChannel.store_eq_iterate {ρ : Type*} (config : BridgeConfig)
    (slotReader : SlotReader ρ) {self : PerceptionChannel ρ} (hstored : self.stored = false)
    (poll : Poll) :
    (perceptionChannel config slotReader).run self [.storeSample poll, .storeSeq] =
      { self with
        feeder := (self.feeder.iterate poll).2
        reading := (self.storeSample poll).2.reading } := by
  show (self.storeSample poll).2.storeSeq.2 = _
  obtain ⟨⟨buf, seq⟩, stored, reader, bridge, reading⟩ := self
  obtain rfl : stored = false := hstored
  cases hmsg : poll.msg with
  | none => cases seq <;> simp [storeSample, storeSeq, PerceptionFeeder.iterate, hmsg]
  | some msg =>
      cases seq with
      | none => simp [storeSample, storeSeq, PerceptionFeeder.iterate]
      | some seq =>
          -- `_write` is the write of the sample and then that of the number
          have hsplit : write buf msg.isAttentive msg.cameraBlocked msg.reason poll.nowUs seq =
              writeSeq { buf with perceptionToDcas := msg.sample poll.nowUs } seq := rfl
          simp only [storeSample, storeSeq, PerceptionFeeder.iterate, hmsg, hsplit]
          cases hwrite : writeSeq { buf with perceptionToDcas := msg.sample poll.nowUs } seq with
          | mk result buf' => cases result <;> rfl

/-- The bridge reads an empty slot and then the message of a drowsy driver, and the feeder
stores another message before the copy. The copy still returns the first one. -/
def overlappedRead : List ChannelAction :=
  [.beginIteration (readyInput none), .startFeeder,
    .storeSample { msg := some { reason := "drowsy" } }, .storeSeq,
    .beginIteration (readyInput none), .storeSample { msg := some { reason := "phone" } },
    .takeSample (PerceptionMessage.sample { reason := "drowsy" } 0)]

end DcasPolicyEngine
