import DcasPolicyEngine.Feeder.PerceptionFeeder
import DcasPolicyEngine.Numeric.WrapCounter

/-!
# The sequence numbers of the perception feeder

The bridge sees a new sample when the sequence number changes, and zero stands for a slot that was
never written. The loop counts from 1 to `0xFFFFFFFF` and around, but `main` resumes from the slot
without the wrap: a process that starts at `0xFFFFFFFF` holds a number that does not fit, and its
first message raises after the sample is stored. `sequence_numbers_iff` says that this is the only
way for a message to go unannounced, in terms of the first slot and the numbers of messages.
-/

namespace DcasPolicyEngine

open WrapCounter

/-- The largest number that fits the slot. -/
def maxSeq : ℕ := 0xFFFFFFFF

/-- A handled message stores its number, which is not zero and not the number that was in the
slot. -/
def Announces (e : FeederEvent) : Prop :=
  ∀ result, e.output = some result →
    result = .ok () ∧ e.before.seq = some (e.after.buf.perceptionSeq.toNat : ℤ) ∧
      e.after.buf.perceptionSeq ≠ 0 ∧ e.after.buf.perceptionSeq ≠ e.before.buf.perceptionSeq

/-- A call that handles no message has nothing to announce. -/
theorem announces_of_no_output {e : FeederEvent} (h : e.output = none) : Announces e := by
  intro result hresult
  rw [h] at hresult
  cases hresult

namespace PerceptionFeeder

/-- The number in the slot. -/
def slot (self : PerceptionFeeder) : ℕ := self.buf.perceptionSeq.toNat

/-- The loop invariant: the process holds the number after the one in the slot. -/
def Numbered (self : PerceptionFeeder) : Prop := self.seq = some (next maxSeq self.slot : ℤ)

/-- The process holds the number that does not fit. -/
def Overrun (self : PerceptionFeeder) : Prop := self.seq = some (maxSeq + 1 : ℤ)

variable {self : PerceptionFeeder} {poll : Poll}

theorem slot_le (self : PerceptionFeeder) : self.slot ≤ maxSeq :=
  Nat.le_of_lt_succ self.buf.perceptionSeq.toNat_lt

theorem max_seq_pos : 0 < maxSeq := by decide

/-! ## One call -/

/-- The loop counts like the counter. -/
theorem advance_seq_eq {value : ℕ} (h : value ≤ maxSeq) :
    advanceSeq value = (next maxSeq value : ℤ) := by
  unfold advanceSeq next maxSeq
  unfold maxSeq at h
  dsimp only
  split <;> split <;> omega

/-- A start below the largest number establishes the loop invariant. -/
theorem numbered_start {buf : PerceptionShm} (h : buf.perceptionSeq.toNat < maxSeq) :
    (start buf).Numbered := by
  have hnext : next maxSeq (start buf).slot = buf.perceptionSeq.toNat + 1 := next_of_lt h
  unfold Numbered
  rw [hnext]
  show some (max ((buf.perceptionSeq.toNat : ℤ) + 1) 1) = _
  rw [max_eq_left (by omega)]
  rfl

/-- A start at the largest number overruns. -/
theorem overrun_start {buf : PerceptionShm} (h : buf.perceptionSeq.toNat = maxSeq) :
    (start buf).Overrun := by
  show some (max ((buf.perceptionSeq.toNat : ℤ) + 1) 1) = _
  rw [h]
  rfl

/-- Without a message an iteration does nothing. -/
theorem iterate_idle (self : PerceptionFeeder) (hidle : poll.msg = none) :
    self.iterate poll = (none, self) := by
  unfold iterate
  rw [hidle]
  cases self.seq <;> rfl

/-- A number that fits is stored, and the process goes on with the one after it. -/
theorem iterate_fits {value : ℕ} (hseq : self.seq = some (value : ℤ)) (hfits : value ≤ maxSeq)
    {msg : PerceptionMessage} (hmsg : poll.msg = some msg) :
    (self.iterate poll).1 = some (.ok ()) ∧ (self.iterate poll).2.slot = value ∧
      (self.iterate poll).2.seq = some (next maxSeq value : ℤ) := by
  have hpack : packUInt32 value = .ok (UInt32.ofNat value) :=
    if_pos ⟨Int.natCast_nonneg value, by exact_mod_cast hfits⟩
  have hslot : (UInt32.ofNat value).toNat = value :=
    UInt32.toNat_ofNat_of_lt' (Nat.lt_succ_of_le hfits)
  unfold iterate write
  simp [hseq, hmsg, hpack, advance_seq_eq hfits, slot, hslot]

/-- A number that does not fit raises after the sample is stored. -/
theorem iterate_overrun (h : self.Overrun) {msg : PerceptionMessage} (hmsg : poll.msg = some msg) :
    (self.iterate poll).1 = some (.error ⟨maxSeq + 1⟩) := by
  have hpack : packUInt32 (maxSeq + 1) = .error ⟨maxSeq + 1⟩ := if_neg (by decide)
  have hseq : self.seq = some (maxSeq + 1 : ℤ) := h
  unfold iterate write
  simp [hseq, hmsg, hpack]

/-- In the loop invariant a message is announced. -/
theorem Numbered.announces (h : self.Numbered) {msg : PerceptionMessage}
    (hmsg : poll.msg = some msg) :
    Announces (perceptionFeeder.event self (.iterate poll)) := by
  obtain ⟨houtput, hslot, _⟩ := iterate_fits h (next_le max_seq_pos self.slot) hmsg
  have hnumber : (self.iterate poll).2.buf.perceptionSeq.toNat = next maxSeq self.slot := hslot
  intro result hresult
  have hresult : (self.iterate poll).1 = some result := hresult
  rw [houtput] at hresult
  refine ⟨(Option.some.inj hresult).symm, ?_, ?_, ?_⟩
  · show self.seq = some ((self.iterate poll).2.buf.perceptionSeq.toNat : ℤ)
    rw [hnumber]
    exact h
  · intro hzero
    have hpos := next_pos maxSeq self.slot
    rw [← hnumber, show (self.iterate poll).2.buf.perceptionSeq = 0 from hzero] at hpos
    exact absurd hpos (by decide)
  · intro hsame
    refine next_ne (by decide : 1 < maxSeq) self.slot ?_
    rw [← hnumber]
    exact congrArg UInt32.toNat hsame

/-- An iteration announces its message, keeps the loop invariant and moves the slot on. -/
theorem Numbered.step (h : self.Numbered) (poll : Poll) :
    Announces (perceptionFeeder.event self (.iterate poll)) ∧ (self.iterate poll).2.Numbered ∧
      (self.iterate poll).2.slot = (next maxSeq)^[messageCount [poll]] self.slot := by
  cases hmsg : poll.msg with
  | none =>
      have hcount : messageCount [poll] = 0 := by simp [messageCount, hmsg]
      have hidle := iterate_idle self hmsg
      have hannounces : Announces (perceptionFeeder.event self (.iterate poll)) :=
        announces_of_no_output (congrArg Prod.fst hidle)
      rw [hidle, hcount]
      exact ⟨hannounces, h, rfl⟩
  | some msg =>
      have hcount : messageCount [poll] = 1 := by simp [messageCount, hmsg]
      obtain ⟨_, hslot, hseq⟩ := iterate_fits h (next_le max_seq_pos self.slot) hmsg
      rw [hcount]
      refine ⟨h.announces hmsg, ?_, hslot⟩
      unfold Numbered
      rw [hseq, hslot]

/-! ## One process -/

theorem message_count_cons (poll : Poll) (polls : List Poll) :
    messageCount (poll :: polls) = messageCount polls + messageCount [poll] := by
  rw [← List.singleton_append, messageCount, List.countP_append]
  exact add_comm _ _

/-- In the loop invariant all messages are announced, and the slot counts them. -/
theorem Numbered.run (h : self.Numbered) (polls : List Poll) :
    (∀ e ∈ perceptionFeeder.trace self (polls.map .iterate), Announces e) ∧
      (perceptionFeeder.run self (polls.map .iterate)).slot =
        (next maxSeq)^[messageCount polls] self.slot := by
  induction polls generalizing self with
  | nil => exact ⟨by simp, rfl⟩
  | cons poll polls ih =>
      obtain ⟨hannounces, hnumbered, hslot⟩ := h.step poll
      obtain ⟨hrest, hrun⟩ := ih hnumbered
      rw [List.map_cons, Machine.trace_cons, List.forall_mem_cons, Machine.run_cons,
        message_count_cons, Function.iterate_add_apply, ← hslot]
      exact ⟨⟨hannounces, hrest⟩, hrun⟩

/-- A process that overruns announces no message, and without one it leaves the memory alone. -/
theorem Overrun.run (h : self.Overrun) (polls : List Poll) :
    ((∀ e ∈ perceptionFeeder.trace self (polls.map .iterate), Announces e) ↔
        messageCount polls = 0) ∧
      (messageCount polls = 0 →
        (perceptionFeeder.run self (polls.map .iterate)).slot = self.slot) := by
  induction polls with
  | nil => simp [messageCount]
  | cons poll polls ih =>
      rw [List.map_cons, Machine.trace_cons, List.forall_mem_cons, Machine.run_cons,
        message_count_cons]
      cases hmsg : poll.msg with
      | none =>
          have hcount : messageCount [poll] = 0 := by simp [messageCount, hmsg]
          have hidle : perceptionFeeder.step self (.iterate poll) = (none, self) :=
            iterate_idle self hmsg
          have hannounces : Announces (perceptionFeeder.event self (.iterate poll)) :=
            announces_of_no_output (congrArg Prod.fst hidle)
          rw [hidle, hcount, and_iff_right hannounces]
          exact ih
      | some msg =>
          have hcount : messageCount [poll] = 1 := by simp [messageCount, hmsg]
          rw [hcount]
          refine ⟨iff_of_false ?_ (by omega), fun hnone => absurd hnone (by omega)⟩
          intro hall
          cases (hall.1 _ (iterate_overrun h hmsg)).1

/-- A process announces all its messages exactly when it handles none or does not start at the
largest number, and then the slot counts them. -/
theorem session_announces_iff (self : PerceptionFeeder) (polls : List Poll) :
    ((∀ e ∈ perceptionFeeder.trace self (sessionCalls polls), Announces e) ↔
        (0 < messageCount polls → self.slot ≠ maxSeq)) ∧
      ((0 < messageCount polls → self.slot ≠ maxSeq) →
        (perceptionFeeder.run self (sessionCalls polls)).slot =
          (next maxSeq)^[messageCount polls] self.slot) := by
  have hstart : Announces (perceptionFeeder.event self .start) := announces_of_no_output rfl
  rw [sessionCalls, Machine.trace_cons, List.forall_mem_cons, Machine.run_cons,
    and_iff_right hstart]
  show ((∀ e ∈ perceptionFeeder.trace (start self.buf) _, Announces e) ↔ _) ∧
    (_ → (perceptionFeeder.run (start self.buf) _).slot = _)
  rcases self.slot_le.lt_or_eq with hlt | htop
  · obtain ⟨hall, hslot⟩ := (numbered_start hlt).run polls
    exact ⟨iff_of_true hall fun _ => hlt.ne, fun _ => hslot⟩
  · obtain ⟨hall, hslot⟩ := (overrun_start htop).run polls
    have hidle : (0 < messageCount polls → self.slot ≠ maxSeq) ↔ messageCount polls = 0 := by
      simp [htop]
    rw [hidle]
    refine ⟨hall, ?_⟩
    intro hnone
    rw [hslot hnone, hnone]
    rfl

/-! ## Restarts -/

/-- What holds at every element of a list, given the elements before it. -/
theorem forall_split_cons {α : Type*} {p : List α → α → Prop} {a : α} {as : List α} :
    (∀ earlier b later, a :: as = earlier ++ b :: later → p earlier b) ↔
      p [] a ∧ ∀ earlier b later, as = earlier ++ b :: later → p (a :: earlier) b := by
  constructor
  · intro h
    refine ⟨h [] a as rfl, ?_⟩
    intro earlier b later hsplit
    exact h (a :: earlier) b later (congrArg (a :: ·) hsplit)
  · intro h earlier b later hsplit
    obtain ⟨hhead, htail⟩ := h
    cases earlier with
    | nil =>
        obtain ⟨rfl, _⟩ := List.cons.inj hsplit
        exact hhead
    | cons first earlier =>
        obtain ⟨rfl, hrest⟩ := List.cons.inj hsplit
        exact htail earlier b later hrest

/-- The messages that some processes handle. -/
def messageTotal (sessions : List (List Poll)) : ℕ := (sessions.map messageCount).sum

/-- Processes that follow each other announce all messages exactly when none of those that handle
a message starts at the largest number. -/
theorem sessions_announce_iff (self : PerceptionFeeder) (sessions : List (List Poll)) :
    (∀ e ∈ perceptionFeeder.trace self (sessions.flatMap sessionCalls), Announces e) ↔
      ∀ earlier session later, sessions = earlier ++ session :: later →
        0 < messageCount session →
          (next maxSeq)^[messageTotal earlier] self.slot ≠ maxSeq := by
  induction sessions generalizing self with
  | nil => simp
  | cons session sessions ih =>
      obtain ⟨hsession, hslot⟩ := session_announces_iff self session
      rw [List.flatMap_cons, Machine.trace_append, List.forall_mem_append, hsession,
        forall_split_cons]
      refine and_congr_right fun hstart => ?_
      rw [ih, hslot hstart]
      have hcount (earlier : List (List Poll)) :
          (next maxSeq)^[messageTotal earlier] ((next maxSeq)^[messageCount session] self.slot) =
            (next maxSeq)^[messageTotal (session :: earlier)] self.slot := by
        rw [← Function.iterate_add_apply, messageTotal, messageTotal, List.map_cons,
          List.sum_cons, add_comm]
      simp only [hcount]

end PerceptionFeeder

/-- For every memory in which the feeder starts, and for every sequence of processes, each handled
message stores a sequence number that fits, is not zero and is not the one before it, exactly when
no process that handles a message starts at the largest number. That is where the number in the
first slot and the messages handled before the process add up to a positive multiple of it. -/
theorem sequence_numbers_iff (self : PerceptionFeeder) (sessions : List (List Poll)) :
    (∀ e ∈ perceptionFeeder.trace self (sessions.flatMap sessionCalls), Announces e) ↔
      ∀ earlier session later, sessions = earlier ++ session :: later →
        0 < messageCount session →
          ¬ (0 < self.slot + PerceptionFeeder.messageTotal earlier ∧
            maxSeq ∣ self.slot + PerceptionFeeder.messageTotal earlier) := by
  rw [PerceptionFeeder.sessions_announce_iff]
  simp only [ne_eq, next_iterate_eq_max_iff PerceptionFeeder.max_seq_pos self.slot_le]

/-- A memory whose slot holds the largest number. -/
def fullSlot : PerceptionFeeder := { buf := { perceptionSeq := 0xFFFFFFFF } }

/-- A message that reports a covered camera. -/
def coveredPoll : Poll := { msg := some { cameraBlocked := true } }

/-- A feeder that starts at the largest number stores the sample of its first message, raises and
leaves the number as it was. -/
theorem sequence_number_overrun :
    perceptionFeeder.outputs fullSlot (sessionCalls [coveredPoll]) =
        [none, some (.error ⟨4294967296⟩)] ∧
      fullSlot.buf.perceptionToDcas.cameraBlocked = 0 ∧
      (perceptionFeeder.run fullSlot
        (sessionCalls [coveredPoll])).buf.perceptionToDcas.cameraBlocked = 1 ∧
      (perceptionFeeder.run fullSlot (sessionCalls [coveredPoll])).buf.perceptionSeq =
        fullSlot.buf.perceptionSeq ∧
      ¬ ∀ e ∈ perceptionFeeder.trace fullSlot (sessionCalls [coveredPoll]), Announces e := by
  refine ⟨rfl, rfl, rfl, rfl, ?_⟩
  intro hall
  have hstart := (PerceptionFeeder.session_announces_iff fullSlot [coveredPoll]).1.mp hall
  exact hstart (by decide) rfl

end DcasPolicyEngine
