import Mathlib.Data.List.Basic
import DcasPolicyEngine.Viewer.WebSocket

/-!
# One frame at a time

`Sound` is what every statement of every thread keeps. The clients of a broadcast stay among those
whose handlers serve them, as the lock keeps them there, and so no handler pops a future that a
broadcast has read or is about to keep.
-/

namespace DcasPolicyEngine

/-- The client that a broadcast is at. -/
def BroadcastPhase.client : BroadcastPhase → Option ℕ
  | .next => none
  | .handing client => some client
  | .keeping client _ => some client

namespace DCASWebSocketServer

/-- The frames for a client that have not been sent. -/
def framesOf (self : DCASWebSocketServer) (client : ℕ) : List ClientSend :=
  self.sends.filter fun send => send.client = client ∧ send.message.IsBinary

/-- The future that a broadcast is about to keep of a client. -/
def newFuture (self : DCASWebSocketServer) (client : ℕ) : Option ℕ :=
  match self.lock with
  | some ⟨_, _, _, .keeping other future⟩ => if other = client then some future else none
  | _ => none

/-- The future of the last frame for a client, which may not have been kept yet. -/
def lastFuture (self : DCASWebSocketServer) (client : ℕ) : Option ℕ :=
  (self.newFuture client).or (self.sendFutures client)

/-! ## The invariant -/

/-- The clients are those of handlers in their receive loops, and futures are kept of no others but
those that are about to be popped. -/
structure Handled (server : DCASWebSocketServer) : Prop where
  serving : ∀ client ∈ server.clients, server.handlers client = .serving
  registered : ∀ client, server.sendFutures client ≠ none →
    server.handlers client = .serving ∨ server.handlers client = .discarded
  entered : ∀ send ∈ server.sends, server.handlers send.client ≠ .entered

/-- A broadcast is at clients of the set only. -/
structure Guarded (server : DCASWebSocketServer) : Prop where
  todo : ∀ broadcast, server.lock = some broadcast → broadcast.todo ⊆ server.clients
  current : ∀ broadcast, server.lock = some broadcast →
    ∀ client, broadcast.phase.client = some client →
      client ∈ server.clients ∧ client ∉ broadcast.todo

/-- A client is sent one frame at a time, whose future is the last one for the client. -/
structure Tracked (server : DCASWebSocketServer) : Prop where
  fresh_send : ∀ send ∈ server.sends, send.future < server.createdFutures
  fresh_future : ∀ client future, server.lastFuture client = some future →
    future < server.createdFutures
  owner : ∀ client future, server.lastFuture client = some future →
    ∀ send ∈ server.sends, send.future = future → send.client = client ∧ send.message.IsBinary
  tracked : ∀ send ∈ server.sends, send.message.IsBinary → send.client ∈ server.clients →
    server.lastFuture send.client = some send.future
  frames : ∀ client, (server.framesOf client).length ≤ 1
  handing : ∀ broadcast client, server.lock = some broadcast →
    broadcast.phase = .handing client → broadcast.message.IsBinary → server.framesOf client = []

/-- What every statement keeps. -/
structure Sound (server : DCASWebSocketServer) : Prop where
  handled : server.Handled
  guarded : server.Guarded
  tracked : server.Tracked

theorem sound_start : ({} : DCASWebSocketServer).Sound := by
  refine ⟨⟨?_, ?_, ?_⟩, ⟨?_, ?_⟩, ⟨?_, ?_, ?_, ?_, ?_, ?_⟩⟩ <;>
    simp [lastFuture, newFuture, framesOf]

variable {server next : DCASWebSocketServer}

/-- Without a broadcast there is nothing to guard. -/
theorem Guarded.of_free (hlock : server.lock = none) : server.Guarded := by
  constructor
  · intro broadcast hsome
    cases hlock.symm.trans hsome
  · intro broadcast hsome
    cases hlock.symm.trans hsome

/-- The handlers and the futures that are kept may change as long as no client with an unsent frame
loses its future. -/
theorem Tracked.of_forgotten (h : server.Tracked) (hsends : next.sends = server.sends)
    (hcreated : next.createdFutures = server.createdFutures)
    (hfutures : ∀ client future, next.lastFuture client = some future →
      server.lastFuture client = some future)
    (hclients : ∀ send ∈ server.sends, send.client ∈ next.clients →
      send.client ∈ server.clients ∧
        next.lastFuture send.client = server.lastFuture send.client)
    (hhanding : ∀ broadcast client, next.lock = some broadcast →
      broadcast.phase = .handing client → server.lock = some broadcast) : next.Tracked := by
  have hframes (client : ℕ) : next.framesOf client = server.framesOf client := by
    unfold framesOf
    rw [hsends]
  refine ⟨?_, ?_, ?_, ?_, ?_, ?_⟩
  · rw [hsends, hcreated]
    exact h.fresh_send
  · intro client future hfuture
    rw [hcreated]
    exact h.fresh_future client future (hfutures client future hfuture)
  · intro client future hfuture send hsend
    rw [hsends] at hsend
    exact h.owner client future (hfutures client future hfuture) send hsend
  · intro send hsend hbinary hmem
    rw [hsends] at hsend
    obtain ⟨hbefore, hsame⟩ := hclients send hsend hmem
    exact hsame.trans (h.tracked send hsend hbinary hbefore)
  · intro client
    rw [hframes]
    exact h.frames client
  · intro broadcast client hlock hphase hbinary
    rw [hframes]
    exact h.handing broadcast client (hhanding broadcast client hlock hphase) hphase hbinary

/-- A client has no frame in flight. -/
theorem frames_of_eq_nil_iff {client : ℕ} : server.framesOf client = [] ↔
    ∀ send ∈ server.sends, send.message.IsBinary → send.client ≠ client := by
  simp only [framesOf, List.filter_eq_nil_iff, decide_eq_true_eq]
  exact forall₂_congr fun send _ => ⟨fun h hbinary hclient => h ⟨hclient, hbinary⟩,
    fun h hboth => h hboth.2 hboth.1⟩

/-- The loop may be handed a frame for a client that has none in flight, and any text. -/
theorem Tracked.of_handed (h : server.Tracked) {client : ℕ} {message : ViewerMessage}
    (hclients : next.clients = server.clients)
    (hsends : next.sends = ⟨server.createdFutures, client, message⟩ :: server.sends)
    (hcreated : next.createdFutures = server.createdFutures + 1)
    (hnone : message.IsBinary → server.framesOf client = [])
    (hlast : ∀ other, next.lastFuture other =
      if message.IsBinary ∧ other = client then some server.createdFutures
      else server.lastFuture other)
    (hhanding : ∀ broadcast other, next.lock = some broadcast →
      broadcast.phase ≠ .handing other) : next.Tracked := by
  refine ⟨?_, ?_, ?_, ?_, ?_, ?_⟩
  · intro send hsend
    rw [hsends] at hsend
    rw [hcreated]
    rcases List.mem_cons.mp hsend with rfl | hsend
    · exact Nat.lt_succ_self _
    · exact (h.fresh_send send hsend).trans (Nat.lt_succ_self _)
  · intro other future hfuture
    rw [hlast] at hfuture
    rw [hcreated]
    split_ifs at hfuture with hnew
    · obtain rfl := Option.some.inj hfuture
      exact Nat.lt_succ_self _
    · exact (h.fresh_future other future hfuture).trans (Nat.lt_succ_self _)
  · intro other future hfuture send hsend hsame
    rw [hsends] at hsend
    rw [hlast] at hfuture
    split_ifs at hfuture with hnew
    · obtain ⟨hbinary, rfl⟩ := hnew
      rcases List.mem_cons.mp hsend with rfl | hsend
      · exact ⟨rfl, hbinary⟩
      · have hfresh := h.fresh_send send hsend
        have hcurrent := Option.some.inj hfuture
        omega
    · rcases List.mem_cons.mp hsend with rfl | hsend
      · have hfresh := h.fresh_future other future hfuture
        have hcurrent : server.createdFutures = future := hsame
        omega
      · exact h.owner other future hfuture send hsend hsame
  · intro send hsend hbinary hmem
    rw [hsends] at hsend
    rw [hclients] at hmem
    rw [hlast]
    rcases List.mem_cons.mp hsend with rfl | hsend
    · exact if_pos ⟨hbinary, rfl⟩
    · rw [if_neg fun hnew => frames_of_eq_nil_iff.mp (hnone hnew.1) send hsend hbinary hnew.2]
      exact h.tracked send hsend hbinary hmem
  · intro other
    unfold framesOf
    rw [hsends, List.filter_cons]
    split_ifs with hnew
    · obtain ⟨rfl, hbinary⟩ := of_decide_eq_true hnew
      show (server.framesOf _).length + 1 ≤ 1
      rw [hnone hbinary]
      exact le_rfl
    · exact h.frames other
  · exact fun broadcast other hlock hphase => absurd hphase (hhanding broadcast other hlock)

/-- A broadcast at the head of its loop has come to no client. -/
theorem Guarded.of_next {message : ViewerMessage} {todo dead : Finset ℕ}
    (hlock : next.lock = some ⟨message, todo, dead, .next⟩) (htodo : todo ⊆ next.clients) :
    next.Guarded := by
  constructor
  · intro broadcast hsome
    obtain rfl := Option.some.inj (hlock.symm.trans hsome)
    exact htodo
  · intro broadcast hsome client hclient
    obtain rfl := Option.some.inj (hlock.symm.trans hsome)
    cases hclient

namespace Sound

/-! ## The handlers -/

theorem accept (h : server.Sound) (client : ℕ) : (server.accept client).Sound := by
  unfold DCASWebSocketServer.accept
  split_ifs with hfree
  · obtain ⟨habsent, hunused⟩ := hfree
    have hother : ∀ other, server.handlers other ≠ .absent →
        Function.update server.handlers client .entered other = server.handlers other := by
      intro other hother
      refine Function.update_of_ne ?_ _ _
      rintro rfl
      exact hother habsent
    refine ⟨⟨?_, ?_, ?_⟩, ⟨h.guarded.todo, h.guarded.current⟩, ?_⟩
    · intro other hmem
      have hserving := h.handled.serving other hmem
      exact (hother other (by rw [hserving]; decide)).trans hserving
    · intro other hfuture
      have hphase := h.handled.registered other hfuture
      have hsame := hother other (by rcases hphase with hphase | hphase <;> rw [hphase] <;> decide)
      rwa [← hsame] at hphase
    · intro send hsend
      have hsame := Function.update_of_ne (hunused send hsend) HandlerPhase.entered server.handlers
      exact fun hentered => h.handled.entered send hsend (hsame.symm.trans hentered)
    · exact h.tracked.of_forgotten rfl rfl (fun _ _ hfuture => hfuture)
        (fun _ _ hmem => ⟨hmem, rfl⟩) (fun _ _ hlock _ => hlock)
  · exact h

theorem add (h : server.Sound) (client : ℕ) : (server.add client).Sound := by
  unfold DCASWebSocketServer.add
  split_ifs with hturn
  · obtain ⟨hfree, hentered⟩ := hturn
    have hlock : server.lock = none := Option.isNone_iff_eq_none.mp hfree
    have hunused : ∀ send ∈ server.sends, send.client ≠ client := by
      rintro send hsend rfl
      exact h.handled.entered send hsend hentered
    have hserving : ∀ other, server.handlers other = .serving ∨ server.handlers other = .discarded →
        Function.update server.handlers client .serving other = server.handlers other := by
      intro other hphase
      refine Function.update_of_ne ?_ _ _
      rintro rfl
      rw [hentered] at hphase
      rcases hphase with hphase | hphase <;> cases hphase
    refine ⟨⟨?_, ?_, ?_⟩, .of_free hlock, ?_⟩
    · intro other hmem
      rcases Finset.mem_insert.mp hmem with rfl | hmem
      · exact Function.update_self _ _ _
      · have hphase := h.handled.serving other hmem
        exact (hserving other (.inl hphase)).trans hphase
    · intro other hfuture
      have hphase := h.handled.registered other hfuture
      rwa [← hserving other hphase] at hphase
    · intro send hsend
      have hsame := Function.update_of_ne (hunused send hsend) HandlerPhase.serving server.handlers
      exact fun hphase => h.handled.entered send hsend (hsame.symm.trans hphase)
    · refine h.tracked.of_forgotten rfl rfl (fun _ _ hfuture => hfuture) ?_
        (fun _ _ hlock _ => hlock)
      intro send hsend hmem
      exact ⟨Finset.mem_of_mem_insert_of_ne hmem (hunused send hsend), rfl⟩
  · exact h

theorem discard (h : server.Sound) (client : ℕ) : (server.discard client).Sound := by
  unfold DCASWebSocketServer.discard
  split_ifs with hturn
  · obtain ⟨hfree, hserving⟩ := hturn
    have hlock : server.lock = none := Option.isNone_iff_eq_none.mp hfree
    refine ⟨⟨?_, ?_, ?_⟩, .of_free hlock, ?_⟩
    · intro other hmem
      obtain ⟨hne, hmem⟩ := Finset.mem_erase.mp hmem
      exact (Function.update_of_ne hne _ _).trans (h.handled.serving other hmem)
    · intro other hfuture
      show Function.update _ _ _ _ = _ ∨ Function.update _ _ _ _ = _
      by_cases hother : other = client
      · rw [hother, Function.update_self]
        exact .inr rfl
      · rw [Function.update_of_ne hother]
        exact h.handled.registered other hfuture
    · intro send hsend
      show Function.update _ _ _ _ ≠ _
      by_cases hother : send.client = client
      · rw [hother, Function.update_self]
        decide
      · rw [Function.update_of_ne hother]
        exact h.handled.entered send hsend
    · exact h.tracked.of_forgotten rfl rfl (fun _ _ hfuture => hfuture)
        (fun _ _ hmem => ⟨Finset.mem_of_mem_erase hmem, rfl⟩) (fun _ _ hlock _ => hlock)
  · exact h

theorem pop (h : server.Sound) (client : ℕ) : (server.pop client).Sound := by
  unfold DCASWebSocketServer.pop
  split_ifs with hdiscarded
  · have hnotmem : client ∉ server.clients := by
      intro hmem
      cases hdiscarded.symm.trans (h.handled.serving client hmem)
    refine ⟨⟨?_, ?_, ?_⟩, ⟨h.guarded.todo, h.guarded.current⟩, ?_⟩
    · intro other hmem
      have hne : other ≠ client := fun heq => hnotmem (heq ▸ hmem)
      exact (Function.update_of_ne hne _ _).trans (h.handled.serving other hmem)
    · intro other hfuture
      have hne : other ≠ client := by
        rintro rfl
        exact hfuture (Function.update_self _ _ _)
      have hphase := h.handled.registered other fun hnone =>
        hfuture ((Function.update_of_ne hne _ _).trans hnone)
      have hsame := Function.update_of_ne hne HandlerPhase.absent server.handlers
      rwa [← hsame] at hphase
    · intro send hsend
      show Function.update _ _ _ _ ≠ _
      by_cases hother : send.client = client
      · rw [hother, Function.update_self]
        decide
      · rw [Function.update_of_ne hother]
        exact h.handled.entered send hsend
    · refine h.tracked.of_forgotten rfl rfl ?_ ?_ (fun _ _ hlock _ => hlock)
      · intro other future hfuture
        rcases Option.or_eq_some_iff.mp hfuture with hnew | ⟨hnone, hkept⟩
        · exact Option.or_eq_some_iff.mpr (.inl hnew)
        · have hne : other ≠ client := by
            rintro rfl
            cases (Function.update_self _ _ _).symm.trans hkept
          exact Option.or_eq_some_iff.mpr
            (.inr ⟨hnone, (Function.update_of_ne hne _ _).symm.trans hkept⟩)
      · intro send _ hmem
        have hne : send.client ≠ client := fun heq => hnotmem (heq ▸ hmem)
        exact ⟨hmem, congrArg (Option.or (server.newFuture send.client))
          (Function.update_of_ne hne _ _)⟩
  · exact h

theorem shutdown (h : server.Sound) : server.shutdown.Sound := by
  unfold DCASWebSocketServer.shutdown
  split_ifs with hfree
  · have hlock : server.lock = none := Option.isNone_iff_eq_none.mp hfree
    refine ⟨⟨?_, h.handled.registered, h.handled.entered⟩, .of_free hlock, ?_⟩
    · exact fun _ hmem => absurd hmem (Finset.notMem_empty _)
    · exact h.tracked.of_forgotten rfl rfl (fun _ _ hfuture => hfuture)
        (fun _ _ hmem => absurd hmem (Finset.notMem_empty _)) (fun _ _ hlock _ => hlock)
  · exact h

/-! ## The broadcasts -/

theorem acquire (h : server.Sound) (message : ViewerMessage) :
    (server.acquire message).2.Sound := by
  unfold DCASWebSocketServer.acquire
  split_ifs with hfree
  · have hlock : server.lock = none := Option.isNone_iff_eq_none.mp hfree
    have hlast : server.lastFuture = server.sendFutures := by
      funext client
      unfold lastFuture newFuture
      rw [hlock]
      rfl
    refine ⟨⟨h.handled.serving, h.handled.registered, h.handled.entered⟩, .of_next rfl subset_rfl,
      h.tracked.of_forgotten rfl rfl ?_ ?_ ?_⟩
    · intro client future hfuture
      rw [hlast]
      exact hfuture
    · intro send hsend hmem
      rw [hlast]
      exact ⟨hmem, rfl⟩
    · rintro broadcast client ⟨⟩ hphase
      cases hphase
  · exact h

theorem visit (h : server.Sound) (client : ℕ) : (server.visit client).Sound := by
  obtain ⟨clients, lock, sendFutures, handlers, sends, createdFutures⟩ := server
  unfold DCASWebSocketServer.visit
  dsimp only
  split
  · rename_i message todo dead
    have hsubset : todo ⊆ clients := h.guarded.todo _ rfl
    have hrest : todo.erase client ⊆ clients := (Finset.erase_subset client todo).trans hsubset
    split_ifs with hmem hskip
    · refine ⟨⟨h.handled.serving, h.handled.registered, h.handled.entered⟩, .of_next rfl hrest,
        h.tracked.of_forgotten rfl rfl (fun _ _ hfuture => hfuture)
          (fun _ _ hmem => ⟨hmem, rfl⟩) ?_⟩
      rintro broadcast other ⟨⟩ hphase
      cases hphase
    · refine ⟨⟨h.handled.serving, h.handled.registered, h.handled.entered⟩, ⟨?_, ?_⟩, ?_⟩
      · rintro broadcast ⟨⟩
        exact hrest
      · rintro broadcast ⟨⟩ other ⟨⟩
        exact ⟨hsubset hmem, Finset.notMem_erase client todo⟩
      · refine ⟨h.tracked.fresh_send, h.tracked.fresh_future, h.tracked.owner, h.tracked.tracked,
          h.tracked.frames, ?_⟩
        rintro broadcast other ⟨⟩ ⟨⟩ hbinary
        -- a frame in flight would have the future that the broadcast has found done
        refine frames_of_eq_nil_iff.mpr ?_
        rintro send hsend hframe rfl
        have hfuture := h.tracked.tracked send hsend hframe (hsubset hmem)
        exact hskip ⟨hbinary, send.future, hfuture, fun hdone => hdone send hsend rfl⟩
    · exact h
  · exact h

theorem hand (h : server.Sound) (raises : Bool) : (server.hand raises).Sound := by
  obtain ⟨clients, lock, sendFutures, handlers, sends, createdFutures⟩ := server
  unfold DCASWebSocketServer.hand
  dsimp only
  split
  · rename_i message todo dead client
    have hsubset : todo ⊆ clients := h.guarded.todo _ rfl
    have hcurrent : client ∈ clients ∧ client ∉ todo := h.guarded.current _ rfl client rfl
    have hserving : handlers client = .serving := h.handled.serving client hcurrent.1
    cases raises with
    | true =>
        rw [if_pos rfl]
        refine ⟨⟨h.handled.serving, h.handled.registered, h.handled.entered⟩,
          .of_next rfl hsubset, h.tracked.of_forgotten rfl rfl (fun _ _ hfuture => hfuture)
            (fun _ _ hmem => ⟨hmem, rfl⟩) ?_⟩
        rintro broadcast other ⟨⟩ hphase
        cases hphase
    | false =>
        rw [if_neg Bool.false_ne_true]
        refine ⟨⟨h.handled.serving, h.handled.registered, ?_⟩, ⟨?_, ?_⟩, ?_⟩
        · intro send hsend
          rcases List.mem_cons.mp hsend with rfl | hsend
          · show handlers client ≠ _
            rw [hserving]
            decide
          · exact h.handled.entered send hsend
        · rintro broadcast ⟨⟩
          exact hsubset
        · intro broadcast hlock other hother
          obtain rfl := Option.some.inj hlock
          have hclient : (if message.IsBinary then BroadcastPhase.keeping client createdFutures
              else .next).client = some other := hother
          split_ifs at hclient
          · cases hclient
            exact hcurrent
          · cases hclient
        · refine h.tracked.of_handed rfl rfl rfl (h.tracked.handing _ client rfl rfl) ?_ ?_
          · intro other
            by_cases hbinary : message.IsBinary
            · rw [if_pos hbinary]
              by_cases hother : client = other
              · rw [if_pos ⟨hbinary, hother.symm⟩]
                show (if client = other then _ else _ : Option ℕ).or _ = _
                rw [if_pos hother]
                rfl
              · rw [if_neg fun hboth => hother hboth.2.symm]
                show (if client = other then _ else _ : Option ℕ).or _ = _
                rw [if_neg hother]
                rfl
            · rw [if_neg hbinary, if_neg fun hboth => hbinary hboth.1]
              rfl
          · intro broadcast other hlock hphase
            obtain rfl := Option.some.inj hlock
            have hhanding : (if message.IsBinary then BroadcastPhase.keeping client createdFutures
                else .next) = .handing other := hphase
            split_ifs at hhanding
  · exact h

theorem keep (h : server.Sound) : server.keep.Sound := by
  obtain ⟨clients, lock, sendFutures, handlers, sends, createdFutures⟩ := server
  unfold DCASWebSocketServer.keep
  dsimp only
  split
  · rename_i message todo dead client future
    have hserving : handlers client = .serving :=
      h.handled.serving client (h.guarded.current _ rfl client rfl).1
    have hsubset : todo ⊆ clients := h.guarded.todo _ rfl
    refine ⟨⟨h.handled.serving, ?_, h.handled.entered⟩, .of_next rfl hsubset, ?_⟩
    · intro other hfuture
      by_cases hother : other = client
      · rw [hother]
        exact .inl hserving
      · exact h.handled.registered other fun hnone =>
          hfuture ((Function.update_of_ne hother _ _).trans hnone)
    · have hlast (other : ℕ) : Function.update sendFutures client (some future) other =
          (if client = other then some future else none).or (sendFutures other) := by
        by_cases hother : client = other
        · rw [if_pos hother, ← hother, Function.update_self]
          rfl
        · rw [if_neg hother, Function.update_of_ne (Ne.symm hother)]
          rfl
      refine h.tracked.of_forgotten rfl rfl ?_ ?_ ?_
      · exact fun other _ hfuture => (hlast other).symm.trans hfuture
      · exact fun send _ hmem => ⟨hmem, hlast send.client⟩
      · rintro broadcast other ⟨⟩ hphase
        cases hphase
  · exact h

theorem release (h : server.Sound) : server.release.Sound := by
  obtain ⟨clients, lock, sendFutures, handlers, sends, createdFutures⟩ := server
  unfold DCASWebSocketServer.release
  dsimp only
  split
  · rename_i message todo dead
    split_ifs with hempty
    · refine ⟨⟨?_, ?_, h.handled.entered⟩, .of_free rfl, ?_⟩
      · intro client hmem
        exact h.handled.serving client (Finset.mem_sdiff.mp hmem).1
      · intro client hfuture
        refine h.handled.registered client fun hnone => hfuture ?_
        show (if _ then none else sendFutures client) = none
        rw [show sendFutures client = none from hnone, ite_self]
      · refine h.tracked.of_forgotten rfl rfl ?_ ?_ ?_
        · intro client future hfuture
          have hkept : (if message.IsBinary ∧ client ∈ dead then none else sendFutures client) =
              some future := hfuture
          split_ifs at hkept with hpopped
          exact hkept
        · intro send _ hmem
          obtain ⟨hbefore, hdead⟩ := Finset.mem_sdiff.mp hmem
          refine ⟨hbefore, ?_⟩
          show (if _ then none else sendFutures send.client) = sendFutures send.client
          exact if_neg fun hpopped => hdead hpopped.2
        · rintro broadcast client ⟨⟩
    · exact h
  · exact h

/-! ## The loop -/

theorem complete (h : server.Sound) (future : ℕ) (succeeds : Bool) :
    (server.complete future succeeds).2.Sound := by
  have hsub : ∀ send ∈ (server.complete future succeeds).2.sends, send ∈ server.sends :=
    fun send hsend => List.mem_of_mem_filter hsend
  have hframes (client : ℕ) : ((server.complete future succeeds).2.framesOf client).Sublist
      (server.framesOf client) :=
    List.filter_sublist.filter _
  refine ⟨⟨h.handled.serving, h.handled.registered, ?_⟩, ⟨h.guarded.todo, h.guarded.current⟩,
    ⟨?_, h.tracked.fresh_future, ?_, ?_, ?_, ?_⟩⟩
  · exact fun send hsend => h.handled.entered send (hsub send hsend)
  · exact fun send hsend => h.tracked.fresh_send send (hsub send hsend)
  · exact fun client future hfuture send hsend =>
      h.tracked.owner client future hfuture send (hsub send hsend)
  · exact fun send hsend => h.tracked.tracked send (hsub send hsend)
  · exact fun client => (hframes client).length_le.trans (h.tracked.frames client)
  · intro broadcast client hlock hphase hbinary
    have hnone := h.tracked.handing broadcast client hlock hphase hbinary
    exact List.sublist_nil.mp (hnone ▸ hframes client)

/-- Every statement of every thread keeps the invariant. -/
theorem step (h : server.Sound) (action : ServerAction) :
    (webSocketServer.step server action).2.Sound :=
  match action with
  | .accept client => h.accept client
  | .add client => h.add client
  | .discard client => h.discard client
  | .pop client => h.pop client
  | .acquire message => h.acquire message
  | .visit client => h.visit client
  | .hand raises => h.hand raises
  | .keep => h.keep
  | .release => h.release
  | .complete future succeeds => h.complete future succeeds
  | .shutdown => h.shutdown

/-- Every interleaving keeps the invariant. -/
theorem run (actions : List ServerAction) : (webSocketServer.run {} actions).Sound :=
  webSocketServer.run_invariant Sound (fun _ action h => h.step action) sound_start actions

/-- A broadcast passes a client over exactly when a frame for it is in flight. -/
theorem visit_frame_iff (h : server.Sound) {message : ViewerMessage} {todo dead : Finset ℕ}
    {client : ℕ} (hlock : server.lock = some ⟨message, todo, dead, .next⟩) (hmem : client ∈ todo)
    (hbinary : message.IsBinary) :
    (server.visit client).lock = some ⟨message, todo.erase client, dead, .next⟩ ↔
      server.framesOf client ≠ [] := by
  have hclient : client ∈ server.clients := h.guarded.todo _ hlock hmem
  have hlast : server.lastFuture client = server.sendFutures client := by
    unfold lastFuture newFuture
    rw [hlock]
    rfl
  have hbusy : (∃ prev, server.sendFutures client = some prev ∧ ¬ server.Done prev) ↔
      server.framesOf client ≠ [] := by
    rw [← hlast, ← not_iff_not, not_not, frames_of_eq_nil_iff]
    constructor
    · rintro hdone send hsend hframe rfl
      exact hdone ⟨send.future, h.tracked.tracked send hsend hframe hclient,
        fun hprev => hprev send hsend rfl⟩
    · rintro hnone ⟨prev, hprev, hdone⟩
      refine hdone fun send hsend hsame => ?_
      obtain ⟨howner, hframe⟩ := h.tracked.owner client prev hprev send hsend hsame
      exact hnone send hsend hframe howner
  rw [← hbusy, DCASWebSocketServer.visit, hlock]
  dsimp only
  rw [if_pos hmem]
  by_cases hskip : ∃ prev, server.sendFutures client = some prev ∧ ¬ server.Done prev
  · rw [if_pos ⟨hbinary, hskip⟩]
    exact iff_of_true rfl hskip
  · rw [if_neg fun hboth => hskip hboth.2]
    refine iff_of_false (fun hsame => ?_) hskip
    cases hsame

end Sound

end DCASWebSocketServer

/-- Whatever the interleaving, no client has two frames in flight, a future is kept only of a
connection whose handler runs, and a broadcast passes a client over exactly when a frame for it is
in flight. -/
theorem one_frame_in_flight (actions : List ServerAction) (client : ℕ) :
    ((webSocketServer.run {} actions).framesOf client).length ≤ 1 ∧
      ((webSocketServer.run {} actions).sendFutures client ≠ none →
        (webSocketServer.run {} actions).handlers client ≠ .absent) ∧
      ∀ message todo dead,
        (webSocketServer.run {} actions).lock = some ⟨message, todo, dead, .next⟩ →
        client ∈ todo → message.IsBinary →
          (((webSocketServer.run {} actions).visit client).lock =
              some ⟨message, todo.erase client, dead, .next⟩ ↔
            (webSocketServer.run {} actions).framesOf client ≠ []) := by
  have hsound := DCASWebSocketServer.Sound.run actions
  refine ⟨hsound.tracked.frames client, fun hkept => ?_, ?_⟩
  · rcases hsound.handled.registered client hkept with hphase | hphase <;> rw [hphase] <;> decide
  · exact fun message todo dead hlock hmem hbinary => hsound.visit_frame_iff hlock hmem hbinary

end DcasPolicyEngine
