/-
  EventCart.Saga.Requests
  ───────────────────────
  **THE SYSTEM AS IT IS OPERATED.**

  What really runs is `dispatch_pending_batch` and `dispatch_until_idle`:
  they fetch the due events and deliver one after another in one session.
  `serve_matched` says that a request is a run of calls, so every theorem
  about calls is one about requests.  A batch works on rows it fetched at its
  start; they are still what the table holds when their turn comes, because a
  round touches no row but its own (`step_keeps`).
-/
import EventCart.Saga.Stock

namespace EventCart

open EventCart.Lib
open EventCart.Lib.Tx

/-! ## §1. Requests. -/

/-- What the outside asks for. -/
inductive Request where
  | createInventoryItem (payload : InventoryItemCreate)
  | createOrder (payload : OrderCreate)
  | dispatchPendingBatch (limit : Nat) (policy : RetryPolicy) (paymentFails : String → Bool)
  | dispatchUntilIdle (limit maxBatches : Nat) (policy : RetryPolicy)
      (paymentFails : String → Bool)
  | replayDeadLetterEvent (deadLetterId : String)

/-- The program a request runs. -/
def Request.program : Request → App Unit
  | .createInventoryItem payload => (Call.createInventoryItem payload).program
  | .createOrder payload => (Call.createOrder payload).program
  | .dispatchPendingBatch limit policy paymentFails => do
      let _ ← EventCart.dispatchPendingBatch (sagaHandlers paymentFails) limit policy
      return ()
  | .dispatchUntilIdle limit maxBatches policy paymentFails => do
      let _ ← EventCart.dispatchUntilIdle (sagaHandlers paymentFails) limit maxBatches policy
      return ()
  | .replayDeadLetterEvent deadLetterId => (Call.replayDeadLetterEvent deadLetterId).program

/-- The item a request wants to put on sale. -/
def Request.creation : Request → Option InventoryItemCreate
  | .createInventoryItem payload => some payload
  | _ => none

/-- A request and everything outside it. -/
structure Input where
  world : World Database
  tick : Nat
  request : Request

/-- The committed database after a request. -/
def serve (input : Input) (db : Database) : Database :=
  transact input.request.program input.world input.tick db

/-- The committed database after a list of requests. -/
abbrev serveAll (inputs : List Input) (db : Database) : Database := run serve inputs db

/-- A request on database and ledger. -/
def ledgerServe (input : Input) (l : Ledger) : Ledger :=
  l.enter input.request.creation (serve input l.db)

/-! ## §2. A round leaves the other events alone. -/

theorem Publish.keeps {call : Call} {db db' : Database} (h : Publish call db db')
    {other : OutboxEvent} (mem : other ∈ db.outboxEvents)
    (hne : ∀ policy paymentFails, call ≠ .deliver other.eventId policy paymentFails) :
    other ∈ db'.outboxEvents := by
  cases h with
  | @published event consumer policy paymentFails publishedAt called =>
      have hid : other.eventId ≠ event.eventId := fun heq =>
        hne policy paymentFails (heq ▸ called)
      exact mem_update.mpr (.inr ⟨mem, hid⟩)

theorem Commit.keeps {call : Call} {db db' : Database} (h : Commit call db db')
    {other : OutboxEvent} (mem : other ∈ db.outboxEvents)
    (hne : ∀ policy paymentFails, call ≠ .deliver other.eventId policy paymentFails) :
    other ∈ db'.outboxEvents := by
  cases h with
  | stocked => exact mem
  | ordered => exact List.mem_append_left _ mem
  | @handled event envelope consumer policy paymentFails db₁ processedAt _ _ _ _ _ _ handled =>
      obtain ⟨⟨new, houtbox, -⟩, -⟩ := handled.outbox
      show other ∈ db₁.outboxEvents
      rw [houtbox]
      exact List.mem_append_left _ mem
  | published h => exact h.keeps mem hne
  | @attempted event policy paymentFails error stamp called =>
      exact mem_attemptFailed mem fun heq => hne policy paymentFails (heq ▸ called)
  | replayed => exact List.mem_append_left _ mem

/-- **The frame of a call**: only the delivery of an event changes its row. -/
theorem step_keeps {db : Database} (inv : SagaInv db) (label : Label) {other : OutboxEvent}
    (mem : other ∈ db.outboxEvents)
    (hne : ∀ policy paymentFails, label.call ≠ .deliver other.eventId policy paymentFails) :
    other ∈ (step label db).outboxEvents := by
  have heffect := step_effect inv.ready label
  generalize step label db = db' at heffect
  cases heffect with
  | idle => exact mem
  | commit h => exact h.keeps mem hne
  | publish h₁ h₂ => exact h₂.keeps (h₁.keeps mem hne) hne

/-! ## §3. Batches are deliveries. -/

/-- The delivery a round makes. -/
def delivery (policy : RetryPolicy) (paymentFails : String → Bool) (world : World Database)
    (round : OutboxEvent × Nat) : Label :=
  ⟨world, round.2, .deliver round.1.eventId policy paymentFails⟩

/-- A round on a row of the table is the delivery of its event. -/
theorem dispatchRound_eq_step {db : Database} (inv : SagaInv db) {event : OutboxEvent}
    (mem : event ∈ db.outboxEvents) (pending : event.status = .PENDING) (policy : RetryPolicy)
    (paymentFails : String → Bool) (world : World Database) (tick : Nat) :
    dispatchRound (sagaHandlers paymentFails) policy event world tick db
      = step (delivery policy paymentFails world (event, tick)) db := by
  have hfind : (Session.begin world tick db).working.findOutboxEvent event.eventId
      = some event := find_row inv.keyed.outboxEvents mem
  have hdeliver : deliver event.eventId policy paymentFails (Session.begin world tick db)
      = dispatchEvent (sagaHandlers paymentFails) policy event
          (Session.begin world tick db) := by
    rw [deliver_of_find hfind, if_pos pending]
  exact congrArg (fun result => (after result).committed) hdeliver.symm

/-- Rounds on different pending rows are the deliveries of their events. -/
theorem rounds_eq_deliveries (policy : RetryPolicy) (paymentFails : String → Bool)
    (world : World Database) :
    ∀ (rounds : List (OutboxEvent × Nat)) (db : Database), SagaInv db →
      (rounds.map fun round => round.1.eventId).Nodup →
      (∀ round ∈ rounds, round.1 ∈ db.outboxEvents ∧ round.1.status = .PENDING) →
      run (fun round db => dispatchRound (sagaHandlers paymentFails) policy round.1 world
          round.2 db) rounds db
        = runCalls (rounds.map (delivery policy paymentFails world)) db := by
  intro rounds
  induction rounds with
  | nil => intro db _ _ _; rfl
  | cons round rounds ih =>
      intro db inv hnodup hpending
      obtain ⟨hnotin, hnodup⟩ := List.nodup_cons.mp hnodup
      obtain ⟨mem, pending⟩ := hpending round List.mem_cons_self
      rw [run_cons, List.map_cons, runCalls, run_cons,
        dispatchRound_eq_step inv mem pending policy paymentFails world round.2]
      refine ih _ (step_inv _ inv) hnodup fun other hother => ?_
      obtain ⟨mem', pending'⟩ := hpending other (List.mem_cons_of_mem _ hother)
      refine ⟨step_keeps inv _ mem' fun policy' paymentFails' hcall => ?_, pending'⟩
      -- two rounds never deliver the same event
      have hid : round.1.eventId = other.1.eventId := (Call.deliver.inj hcall).1
      exact hnotin (List.mem_map.mpr ⟨other, hother, hid.symm⟩)

/-- A program that does nothing but deliver. -/
def Delivers {α : Type} (m : App α) : Prop :=
  ∀ s : Session Database, s.Clean → SagaInv s.committed →
    ∃ labels : List Label, (∀ label ∈ labels, label.call.creation = none)
      ∧ (after (m s)).committed = runCalls labels s.committed
      ∧ ∀ a t, m s = .ok a t → t.Clean

theorem delivers_dispatchPendingBatch (limit : Nat) (policy : RetryPolicy)
    (paymentFails : String → Bool) :
    Delivers (dispatchPendingBatch (sagaHandlers paymentFails) limit policy) := by
  intro s hs inv
  have hworld : (handlersOrDefault (sagaHandlers paymentFails)).KeepWorld :=
    sagaHandlers_keepWorld paymentFails
  obtain ⟨readyAt, rounds, hpre, hrun, hok⟩ := dispatchPendingBatch_run hworld limit policy hs
  have hnodup := pending_nodup inv.keyed.outboxEvents limit readyAt
  have hids : (rounds.map fun round => round.1.eventId).Nodup := by
    have hsub := (hpre.sublist.map (·.eventId)).nodup hnodup
    rwa [List.map_map] at hsub
  refine ⟨rounds.map (delivery policy paymentFails s.world), ?_, ?_, fun n t h => (hok n t h).1⟩
  · intro label hlabel
    obtain ⟨round, -, rfl⟩ := List.mem_map.mp hlabel
    rfl
  · rw [hrun]
    refine rounds_eq_deliveries policy paymentFails s.world rounds s.committed inv hids ?_
    intro round hround
    exact mem_pending (hpre.subset (List.mem_map_of_mem hround))

theorem dispatchLoop_succ (handlers : HandlerMap) (limit : Nat) (policy : RetryPolicy)
    (maxBatches dispatchedTotal : Nat) :
    dispatchLoop handlers limit policy (maxBatches + 1) dispatchedTotal
      = dispatchPendingBatch handlers limit policy >>= fun dispatchedCount =>
          if dispatchedCount = 0 then pure (dispatchedTotal + dispatchedCount)
          else dispatchLoop handlers limit policy maxBatches
            (dispatchedTotal + dispatchedCount) := rfl

theorem delivers_dispatchLoop (limit : Nat) (policy : RetryPolicy)
    (paymentFails : String → Bool) :
    ∀ maxBatches dispatchedTotal, Delivers (dispatchLoop (sagaHandlers paymentFails) limit policy
      maxBatches dispatchedTotal) := by
  intro maxBatches
  induction maxBatches with
  | zero =>
      intro dispatchedTotal s hs inv
      exact ⟨[], by simp, rfl, fun n t h => nomatch h⟩
  | succ maxBatches ih =>
      intro dispatchedTotal s hs inv
      obtain ⟨labels, hcreate, hrun, hclean⟩ :=
        delivers_dispatchPendingBatch limit policy paymentFails s hs inv
      rw [dispatchLoop_succ]
      cases hb : dispatchPendingBatch (sagaHandlers paymentFails) limit policy s with
      | error e t =>
          rw [hb] at hrun
          refine ⟨labels, hcreate, ?_, fun n t' h => ?_⟩
          · rw [bind_of_error hb]
            exact hrun
          · rw [bind_of_error hb] at h
            exact nomatch h
      | ok dispatchedCount t =>
          rw [hb] at hrun
          have ht := hclean _ _ hb
          rw [bind_of_ok hb]
          by_cases hzero : dispatchedCount = 0
          · rw [if_pos hzero]
            refine ⟨labels, hcreate, hrun, fun n t' h => ?_⟩
            obtain rfl : t = t' := congrArg after h
            exact ht
          · rw [if_neg hzero]
            have htc : t.committed = runCalls labels s.committed := hrun
            obtain ⟨labels', hcreate', hrun', hclean'⟩ := ih (dispatchedTotal + dispatchedCount) t
              ht (htc ▸ runCalls_inv labels inv)
            refine ⟨labels ++ labels', ?_, ?_, hclean'⟩
            · intro label hlabel
              exact (List.mem_append.mp hlabel).elim (hcreate label) (hcreate' label)
            · rw [hrun', htc]
              exact (run_append step labels labels' s.committed).symm

/-! ## §4. Requests are runs of calls. -/

/-- Deliveries create nothing. -/
theorem ledger_deliveries :
    ∀ (labels : List Label) (l : Ledger), (∀ label ∈ labels, label.call.creation = none) →
      run ledgerStep labels l = ⟨runCalls labels l.db, l.created⟩
  | [], _, _ => rfl
  | label :: labels, l, h => by
      have hstep : ledgerStep label l = ⟨step label l.db, l.created⟩ := by
        unfold ledgerStep
        rw [h label List.mem_cons_self]
        rfl
      rw [run_cons, hstep]
      exact ledger_deliveries labels _ fun other ho => h other (List.mem_cons_of_mem _ ho)

/-- **A request is a run of calls**, on database and ledger. -/
theorem serve_matched {l : Ledger} (inv : SagaInv l.db) (input : Input) :
    ∃ labels, ledgerServe input l = run ledgerStep labels l := by
  have hdelivers : ∀ {α : Type} {m : App α}, Delivers m → input.request.creation = none →
      serve input l.db
        = (after (m (Session.begin input.world input.tick l.db))).committed →
      ∃ labels, ledgerServe input l = run ledgerStep labels l := by
    intro α m hm hcreation hserve
    obtain ⟨labels, hcreate, hrun, -⟩ := hm _ (begin_clean input.world input.tick l.db) inv
    refine ⟨labels, ?_⟩
    rw [ledger_deliveries labels l hcreate]
    unfold ledgerServe
    rw [hcreation, hserve, hrun]
    rfl
  obtain ⟨world, tick, request⟩ := input
  cases request with
  | createInventoryItem payload => exact ⟨[⟨world, tick, .createInventoryItem payload⟩], rfl⟩
  | createOrder payload => exact ⟨[⟨world, tick, .createOrder payload⟩], rfl⟩
  | replayDeadLetterEvent deadLetterId =>
      exact ⟨[⟨world, tick, .replayDeadLetterEvent deadLetterId⟩], rfl⟩
  | dispatchPendingBatch limit policy paymentFails =>
      exact hdelivers (delivers_dispatchPendingBatch limit policy paymentFails) rfl
        (congrArg Session.committed (after_bind_pure _ _ _))
  | dispatchUntilIdle limit maxBatches policy paymentFails =>
      exact hdelivers (delivers_dispatchLoop limit policy paymentFails maxBatches 0) rfl
        (congrArg Session.committed (after_bind_pure _ _ _))

/-- **A run of requests is a run of calls.** -/
theorem serveAll_matched (inputs : List Input) {l : Ledger} (inv : SagaInv l.db) :
    ∃ labels, run ledgerServe inputs l = run ledgerStep labels l := by
  have hstep : ∀ l l' input, (l = l' ∧ SagaInv l.db) →
      ∃ labels, ledgerServe input l = run ledgerStep labels l'
        ∧ SagaInv (ledgerServe input l).db := by
    rintro l _ input ⟨rfl, hinv⟩
    obtain ⟨labels, hl⟩ := serve_matched hinv input
    refine ⟨labels, hl, ?_⟩
    rw [hl, ledger_db]
    exact runCalls_inv labels hinv
  obtain ⟨labels, h, -⟩ := run_simulates (R := fun l l' : Ledger => l = l' ∧ SagaInv l.db) hstep
    inputs l l ⟨rfl, inv⟩
  exact ⟨labels, h⟩

theorem ledgerServe_db : ∀ (inputs : List Input) (l : Ledger),
    (run ledgerServe inputs l).db = serveAll inputs l.db
  | [], _ => rfl
  | input :: inputs, l => ledgerServe_db inputs (ledgerServe input l)

end EventCart
