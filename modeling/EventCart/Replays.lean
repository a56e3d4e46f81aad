/-
  EventCart.Replays
  ─────────────────
  **IS A DEAD LETTER REPLAYED TWICE?**

  `replay_dead_letter_event` loads a dead letter, tests `replayed_at`, adds
  a fresh event and assigns `replayed_at`, in one transaction and without a
  lock on what it tested.  `ReplayCall.plan` runs the code of the call on
  the rows it loads; the statements of any number of calls then interleave
  as in `Lib.RowLocks`.  Every replay has an event id of its own, so nothing
  behind the outbox recognises a second one.

    • `replayed_once`  — at most one event a dead letter, in every run in
                         which no dead letter changes between the load and
                         the UPDATE of a call,
    • `replayed_twice` — two calls, two events.
-/
import EventCart.Lib.RowLocks
import EventCart.OrderEffects

namespace EventCart

open EventCart.Lib
open EventCart.Lib.Tx

/-! ## §1. What a replay does to the dead letters. -/

/-- What a call commits. -/
structure Replayed where
  deadLetterId : String
  replayedAt : Option DateTime
  event : OutboxEvent

/-- The UPDATE of a replay. -/
def Replayed.mark (r : Replayed) (row : DeadLetterEvent) : DeadLetterEvent :=
  if row.id = r.deadLetterId then { row with replayedAt := r.replayedAt } else row

theorem mark_id (r : Replayed) (row : DeadLetterEvent) : (r.mark row).id = row.id := by
  unfold Replayed.mark
  split <;> rfl

/-- A replay marks the dead letter it was made from. -/
theorem mark_replayed {r : Replayed} {row : DeadLetterEvent} (hid : row.id = r.deadLetterId) :
    (r.mark row).replayedAt = r.replayedAt := by
  unfold Replayed.mark
  rw [if_pos hid]

/-- A mark of another dead letter is not seen. -/
theorem mark_other {r : Replayed} {row : DeadLetterEvent} (hid : row.id ≠ r.deadLetterId) :
    r.mark row = row := by
  unfold Replayed.mark
  rw [if_neg hid]

/-- The mark on an unreplayed dead letter is a change. -/
theorem mark_ne {r : Replayed} {row : DeadLetterEvent} (hid : row.id = r.deadLetterId)
    (hnone : row.replayedAt = none) (hsome : r.replayedAt.isSome) : row ≠ r.mark row := by
  intro heq
  have hmark := mark_replayed hid
  rw [← heq, hnone] at hmark
  rw [← hmark] at hsome
  simp at hsome

/-- A call about to run. -/
structure ReplayCall where
  world : World Database
  tick : Nat
  deadLetterId : String

/-- **What a call makes of the rows it loads**: the event it will insert,
and the row it assigned to, old and new.  Nothing, when it raised. -/
def ReplayCall.plan (db : Database) (call : ReplayCall) (rows : List DeadLetterEvent) :
    Option (Replayed × List (DeadLetterEvent × DeadLetterEvent)) :=
  match replay call.deadLetterId
      (Session.begin call.world call.tick { db with deadLetters := rows }) with
  | .ok event t =>
      some (⟨call.deadLetterId,
        (t.working.findDeadLetter call.deadLetterId).bind (·.replayedAt), event⟩,
        (rows.zip t.working.deadLetters).filter fun c => c.1 ≠ c.2)
  | .error _ _ => none

/-- An assignment to the row under a key is seen by the next lookup. -/
theorem find_updateDeadLetter {id : String} {replayedAt : DateTime} :
    ∀ {rows : List DeadLetterEvent} {row : DeadLetterEvent}, rows.find? (·.id = id) = some row →
      (update (·.id) id (·.replayed replayedAt) rows).find? (·.id = id)
        = some (row.replayed replayedAt) := by
  intro rows
  induction rows with
  | nil =>
      intro row h
      simp at h
  | cons first rows ih =>
      intro row h
      by_cases hid : first.id = id
      · obtain rfl : first = row := by simpa [hid] using h
        have hid' : (first.replayed replayedAt).id = id := hid
        simp [update, hid, hid']
      · have hrest := ih (by simpa [hid] using h)
        simpa [update, hid] using hrest

/-- **The plan in closed form**: the dead letter was found unreplayed, its
fields are copied into the event, and `replayed_at` is all that changes. -/
theorem replay_plan {db : Database} {call : ReplayCall} {rows : List DeadLetterEvent}
    {r : Replayed} {changes : List (DeadLetterEvent × DeadLetterEvent)}
    (h : call.plan db rows = some (r, changes)) :
    ∃ row id occurredAt replayedAt, rows.find? (·.id = call.deadLetterId) = some row
      ∧ row.replayedAt = none
      ∧ r = ⟨call.deadLetterId, some replayedAt, row.draft.row id occurredAt⟩
      ∧ changes = (rows.map fun row => (row, r.mark row)).filter (fun c => c.1 ≠ c.2)
      ∧ (row, r.mark row) ∈ changes := by
  unfold ReplayCall.plan at h
  split at h
  next event t hrun =>
    simp only [Option.some.injEq, Prod.mk.injEq] at h
    obtain ⟨rfl, rfl⟩ := h
    obtain ⟨row, id, at', replayedAt, n, hfind, hnone, -, rfl, rfl⟩ := replay_ok hrun
    have hfind : rows.find? (·.id = call.deadLetterId) = some row := hfind
    -- what the UPDATE wrote is read back from the rows
    have hmark : ((update (·.id) call.deadLetterId (·.replayed replayedAt) rows).find?
        (·.id = call.deadLetterId)).bind (·.replayedAt) = some replayedAt := by
      rw [find_updateDeadLetter hfind]
      rfl
    have hr : Replayed.mk call.deadLetterId
        (((update (·.id) call.deadLetterId (·.replayed replayedAt) rows).find?
          (·.id = call.deadLetterId)).bind (·.replayedAt)) (row.draft.row id at')
        = ⟨call.deadLetterId, some replayedAt, row.draft.row id at'⟩ := by
      rw [hmark]
    have hrows : update (·.id) call.deadLetterId (·.replayed replayedAt) rows = rows.map
        (Replayed.mark ⟨call.deadLetterId, some replayedAt, row.draft.row id at'⟩) := rfl
    have hchanges : (rows.zip (update (·.id) call.deadLetterId (·.replayed replayedAt) rows)).filter
        (fun c => c.1 ≠ c.2) = (rows.map fun row' => (row', Replayed.mark
          ⟨call.deadLetterId, some replayedAt, row.draft.row id at'⟩ row')).filter
            fun c => c.1 ≠ c.2 := by
      rw [hrows, zip_map_self]
    have hid : row.id = call.deadLetterId := by simpa using List.find?_some hfind
    refine ⟨row, id, at', replayedAt, hfind, hnone, hr, ?_, ?_⟩
    · rw [← hr] at hchanges
      exact hchanges
    · have hmem : (row, Replayed.mark ⟨call.deadLetterId, some replayedAt, row.draft.row id at'⟩ row)
          ∈ (rows.map fun row' => (row', Replayed.mark
            ⟨call.deadLetterId, some replayedAt, row.draft.row id at'⟩ row')).filter
              fun c => c.1 ≠ c.2 :=
        List.mem_filter.mpr ⟨List.mem_map.mpr ⟨row, List.mem_of_find?_eq_some hfind, rfl⟩,
          decide_eq_true (mark_ne hid hnone rfl)⟩
      rw [← hchanges, ← hr] at hmem
      exact hmem
  next => cases h

/-! ## §2. Calls that interleave. -/

section calls
variable {ι : Type} [DecidableEq ι]

/-- The calls as sessions over the dead letters.  A result carries the call
it came from. -/
def replaySessions (db : Database) (calls : ι → ReplayCall) :
    Sessions ι DeadLetterEvent String (ι × Replayed) where
  key := (·.id)
  effect entry row := entry.2.mark row
  plan i rows := ((calls i).plan db rows).map fun (r, changes) => ((i, r), changes)
  key_effect entry row := mark_id entry.2 row
  change_eq i rows entry changes h := by
    obtain ⟨⟨r, changes⟩, hplan, ⟨⟩⟩ := Option.map_eq_some_iff.mp h
    obtain ⟨row, id, at', replayedAt, -, -, -, rfl, -⟩ := replay_plan hplan
    intro c hc
    obtain ⟨row, -, rfl⟩ := List.mem_map.mp (List.mem_filter.mp hc).1
    rfl
  unchanged i rows entry changes h := by
    obtain ⟨⟨r, changes⟩, hplan, ⟨⟩⟩ := Option.map_eq_some_iff.mp h
    obtain ⟨row, id, at', replayedAt, hfind, -, rfl, -, hchange⟩ := replay_plan hplan
    intro row' hrow' hall row'' hid
    have hfound : row.id = (calls i).deadLetterId := by simpa using List.find?_some hfind
    -- the row it found is to be changed, so this one is another
    refine mark_other (r := ⟨(calls i).deadLetterId, some replayedAt, row.draft.row id at'⟩) ?_
    intro hsame
    exact hall _ hchange (hfound.trans (hsame.symm.trans hid))

/-- What holds between the statements of a run that loses no mark. -/
structure ReplayInv (db : Database) (calls : ι → ReplayCall)
    (s : Shared ι DeadLetterEvent String (ι × Replayed)) : Prop where
  inv : (replaySessions db calls).Inv db.deadLetters s
  once : (s.log.map (·.2.deadLetterId)).Nodup
  /-- A committed event is the work of a call that is over, and a copy of a
  dead letter that nobody had replayed. -/
  filed : ∀ entry ∈ s.log, s.phase entry.1 = .closed
    ∧ entry.2.deadLetterId = (calls entry.1).deadLetterId ∧ entry.2.replayedAt.isSome
    ∧ ∃ row ∈ db.deadLetters, row.id = entry.2.deadLetterId ∧ row.replayedAt = none
      ∧ ∃ id occurredAt, entry.2.event = row.draft.row id occurredAt

variable {db : Database} {calls : ι → ReplayCall}
  {s : Shared ι DeadLetterEvent String (ι × Replayed)}

omit [DecidableEq ι] in
/-- A dead letter without committed replays is as it was. -/
theorem replay_other {log : List (ι × Replayed)} {row : DeadLetterEvent}
    (h : ∀ entry ∈ log, entry.2.deadLetterId ≠ row.id) :
    (replaySessions db calls).replay log row = row := by
  induction log generalizing row with
  | nil => rfl
  | cons entry log ih =>
      have hmark : entry.2.mark row = row := mark_other (h entry (by simp)).symm
      show (replaySessions db calls).replay log (entry.2.mark row) = row
      rw [hmark]
      exact ih fun entry hmem => h entry (List.mem_cons_of_mem _ hmem)

omit [DecidableEq ι] in
/-- Marks stay. -/
theorem replay_marked {log : List (ι × Replayed)} {row : DeadLetterEvent}
    (marked : ∀ entry ∈ log, entry.2.replayedAt.isSome)
    (h : row.replayedAt.isSome ∨ ∃ entry ∈ log, entry.2.deadLetterId = row.id) :
    ((replaySessions db calls).replay log row).replayedAt.isSome := by
  induction log generalizing row with
  | nil =>
      rcases h with h | ⟨_, hmem, -⟩
      · exact h
      · simp at hmem
  | cons entry log ih =>
      show ((replaySessions db calls).replay log (entry.2.mark row)).replayedAt.isSome
      apply ih fun entry hmem => marked entry (List.mem_cons_of_mem _ hmem)
      by_cases hid : row.id = entry.2.deadLetterId
      · left
        rw [mark_replayed hid]
        exact marked entry (by simp)
      · rw [mark_other hid]
        rcases h with h | ⟨other, hmem, hother⟩
        · exact .inl h
        · rcases List.mem_cons.mp hmem with rfl | hmem
          · exact absurd hother.symm hid
          · exact .inr ⟨other, hmem, hother⟩

omit [DecidableEq ι] in
/-- **What a commit adds is new**: the dead letter is still unreplayed when
its lock is held, so no earlier commit marked it. -/
theorem ReplayInv.fresh (h : ReplayInv db calls s) {i : ι} {entry : ι × Replayed}
    {changes : List (DeadLetterEvent × DeadLetterEvent)}
    (hphase : s.phase i = .active entry changes)
    (written : ∀ c ∈ changes, (c.1.id, i) ∈ s.locks) :
    entry.1 = i ∧ entry.2.deadLetterId ∉ s.log.map (·.2.deadLetterId)
      ∧ entry.2.deadLetterId = (calls entry.1).deadLetterId ∧ entry.2.replayedAt.isSome
      ∧ ∃ row ∈ db.deadLetters, row.id = entry.2.deadLetterId ∧ row.replayedAt = none
        ∧ ∃ id occurredAt, entry.2.event = row.draft.row id occurredAt := by
  obtain ⟨snapshot, -, hplan⟩ := h.inv.planned i entry changes hphase
  obtain ⟨⟨r, changes⟩, hplan, ⟨⟩⟩ := Option.map_eq_some_iff.mp hplan
  obtain ⟨row, id, at', replayedAt, hfind, hnone, rfl, -, hchange⟩ := replay_plan hplan
  have hid : row.id = (calls i).deadLetterId := by simpa using List.find?_some hfind
  obtain ⟨_, _, hphase', hloaded⟩ := h.inv.locked _ i (written _ hchange)
  rw [hphase, SessionPhase.active.injEq] at hphase'
  obtain ⟨-, rfl⟩ := hphase'
  have hrow : row ∈ s.rows := hloaded _ hchange rfl
  rw [h.inv.rows] at hrow
  obtain ⟨first, hfirst, hreplay⟩ := List.mem_map.mp hrow
  have hfirstid : first.id = row.id := by
    rw [← hreplay]
    exact ((replaySessions db calls).key_replay s.log first).symm
  -- an earlier commit would have marked the row
  have hnew : ∀ entry ∈ s.log, entry.2.deadLetterId ≠ first.id := by
    intro entry hmem hsame
    have hsome := @replay_marked ι db calls _ first
      (fun entry hmem => (h.filed entry hmem).2.2.1) (.inr ⟨entry, hmem, hsame⟩)
    rw [hreplay, hnone] at hsome
    simp at hsome
  have hsame : first = row := (replay_other hnew).symm.trans hreplay
  refine ⟨rfl, fun hmem => ?_, rfl, rfl, row, hsame ▸ hfirst, hid, hnone, id, at', rfl⟩
  obtain ⟨entry, hmem, hentry⟩ := List.mem_map.mp hmem
  exact hnew entry hmem (by rw [hentry, hfirstid]; exact hid.symm)

/-- **Every statement keeps the invariant**: only a COMMIT adds an entry. -/
theorem ReplayInv.step (keyed : (db.deadLetters.map (·.id)).Nodup) (h : ReplayInv db calls s)
    (a : Statement ι String) (hcurrent : (replaySessions db calls).current s a = true) :
    ReplayInv db calls ((replaySessions db calls).step a s) := by
  have hinv := Sessions.step_inv keyed h.inv a hcurrent
  have hfiled : ∀ entry ∈ s.log,
      ((replaySessions db calls).step a s).phase entry.1 = .closed
        ∧ entry.2.deadLetterId = (calls entry.1).deadLetterId ∧ entry.2.replayedAt.isSome
        ∧ ∃ row ∈ db.deadLetters, row.id = entry.2.deadLetterId ∧ row.replayedAt = none
          ∧ ∃ id occurredAt, entry.2.event = row.draft.row id occurredAt := by
    intro entry hmem
    obtain ⟨hclosed, hrest⟩ := h.filed entry hmem
    exact ⟨(replaySessions db calls).step_closed a hclosed, hrest⟩
  rcases (replaySessions db calls).step_log a s with hlog | ⟨i, entry, changes, rfl, hphase,
    written, hlog, hclosed⟩
  · exact ⟨hinv, by rw [hlog]; exact h.once, by rw [hlog]; exact hfiled⟩
  · obtain ⟨rfl, hnew, hrest⟩ := h.fresh hphase written
    refine ⟨hinv, ?_, ?_⟩
    · rw [hlog, List.map_append, List.nodup_append]
      refine ⟨h.once, List.nodup_singleton _, fun id hid id' hid' heq => ?_⟩
      rw [List.mem_singleton.mp hid'] at heq
      have heq : id = entry.2.deadLetterId := heq
      exact hnew (heq ▸ hid)
    · intro entry' hmem
      rw [hlog] at hmem
      rcases List.mem_append.mp hmem with hmem | hmem
      · exact hfiled entry' hmem
      · rw [List.mem_singleton.mp hmem]
        exact ⟨hclosed, hrest⟩

/-- Where some statements of the calls lead. -/
def replayRun (db : Database) (calls : ι → ReplayCall) (statements : List (Statement ι String)) :
    Shared ι DeadLetterEvent String (ι × Replayed) :=
  run (replaySessions db calls).step statements (Shared.start db.deadLetters)

/-- How a call ended: with the event it returned, or with an exception.
Nothing while it runs. -/
def callOutcome (s : Shared ι DeadLetterEvent String (ι × Replayed)) (i : ι) :
    Option (Option OutboxEvent) :=
  match s.phase i with
  | .closed => some ((s.log.find? (·.1 = i)).map (·.2.event))
  | .idle | .active _ _ => none

/-- At most one committed event a dead letter. -/
structure ReplayedOnce (db : Database) (calls : ι → ReplayCall)
    (statements : List (Statement ι String)) : Prop where
  once : ∀ deadLetterId, ((replayRun db calls statements).log.filter
    (·.2.deadLetterId = deadLetterId)).length ≤ 1
  /-- A committed event is a copy of an unreplayed dead letter, and its call
  returned it. -/
  returned : ∀ entry ∈ (replayRun db calls statements).log,
    callOutcome (replayRun db calls statements) entry.1 = some (some entry.2.event)
      ∧ entry.2.deadLetterId = (calls entry.1).deadLetterId
      ∧ ∃ row ∈ db.deadLetters, row.id = entry.2.deadLetterId ∧ row.replayedAt = none
        ∧ ∃ id occurredAt, entry.2.event = row.draft.row id occurredAt
  /-- Every other call fails, and adds nothing. -/
  others : ∀ i j event, callOutcome (replayRun db calls statements) i = some (some event) →
    j ≠ i → (calls j).deadLetterId = (calls i).deadLetterId →
    (∀ r, (j, r) ∉ (replayRun db calls statements).log)
      ∧ ((replayRun db calls statements).phase j = .closed →
          callOutcome (replayRun db calls statements) j = some none)

/-- No dead letter changes between the load of a call and its UPDATE. -/
def Unreplayed (db : Database) (calls : ι → ReplayCall)
    (statements : List (Statement ι String)) : Prop :=
  Along (replaySessions db calls).step
    (fun s statement => (replaySessions db calls).current s statement = true) statements
    (Shared.start db.deadLetters)

omit [DecidableEq ι] in
/-- Two committed events of one dead letter are one. -/
theorem ReplayInv.entry_unique (h : ReplayInv db calls s) {a b : ι × Replayed} (ha : a ∈ s.log)
    (hb : b ∈ s.log) (hab : (calls a.1).deadLetterId = (calls b.1).deadLetterId) : a = b := by
  refine row_unique h.once ha hb ?_
  rw [(h.filed a ha).2.1, (h.filed b hb).2.1]
  exact hab

/-- The outcome of a call is its entry of the log. -/
theorem ReplayInv.outcome (h : ReplayInv db calls s) {entry : ι × Replayed}
    (mem : entry ∈ s.log) : callOutcome s entry.1 = some (some entry.2.event) := by
  have hfind : s.log.find? (·.1 = entry.1) = some entry := by
    cases hf : s.log.find? (·.1 = entry.1) with
    | none =>
        have hnot := List.find?_eq_none.mp hf entry mem
        simp at hnot
    | some other =>
        have hcall : other.1 = entry.1 := by simpa using List.find?_some hf
        rw [h.entry_unique (List.mem_of_find?_eq_some hf) mem (by rw [hcall])]
  unfold callOutcome
  rw [(h.filed entry mem).1, hfind]
  rfl

/-- A call that returned has an entry of the log. -/
theorem returned_of_outcome {i : ι} {event : OutboxEvent}
    (h : callOutcome s i = some (some event)) : ∃ r, (i, r) ∈ s.log := by
  unfold callOutcome at h
  split at h
  · cases hf : s.log.find? (·.1 = i) with
    | none => simp [hf] at h
    | some entry =>
        have hcall : entry.1 = i := by simpa using List.find?_some hf
        exact ⟨entry.2, hcall ▸ List.mem_of_find?_eq_some hf⟩
  · simp at h
  · simp at h

/-- **A dead letter is replayed once** in any interleaving of any number of
calls, if no dead letter changes between a call's load and its UPDATE. -/
theorem replayed_once (keyed : db.Keyed) (statements : List (Statement ι String))
    (unreplayed : Unreplayed db calls statements) : ReplayedOnce db calls statements := by
  have hinv : ReplayInv db calls (replayRun db calls statements) :=
    run_invariant_along (I := ReplayInv db calls)
      (fun s a h hcurrent => h.step keyed.deadLetters a hcurrent) statements _
      ⟨(replaySessions db calls).start_inv db.deadLetters, List.nodup_nil,
        fun entry mem => absurd mem List.not_mem_nil⟩ unreplayed
  refine ⟨length_filter_le_one hinv.once, fun entry mem => ?_, fun i j event hi hji hsame => ?_⟩
  · obtain ⟨-, hid, -, hcopy⟩ := hinv.filed entry mem
    exact ⟨hinv.outcome mem, hid, hcopy⟩
  · obtain ⟨r, hmem⟩ := returned_of_outcome hi
    have hnone : ∀ r, (j, r) ∉ (replayRun db calls statements).log := by
      intro r' mem
      have heq := hinv.entry_unique mem hmem hsame
      exact hji (congrArg Prod.fst heq)
    refine ⟨hnone, fun hclosed => ?_⟩
    unfold callOutcome
    rw [hclosed, List.find?_eq_none.mpr]
    · rfl
    · intro entry mem hcall
      have hcall : entry.1 = j := by simpa using hcall
      exact hnone entry.2 (hcall ▸ mem)

end calls

/-- **Alone, a call commits what it planned**: its event, and the mark on
its dead letter. -/
theorem replayDeadLetterEvent_ok {deadLetterId : String} {s t : Session Database}
    {event : OutboxEvent} (h : replayDeadLetterEvent deadLetterId s = .ok event t) :
    ∃ replayedAt, t.committed.outboxEvents = s.working.outboxEvents ++ [event]
      ∧ t.committed.deadLetters
          = s.working.deadLetters.map (Replayed.mark ⟨deadLetterId, some replayedAt, event⟩) := by
  obtain ⟨new, u, hu, h⟩ := bind_eq_ok.mp h
  obtain ⟨row, id, at', replayedAt, n, -, -, -, rfl, rfl⟩ := replay_ok hu
  obtain ⟨_, v, hv, h⟩ := bind_eq_ok.mp h
  obtain ⟨-, m, rfl⟩ := commit_keyed hv
  simp only [pure_apply, EStateM.Result.ok.injEq] at h
  obtain ⟨rfl, rfl⟩ := h
  exact ⟨replayedAt, rfl, rfl⟩

/-! ## §3. Two calls for one dead letter. -/

/-- An order's first event, dead-lettered. -/
def deadPencils : Database :=
  { Database.empty with deadLetters := [⟨"dead-1", "event-1", "OrderCreated", 1, "Order", "order-1",
      "order-1", none, "inventory-worker", 3, "poison event",
      [("order_id", .str "order-1")], 7, none⟩] }

def deadPencilCalls : Bool → ReplayCall
  | true => ⟨.calm, 100, "dead-1"⟩
  | false => ⟨.calm, 200, "dead-1"⟩

/-- One call after the other. -/
def replayedInTurn : List (Statement Bool String) :=
  [.load true, .update true "dead-1", .commit true, .load false]

/-- Both load before either commits. -/
def replayedAtOnce : List (Statement Bool String) :=
  [.load true, .load false, .update true "dead-1", .commit true,
   .update false "dead-1", .commit false]

/-- One after the other, the second call is refused. -/
theorem replayed_once_in_turn :
    callOutcome (replayRun deadPencils deadPencilCalls replayedInTurn) false = some none
      ∧ ReplayedOnce deadPencils deadPencilCalls replayedInTurn :=
  ⟨by decide +kernel, replayed_once ((admits_iff _).mp (by decide +kernel)) replayedInTurn
    ⟨by decide +kernel, by decide +kernel, by decide +kernel, by decide +kernel, trivial⟩⟩

/-- **A dead letter is replayed twice**: both calls find it unreplayed, both
commit an event. -/
theorem replayed_twice :
    ¬ ∀ (calls : Bool → ReplayCall) (db : Database) (statements : List (Statement Bool String)),
        db.Keyed → ReplayedOnce db calls statements := by
  intro h
  have honce := (h deadPencilCalls deadPencils replayedAtOnce
    ((admits_iff _).mp (by decide +kernel))).once "dead-1"
  have htwo : ((replayRun deadPencils deadPencilCalls replayedAtOnce).log.filter
      (·.2.deadLetterId = "dead-1")).length = 2 := by decide +kernel
  omega

end EventCart
