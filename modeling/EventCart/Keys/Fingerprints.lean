/-
  EventCart.Keys.Fingerprints
  ───────────────────────────
  **A FINGERPRINT STANDS FOR A BODY.**

  A request finds the hash of an earlier body under its key and has nothing
  else to tell the two bodies apart.  The hash is taken of the canonical
  text, and a text stands for one JSON value up to the order of object
  members (`Json.dumps_eq_iff`): a body sent again with its members in another
  order is the same body, and one other line, quantity or address is a
  conflict (`fingerprints_identify`).
-/
import EventCart.Bodies
import EventCart.Keys.OneOrder

namespace EventCart

open EventCart.Lib
open EventCart.Lib.Tx

/-! ## §1. A key that is held. -/

/-- A live key row refuses every other hash. -/
theorem answer_conflict_iff {existing : IdempotencyKey} {requestHash : String} :
    (∃ message, existing.answer requestHash = .error (.idempotencyConflictError message))
      ↔ existing.requestHash ≠ requestHash := by
  unfold IdempotencyKey.answer
  by_cases h : existing.requestHash = requestHash
  · -- the row may still be without its response
    rw [if_neg (not_not.mpr h)]
    refine ⟨fun ⟨message, hanswer⟩ => ?_, fun hne => absurd h hne⟩
    cases hbody : existing.responseBody with
    | none =>
        rw [hbody] at hanswer
        cases hanswer
    | some body =>
        rw [hbody] at hanswer
        cases hcode : existing.statusCode with
        | none =>
            rw [hcode] at hanswer
            cases hanswer
        | some code =>
            rw [hcode] at hanswer
            cases hanswer
  · rw [if_pos h]
    exact ⟨fun _ => h, fun _ => ⟨REQUEST_CONFLICT, rfl⟩⟩

section held
variable {rejects : Database → Option String} {s : Session Database} {key : String}
  {existing : IdempotencyKey}

/-- `start_request` on a key that has not expired answers from the row. -/
theorem startRequest_live (dep : s.world.Dependable rejects) (active : s.active = true)
    (accepted : rejects s.working = none) (found : s.working.findIdempotencyKey key = some existing)
    (live : existing.isExpired (s.world.now (s.tick + 1)) = false) (codecs : Codecs) (ttl : Int)
    (body : Dict) :
    startRequest codecs ttl key body s
      = (ofExcept (existing.answer (hashRequestBody codecs body)) >>= fun record =>
          (pure (some record) : App (Option IdempotencyRecord))) (s.goto s.working (s.tick + 2)) := by
  unfold startRequest
  rw [bind_of_ok (query_accepted dep active accepted _), found]
  show (now >>= fun readAt => _) (s.goto s.working (s.tick + 1)) = _
  rw [bind_of_ok (now_apply _)]
  show (if existing.isExpired (s.world.now (s.tick + 1)) then _ else _ : App _) _ = _
  rw [live]
  rfl

/-- It raises a conflict exactly where the hashes differ. -/
theorem startRequest_conflict_iff (dep : s.world.Dependable rejects) (active : s.active = true)
    (accepted : rejects s.working = none) (found : s.working.findIdempotencyKey key = some existing)
    (live : existing.isExpired (s.world.now (s.tick + 1)) = false) (codecs : Codecs) (ttl : Int)
    (body : Dict) :
    (∃ message t, startRequest codecs ttl key body s
        = .error (.raised (.idempotencyConflictError message)) t)
      ↔ existing.requestHash ≠ hashRequestBody codecs body := by
  rw [startRequest_live dep active accepted found live, ← answer_conflict_iff]
  constructor
  · rintro ⟨message, t, h⟩
    rcases ofExcept_bind_eq_raised.mp h with ⟨hanswer, -⟩ | ⟨record, -, hpure⟩
    · exact ⟨message, hanswer⟩
    · cases hpure
  · rintro ⟨message, hanswer⟩
    exact ⟨message, _, ofExcept_bind_eq_raised.mpr (.inl ⟨hanswer, rfl⟩)⟩

end held

/-! ## §2. Bodies that differ. -/

/-- A line of a body, without its bounds. -/
def OrderItemCreate.line (item : OrderItemCreate) : String × Int := (item.sku, item.quantity)

/-- Two bodies differ in their email or in their list of lines. -/
theorem payload_ne_iff {payload payload' : OrderCreate} :
    payload ≠ payload' ↔ payload.customerEmail ≠ payload'.customerEmail
      ∨ payload.items.map OrderItemCreate.line ≠ payload'.items.map OrderItemCreate.line := by
  rw [← not_and_or, not_iff_not]
  constructor
  · rintro rfl
    exact ⟨rfl, rfl⟩
  · rintro ⟨hemail, hlines⟩
    have hline : Function.Injective OrderItemCreate.line := by
      rintro ⟨sku, quantity, _, _⟩ ⟨sku', quantity', _, _⟩ h
      cases h
      rfl
    have hitems := List.map_injective_iff.mpr hline hlines
    cases payload
    cases payload'
    cases hemail
    cases hitems
    rfl

/-- **Fingerprints identify bodies exactly.**  Two JSON objects have the same
canonical text if and only if they are the same value up to the order of
object members; so, where the hash does not collide, `start_request` on a key
that has not expired raises `IdempotencyConflictError` if and only if the
bodies differ in the email or in the sku or quantity of some line, or in the
number or order of the lines. -/
theorem fingerprints_identify :
    (∀ body body' : Dict, Json.Standard (.obj body) → Json.Standard (.obj body') →
      (Json.dumps (.obj body) = Json.dumps (.obj body') ↔ Json.Same (.obj body) (.obj body')))
    ∧ ∀ (codecs : Codecs) (payload payload' : OrderCreate), codecs.Distinguishes payload payload' →
      ∀ (rejects : Database → Option String) (s : Session Database) (ttl : Int) (key : String)
        (existing : IdempotencyKey), s.world.Dependable rejects → s.active = true →
        rejects s.working = none → s.working.findIdempotencyKey key = some existing →
        existing.requestHash = hashRequestBody codecs payload.modelDump →
        existing.isExpired (s.world.now (s.tick + 1)) = false →
        ((∃ message t, startRequest codecs ttl key payload'.modelDump s
            = .error (.raised (.idempotencyConflictError message)) t)
          ↔ payload.customerEmail ≠ payload'.customerEmail
            ∨ payload.items.map OrderItemCreate.line ≠ payload'.items.map OrderItemCreate.line) := by
  refine ⟨fun body body' h h' => Json.dumps_eq_iff h h', ?_⟩
  intro codecs payload payload' distinguishes rejects s ttl key existing dep active accepted found
    hash live
  rw [startRequest_conflict_iff dep active accepted found live, ← payload_ne_iff, hash]
  refine ⟨fun hne heq => ?_, fun hne => hashRequestBody_ne distinguishes hne⟩
  rw [heq] at hne
  exact hne rfl

/-- A shop where somebody has begun to order a pencil under a key. -/
def heldKeyShop : Session Database :=
  Session.begin .calm 0
    { Database.empty with
      idempotencyKeys :=
        [newIdempotencyKey "key-1" (hashRequestBody plainCodecs aPencil.modelDump) 100 0 0] }

/-- Members in another order are the same body; two pencils are another one. -/
theorem fingerprints_identify_pencils :
    Json.dumps (.obj [("sku", .str "PENCIL"), ("quantity", .int 1)])
        = Json.dumps (.obj [("quantity", .int 1), ("sku", .str "PENCIL")])
      ∧ ∃ message t, startRequest plainCodecs 10 "key-1" (somePencils 2 (by decide)).modelDump heldKeyShop
          = .error (.raised (.idempotencyConflictError message)) t := by
  have hstandard : ∀ members : List (String × Json), (members.map Prod.fst).Nodup →
      members ⊆ [("sku", .str "PENCIL"), ("quantity", .int 1)] → Json.Standard (.obj members) := by
    intro members nodup hsub
    refine .obj nodup fun member hmem => ?_
    rcases List.mem_pair.mp (hsub hmem) with rfl | rfl
    · exact .str _
    · exact .int _
  refine ⟨(fingerprints_identify.1 _ _ (hstandard _ (by decide) (by simp))
    (hstandard _ (by decide) (by simp))).mpr ?_, ?_⟩
  · exact .obj (List.Perm.swap _ _ _) (List.Perm.refl _) rfl (.cons (.int 1) (.cons (.str _) .nil))
  · refine (fingerprints_identify.2 plainCodecs aPencil (somePencils 2 (by decide)) (fun h => h)
      (fun _ => none) heldKeyShop 10 "key-1" _ World.calm_dependable rfl rfl rfl rfl
      (by decide)).mpr (.inr fun hlines => ?_)
    have hquantity := congrArg (List.map Prod.snd) hlines
    simp [aPencil, somePencils, OrderItemCreate.line] at hquantity

end EventCart
