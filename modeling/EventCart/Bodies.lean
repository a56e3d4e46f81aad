/-
  EventCart.Bodies
  ────────────────
  **THE BODY BEHIND A HASH.**

  `hash_request_body` hashes the canonical text of a body: sorted keys, no
  blanks, everything but printable ASCII escaped.  The text tells the JSON
  value (`Lib.JsonValues`), and the value of a body that passed the schema
  tells the body (`payload_of_same`), so a hash tells bodies apart unless it
  collides (`Codecs.Distinguishes`).
-/
import EventCart.Idempotency
import EventCart.Lib.JsonValues

namespace EventCart

open EventCart.Lib

/-- A line of a body as JSON. -/
def OrderItemCreate.dump (item : OrderItemCreate) : Json :=
  .obj [("sku", .str item.sku), ("quantity", .int item.quantity)]

/-- A body is a JSON document. -/
theorem standard_modelDump (payload : OrderCreate) : Json.Standard (.obj payload.modelDump) := by
  refine .obj (show ["customer_email", "items"].Nodup by decide) fun member hmember => ?_
  have hline : ∀ item : OrderItemCreate, Json.Standard item.dump := by
    intro item
    refine .obj (show ["sku", "quantity"].Nodup by decide) fun member hmember => ?_
    rcases List.mem_pair.mp hmember with rfl | rfl
    · exact .str _
    · exact .int _
  rcases List.mem_pair.mp hmember with rfl | rfl
  · exact .str _
  · refine .arr fun line hline' => ?_
    obtain ⟨item, -, rfl⟩ := List.mem_map.mp hline'
    exact hline item

/-- The same JSON line is the same line. -/
theorem item_of_same {item item' : OrderItemCreate} (h : Json.Same item.dump item'.dump) :
    item = item' := by
  obtain ⟨sku, hsku, hsame⟩ := h.member (List.mem_pair.mpr (.inl rfl))
  obtain ⟨quantity, hquantity, hsame'⟩ := h.member (List.mem_pair.mpr (.inr rfl))
  obtain rfl : sku = .str item'.sku := by simpa using hsku
  obtain rfl : quantity = .int item'.quantity := by simpa using hquantity
  cases item
  cases item'
  cases hsame.str_eq
  cases hsame'.int_eq
  rfl

/-- **Different bodies are different values.** -/
theorem payload_of_same {payload payload' : OrderCreate}
    (h : Json.Same (.obj payload.modelDump) (.obj payload'.modelDump)) : payload = payload' := by
  obtain ⟨email, hemail, hsame⟩ := h.member (List.mem_pair.mpr (.inl rfl))
  obtain ⟨lines, hlines, hsame'⟩ := h.member (List.mem_pair.mpr (.inr rfl))
  obtain rfl : email = .str payload'.customerEmail := by
    simpa [OrderCreate.modelDump] using hemail
  obtain rfl : lines = .arr (payload'.items.map fun item =>
      .obj [("sku", .str item.sku), ("quantity", .int item.quantity)]) := by
    simpa [OrderCreate.modelDump] using hlines
  have hitems : payload.items = payload'.items := by
    cases hsame' with
    | arr each =>
        change List.Forall₂ Json.Same (payload.items.map OrderItemCreate.dump)
          (payload'.items.map OrderItemCreate.dump) at each
        rw [List.forall₂_map_left_iff, List.forall₂_map_right_iff] at each
        exact List.forall₂_eq_eq_eq ▸ each.imp fun _ _ => item_of_same
  cases payload
  cases payload'
  cases hsame.str_eq
  cases hitems
  rfl

/-- **Different bodies have different canonical texts.** -/
theorem modelDump_inj {payload payload' : OrderCreate}
    (h : Json.dumps (.obj payload.modelDump) = Json.dumps (.obj payload'.modelDump)) :
    payload = payload' :=
  payload_of_same ((Json.dumps_eq_iff (standard_modelDump payload) (standard_modelDump payload')).mp h)

/-- The hash does not collide on the texts of two bodies. -/
def Codecs.Distinguishes (codecs : Codecs) (payload payload' : OrderCreate) : Prop :=
  hashRequestBody codecs payload.modelDump = hashRequestBody codecs payload'.modelDump →
    Json.dumps (.obj payload.modelDump) = Json.dumps (.obj payload'.modelDump)

/-- Different bodies have different hashes, short of a collision. -/
theorem hashRequestBody_ne {codecs : Codecs} {payload payload' : OrderCreate}
    (distinguishes : codecs.Distinguishes payload payload') (h : payload ≠ payload') :
    hashRequestBody codecs payload.modelDump ≠ hashRequestBody codecs payload'.modelDump :=
  fun hhash => h (modelDump_inj (distinguishes hhash))

end EventCart
