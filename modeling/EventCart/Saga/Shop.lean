/-
  EventCart.Saga.Shop
  ───────────────────
  **THE SYSTEM IS A SHOP.**

  `Shop` is what the system is for, with nothing in it about how it is done:
  articles on a shelf, orders with lines, and the phase every order is in.
  Nothing is delivered, retried or replayed there, and nothing crashes; the
  shop stocks an article, takes an order, or takes one order one step further.

    §1  the shop, over any types of orders and articles, and how many of its
        actions concern an order (`run_depth`);
    §2  a database seen as a shop;
    §3  a commit is one action or none (`Commit.shop`);
    §4  every run of the system is a run of the shop (`shop_refined`).
-/
import EventCart.Lib.Refinement
import EventCart.Keys.Fingerprints
import EventCart.Saga.Arrivals
import EventCart.Saga.Stock

namespace EventCart

open EventCart.Lib

/-! ## §1. The shop. -/

/-- Articles with how many there are, orders with their lines and phase. -/
@[ext]
structure Shop (ι κ : Type) where
  shelf : κ → Option Int
  lines : ι → List (κ × Int)
  phase : ι → Phase

/-- What can happen in a shop. -/
inductive Action (ι κ : Type) where
  | stock (article : κ) (quantity : Int)
  | place (order : ι) (lines : List (κ × Int))
  /-- The order enters its next phase, and the shelf gets `sign` times its
  lines. -/
  | advance (order : ι) (sign : Int) (next : Phase)

section shop
variable {ι κ : Type} [DecidableEq ι] [DecidableEq κ]

/-- How many of the article the lines ask for. -/
def asked (article : κ) (lines : List (κ × Int)) : Int :=
  ((lines.filter (·.1 = article)).map (·.2)).sum

/-- Nothing on the shelf, and no orders. -/
def Shop.empty : Shop ι κ := ⟨fun _ => none, fun _ => [], fun _ => .absent⟩

/-- The shop after an action. -/
def Shop.act : Action ι κ → Shop ι κ → Shop ι κ
  | .stock article quantity, shop =>
      { shop with shelf := Function.update shop.shelf article (some quantity) }
  | .place order lines, shop =>
      { shop with
        lines := Function.update shop.lines order lines
        phase := Function.update shop.phase order .placed }
  | .advance order sign next, shop =>
      { shop with
        shelf := fun article =>
          (shop.shelf article).map (· + sign * asked article (shop.lines order))
        phase := Function.update shop.phase order next }

/-- Every line, by itself, is on the shelf. -/
def Shop.Covers (shop : Shop ι κ) (lines : List (κ × Int)) : Prop :=
  ∀ line ∈ lines, ∃ n ∈ shop.shelf line.1, line.2 ≤ n

/-- What the shop may do: stock a new article, take a new order for articles
it has, and take an order one step further.  A placed order is reserved
exactly if its lines are covered. -/
def Shop.Can (shop : Shop ι κ) : Action ι κ → Prop
  | .stock article quantity => shop.shelf article = none ∧ 0 ≤ quantity
  | .place order lines => shop.phase order = .absent ∧ lines ≠ []
      ∧ ∀ line ∈ lines, 0 < line.2 ∧ (shop.shelf line.1).isSome = true
  | .advance order sign next => Phase.Step (shop.phase order) sign next
      ∧ (shop.phase order = .placed → (next = .reserved ↔ shop.Covers (shop.lines order)))

/-- The order an action concerns. -/
def Action.order? : Action ι κ → Option ι
  | .stock _ _ => none
  | .place order _ => some order
  | .advance order _ _ => some order

/-- How many actions it takes to get there. -/
def Phase.depth : Phase → Nat
  | .absent => 0
  | .placed => 1
  | .refused | .reserved => 2
  | .authorized | .declined => 3
  | .invoiced | .released => 4
  | .notified | .cancelled => 5
  | .completed => 6

theorem Phase.Step.depth {p p' : Phase} {sign : Int} (h : Phase.Step p sign p') :
    p'.depth = p.depth + 1 := by
  cases h <;> rfl

/-- An action takes the order it concerns one deeper, and no other. -/
theorem act_depth {shop : Shop ι κ} {action : Action ι κ} (can : shop.Can action) (i : ι) :
    ((shop.act action).phase i).depth
      = (shop.phase i).depth + if action.order? = some i then 1 else 0 := by
  have hupdate : ∀ (order : ι) (next : Phase), next.depth = (shop.phase order).depth + 1 →
      (Function.update shop.phase order next i).depth
        = (shop.phase i).depth + if some order = some i then 1 else 0 := by
    intro order next hnext
    by_cases hi : order = i
    · subst hi
      rw [Function.update_self, if_pos rfl]
      exact hnext
    · rw [Function.update_of_ne (Ne.symm hi), if_neg fun h => hi (Option.some.inj h)]
      omega
  cases action with
  | stock article quantity => rfl
  | place order lines =>
      apply hupdate
      rw [can.1]
      rfl
  | advance order sign next =>
      apply hupdate
      exact can.1.depth

/-- **As many actions as the phase is deep**: what an order has been through
is the path to its phase. -/
theorem run_depth (i : ι) :
    ∀ (actions : List (Action ι κ)) (shop : Shop ι κ), Along Shop.act Shop.Can actions shop →
      ((run Shop.act actions shop).phase i).depth
        = (shop.phase i).depth + (actions.filter (·.order? = some i)).length := by
  intro actions
  induction actions with
  | nil =>
      intro shop _
      rfl
  | cons action actions ih =>
      intro shop h
      have hrest := ih (shop.act action) h.2
      rw [act_depth h.1 i] at hrest
      rw [run_cons, hrest]
      -- the first action counts if it concerns this order
      by_cases hi : action.order? = some i
      · rw [if_pos hi, List.filter_cons_of_pos (by simpa using hi), List.length_cons]
        omega
      · rw [if_neg hi, List.filter_cons_of_neg (by simpa using hi)]
        omega

end shop

/-! ## §2. A database seen as a shop. -/

/-- The phases there are. -/
def Phase.all : List Phase :=
  [.absent, .placed, .refused, .reserved, .authorized, .invoiced, .notified, .completed,
   .declined, .released, .cancelled]

/-- The phase the events of an order show. -/
def Dossier.phase (d : Dossier) : Phase :=
  (Phase.all.find? fun p => p.trail = d.trail.map fun t => (t.1.eventType, t.2)).getD .absent

theorem Saga.phase_eq {p : Phase} {d : Dossier} (h : Saga p d) : d.phase = p := by
  unfold Dossier.phase
  rw [h.trail_eq]
  cases p <;> decide

/-- The shop a database stands for. -/
def Database.shop (db : Database) : Shop String String where
  shelf sku := (db.findInventoryItem sku).map (·.quantityAvailable)
  lines id := (db.itemsOf id).map fun row => (row.sku, row.quantity)
  phase id := (db.dossier id).phase

/-- What an order's lines ask for is what its payload asks for. -/
theorem asked_lines (sku : String) (items : List OrderItem) :
    asked sku (items.map fun row => (row.sku, row.quantity)) = demand sku (linesOf items) := by
  rw [demand_linesOf]
  unfold asked
  rw [List.filter_map, List.map_map]
  rfl

/-- The check of a reservation is the shop's. -/
theorem stocks_iff_covers (db : Database) (items : List OrderItem) :
    db.stocks (linesOf items) = true
      ↔ db.shop.Covers (items.map fun row => (row.sku, row.quantity)) := by
  have hline : ∀ row : OrderItem, db.stocksLine row.line = true
      ↔ ∃ n ∈ db.shop.shelf row.sku, row.quantity ≤ n := by
    intro row
    show (true && true && (db.findInventoryItem row.sku).any
      fun item => decide (row.quantity ≤ item.quantityAvailable)) = true ↔ _
    show _ ↔ ∃ n ∈ (db.findInventoryItem row.sku).map (·.quantityAvailable), row.quantity ≤ n
    cases db.findInventoryItem row.sku <;> simp
  unfold Database.stocks linesOf Shop.Covers
  rw [List.all_map, List.all_eq_true, List.forall_mem_map]
  exact forall₂_congr fun row _ => hline row

/-- Stock moved by a payload's lines is the shelf moved by them. -/
theorem shelf_moveAll (sign : Int) (lines : List Dict) (db : Database) (sku : String) :
    (db.moveAll sign lines).shop.shelf sku
      = (db.shop.shelf sku).map (· + sign * demand sku lines) := by
  rw [moveAll_eq]
  show ((db.inventoryItems.map fun row => row.restocked (sign * demand row.sku lines)).find?
      (·.sku = sku)).map (·.quantityAvailable)
    = ((db.inventoryItems.find? (·.sku = sku)).map (·.quantityAvailable)).map
        (· + sign * demand sku lines)
  rw [List.find?_map]
  show ((db.inventoryItems.find? (·.sku = sku)).map _).map _ = _
  cases hfind : db.inventoryItems.find? (·.sku = sku) with
  | none => rfl
  | some row =>
      have hsku : row.sku = sku := by simpa using List.find?_some hfind
      show some (row.quantityAvailable + sign * demand row.sku lines) = _
      rw [hsku]
      rfl

/-- Deliveries, keys and copies of refusals are nothing the shop knows of. -/
theorem shop_congr {db db' : Database} (inventory : db'.inventoryItems = db.inventoryItems)
    (items : db'.orderItems = db.orderItems)
    (trail : ∀ id, (db'.dossier id).trail = (db.dossier id).trail) : db'.shop = db.shop := by
  unfold Database.shop Database.findInventoryItem Database.itemsOf Dossier.phase
  simp only [inventory, items, trail]

/-! ## §3. Commits are actions. -/

/-- What a call may do in the shop.  Which step a delivery takes its order is
for the shop to say. -/
inductive Does (db : Database) : Call → Action String String → Prop where
  | stock (payload : InventoryItemCreate) :
      Does db (.createInventoryItem payload) (.stock payload.sku payload.quantityAvailable)
  | place (payload : OrderCreate) (id : String) :
      Does db (.createOrder payload) (.place id (payload.items.map (·.line)))
  | advance {call : Call} {event : OutboxEvent} (delivering : Delivering db call event)
      (waiting : (db.shop.phase event.aggregateId).waiting = some event.eventType) (sign : Int)
      (next : Phase) : Does db call (.advance event.aggregateId sign next)

/-- The commit is an action of the shop that the call may do, or none. -/
def Acts (call : Call) (db db' : Database) : Prop :=
  db'.shop = db.shop
    ∨ ∃ action, Does db call action ∧ db.shop.Can action ∧ db'.shop = db.shop.act action

/-- A new row of the inventory. -/
theorem acts_stocked {db : Database} (payload : InventoryItemCreate) (id : String)
    (createdAt : DateTime) (keyed : (db.addInventoryItem (payload.row id createdAt)).Keyed) :
    Acts (.createInventoryItem payload) db (db.addInventoryItem (payload.row id createdAt)) := by
  have hskus : ((db.inventoryItems ++ [payload.row id createdAt]).map (·.sku)).Nodup := keyed.skus
  have hnone : db.inventoryItems.find? (·.sku = payload.sku) = none := by
    rw [List.find?_eq_none]
    intro row mem hsku
    exact fresh_of_nodup hskus row mem (of_decide_eq_true hsku)
  refine .inr ⟨_, .stock payload, ⟨?_, payload.quantityAvailable_ge⟩, ?_⟩
  · show (db.inventoryItems.find? (·.sku = payload.sku)).map _ = none
    rw [hnone]
    rfl
  · apply Shop.ext
    · funext sku
      show ((db.inventoryItems ++ [payload.row id createdAt]).find? (·.sku = sku)).map _
        = Function.update db.shop.shelf payload.sku (some payload.quantityAvailable) sku
      rw [List.find?_append]
      by_cases hsku : sku = payload.sku
      · subst hsku
        rw [hnone, Function.update_self, List.find?_cons_of_pos (by simp [InventoryItemCreate.row])]
        rfl
      · -- another SKU: the new row is not its row
        have hother : [payload.row id createdAt].find? (·.sku = sku) = none := by
          rw [List.find?_eq_none]
          simpa [InventoryItemCreate.row] using Ne.symm hsku
        rw [Function.update_of_ne hsku, hother, Option.or_none]
        rfl
    · rfl
    · rfl

/-- The lines of an order are those of its request. -/
theorem lines_copies {db : Database} {orderId : String} {lines : List PricedLine}
    {items : List OrderItem} (copies : List.Forall₂ (OrderItem.Copies orderId) lines items)
    (found : ∀ line ∈ lines, db.findInventoryItem line.1.sku = some line.2) :
    items.map (fun row => (row.sku, row.quantity)) = (lines.map Prod.fst).map (·.line) := by
  induction copies with
  | nil => rfl
  | @cons line row lines items hcopy _ ih =>
      have hrest := ih fun l hl => found l (List.mem_cons_of_mem _ hl)
      have hsku : line.2.sku = line.1.sku := by
        simpa using List.find?_some (found line List.mem_cons_self)
      rw [List.map_cons, List.map_cons, List.map_cons, hrest, hcopy.2.1, hcopy.2.2.1, hsku]
      rfl

/-- A new order. -/
theorem acts_ordered {db : Database} (inv : SagaInv db) {payload : OrderCreate} {order : Order}
    {items : List OrderItem} {new : OutboxEvent} (placed : Placed db payload order items new)
    (keyed : ((db.addOrder order items).addOutboxEvent new).Keyed) :
    Acts (.createOrder payload) db ((db.addOrder order items).addOutboxEvent new) := by
  have hopened := ordered_opened inv.toFiled placed keyed
  have hitems := itemsOf_placed inv.keyed.orderItemsOrders placed keyed
  obtain ⟨lines, correlationId, eventId, occurredAt, hfst, hfound, hcopies, -⟩ := placed.event
  have hlines : items.map (fun row => (row.sku, row.quantity)) = payload.items.map (·.line) := by
    rw [lines_copies hcopies hfound, hfst]
  refine .inr ⟨_, .place payload order.id, ⟨?_, ?_, ?_⟩, ?_⟩
  -- its identifier is new
  · show (db.dossier order.id).phase = .absent
    rw [dossier_absent inv.toFiled hopened.fresh]
    rfl
  -- an accepted request has lines
  · intro hnil
    have hlength := payload.items_length
    rw [List.map_eq_nil_iff.mp hnil] at hlength
    exact absurd hlength (by decide)
  -- their quantities are positive, and their SKUs were looked up
  · intro line hline
    rw [← hfst, List.map_map] at hline
    obtain ⟨priced, hpriced, rfl⟩ := List.mem_map.mp hline
    refine ⟨priced.1.quantity_gt, ?_⟩
    show ((db.findInventoryItem priced.1.sku).map _).isSome = true
    rw [hfound priced hpriced]
    rfl
  · apply Shop.ext
    · rfl
    · funext id
      show (((db.addOrder order items).addOutboxEvent new).itemsOf id).map _
        = Function.update db.shop.lines order.id (payload.items.map (·.line)) id
      by_cases hid : id = order.id
      · subst hid
        rw [Function.update_self, hitems, hlines]
      · rw [Function.update_of_ne hid]
        exact congrArg (fun d : Dossier => d.items.map fun row => (row.sku, row.quantity))
          (hopened.others id hid)
    · funext id
      show (((db.addOrder order items).addOutboxEvent new).dossier id).phase
        = Function.update db.shop.phase order.id .placed id
      by_cases hid : id = order.id
      · subst hid
        rw [Function.update_self, hopened.saga.phase_eq]
      · rw [Function.update_of_ne hid, hopened.others id hid]
        rfl

/-- The shop after a handled event. -/
theorem Advance.shop {db db' : Database} {event : OutboxEvent} (h : Advance db db' event)
    {sign : Int} {p' : Phase} (after : Saga p' (db'.dossier event.aggregateId))
    (stock : db'.inventoryItems
      = (db.moveAll sign (linesOf (db.dossier event.aggregateId).items)).inventoryItems) :
    db'.shop = db.shop.act (.advance event.aggregateId sign p') := by
  apply Shop.ext
  · funext sku
    show (db'.inventoryItems.find? (·.sku = sku)).map (·.quantityAvailable)
      = (db.shop.shelf sku).map (· + sign * asked sku (db.shop.lines event.aggregateId))
    rw [stock]
    exact (shelf_moveAll sign _ db sku).trans (by rw [← asked_lines]; rfl)
  · funext id
    show (db'.orderItems.filter (·.orderId = id)).map _ = (db.itemsOf id).map _
    rw [h.items]
    rfl
  · funext id
    show (db'.dossier id).phase = Function.update db.shop.phase event.aggregateId p' id
    by_cases hid : id = event.aggregateId
    · subst hid
      rw [Function.update_self, after.phase_eq]
    · rw [Function.update_of_ne hid, h.others id hid]
      rfl

/-- What a reservation checked is what the shop asks for. -/
theorem reserved_iff_covers {db : Database} {id : String} {p' : Phase}
    (h : db.stocks (linesOf (db.dossier id).items) = decide (p' = .reserved)) :
    p' = .reserved ↔ db.shop.Covers (db.shop.lines id) := by
  have hcovers := stocks_iff_covers db (db.dossier id).items
  rw [h, decide_eq_true_iff] at hcovers
  exact hcovers

/-- A handled event. -/
theorem Advance.acts {call : Call} {db db' : Database} {event : OutboxEvent}
    (h : Advance db db' event) (delivering : Delivering db call event) : Acts call db db' := by
  obtain ⟨p, sign, p', waiting, hp, hp', hstep, hstock, hchecked⟩ := h.step
  have hphase : db.shop.phase event.aggregateId = p := hp.phase_eq
  refine .inr ⟨.advance event.aggregateId sign p', .advance delivering ?_ sign p', ⟨?_, ?_⟩,
    h.shop hp' hstock⟩
  · rw [hphase]
    exact waiting
  · rw [hphase]
    exact hstep
  · intro hplaced
    exact reserved_iff_covers (hchecked (hphase.symm.trans hplaced))

theorem Publish.shop {call : Call} {db db' : Database} (h : Publish call db db') :
    db'.shop = db.shop := by
  have hdossier := fun id => congrArg Dossier.trail (h.dossier id)
  cases h with
  | published publishedAt => exact shop_congr rfl rfl hdossier

/-- **The step lemma**: a commit is one action of the shop, or none. -/
theorem Commit.shop {call : Call} {db db' : Database} (inv : SagaInv db)
    (h : Commit call db db') : Acts call db db' := by
  cases h with
  | @stocked payload id createdAt called keyed =>
      subst called
      exact acts_stocked payload id createdAt keyed
  | ordered called placed keyed =>
      subst called
      exact acts_ordered inv placed keyed
  | @handled event envelope consumer policy paymentFails db₁ processedAt called mem pending valid
      routed fresh handled keyed =>
      have hfresh := (consumed_of_routed routed).trans fresh
      exact (handled_advance inv mem valid routed fresh handled keyed).acts
        ⟨⟨policy, paymentFails, called⟩, mem, pending, hfresh⟩
  | published h => exact .inl h.shop
  | @attempted event policy paymentFails error stamp called mem pending unrouted keyed =>
      -- bookkeeping of the dispatcher
      obtain ⟨_, _, _, h⟩ := attemptFailed_delivery (sagaHandlers paymentFails) policy event error
        stamp db
      refine .inl (shop_congr ?_ ?_ fun id => ?_)
      · rw [h]
      · rw [h]
      · rw [dossier_attemptFailed]
  | @replayed row id occurredAt replayedAt called mem once id_ne keyed =>
      -- only refusals die, and a copy of one is no step of its order
      obtain ⟨event, hevent, refusal, hdraft⟩ := inv.deadLetters row mem
      have hrefusal : (row.draft.row id occurredAt).isRefusal = true := by
        rw [← hdraft]
        exact refusal
      refine .inl (shop_congr rfl rfl fun id' => ?_)
      rw [dossier_updateDeadLetter]
      by_cases hid : (row.draft.row id occurredAt).aggregateId = id'
      · rw [dossier_addOutboxEvent_refusal hid hrefusal]
      · rw [dossier_addOutboxEvent_ne hid]

/-- An arrival is one action of the shop, or none. -/
theorem Arrived.shop {call : Call} {db db' : Database} (inv : SagaInv db)
    (h : Arrived call db db') : Acts call db db' := by
  obtain ⟨before, after, db₁, hbefore, heffect, -, rfl⟩ := h
  have hacts : Acts call (db.withKeys before) db₁ := by
    have inv' := inv_withKeys inv hbefore
    -- one commit, or the two of a delivery, where only the first is an action
    cases heffect with
    | idle => exact .inl rfl
    | commit h => exact h.shop inv'
    | publish h₁ h₂ =>
        have hfirst := h₁.shop inv'
        unfold Acts at hfirst ⊢
        rw [h₂.shop]
        exact hfirst
  -- the table of keys is nothing the shop knows of
  rcases hacts with hsame | ⟨action, hdoes, hcan, hact⟩
  · exact .inl hsame
  · refine .inr ⟨action, ?_, hcan, hact⟩
    cases hdoes with
    | stock payload => exact .stock payload
    | place payload id => exact .place payload id
    | @advance _ event delivering waiting sign next =>
        have hdelivering : Delivering db call event :=
          ⟨delivering.called, delivering.mem, delivering.pending, delivering.fresh⟩
        exact .advance hdelivering waiting sign next

/-! ## §4. Runs. -/

/-- **The system refines the shop.**  Whatever arrives, in whatever order,
with any crashes, rejected statements, redeliveries, retries and replays: the
arrivals that change anything a shop knows of are one action of it each, all
possible when they are done, and what they lead to is what the database shows.
An order has seen as many of them as its phase is deep. -/
theorem shop_refined (arrivals : List Arrival) :
    ∃ actions, Performs arrive (fun db arrival => Does db arrival.call) Database.empty arrivals
        actions
      ∧ Along Shop.act Shop.Can actions Shop.empty
      ∧ run Shop.act actions Shop.empty = (arriveAll arrivals Database.empty).shop
      ∧ (∀ id, (actions.filter (·.order? = some id)).length
          = ((arriveAll arrivals Database.empty).shop.phase id).depth)
      ∧ ∀ order ∈ (arriveAll arrivals Database.empty).orders,
          ((arriveAll arrivals Database.empty).shop.phase order.id).status = some order.status := by
  have inv := arriveAll_inv arrivals stocked_empty.inv
  obtain ⟨actions, hperforms, hcan, hrun⟩ : ∃ actions,
      Performs arrive (fun db arrival => Does db arrival.call) Database.empty arrivals actions
        ∧ Along Shop.act Shop.Can actions Shop.empty
        ∧ run Shop.act actions Shop.empty = (arriveAll arrivals Database.empty).shop :=
    run_refines (fun db arrival inv => arrived_inv inv (arrive_effect inv arrival))
      (fun db arrival inv => (arrive_effect inv arrival).shop inv) arrivals Database.empty
      stocked_empty.inv
  refine ⟨actions, hperforms, hcan, hrun, fun id => ?_, fun order mem => ?_⟩
  -- no order had seen any at the start
  · have hdepth := run_depth id actions Shop.empty hcan
    rw [hrun] at hdepth
    rw [hdepth]
    exact (Nat.zero_add _).symm
  · obtain ⟨p, hp, hstatus⟩ := inv.phase_of_order mem
    show ((arriveAll arrivals Database.empty).dossier order.id).phase.status = _
    rw [hp.phase_eq]
    exact hstatus

end EventCart
