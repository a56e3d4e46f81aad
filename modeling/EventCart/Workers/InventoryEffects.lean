/-
  EventCart.Workers.InventoryEffects
  ──────────────────────────────────
  **WHAT THE INVENTORY WORKER DOES TO THE STOCK**, on every payload.

  A line is read through two total functions, `lineSku` and `lineQuantity`;
  which lines have a SKU and an integer quantity is what the code's exceptions
  are about.  The results:

    • `moveStock_apply`        — the stock loops, including the stock they
                                 leave behind when a quantity is no integer,
    • `loadInventoryItems_ok`, `ensureInventoryAvailable_iff`
                               — the checking pass is `Database.stocks`,
    • `reserveInventory_ok`, `releaseInventory_ok`
                               — what a returned handler body wrote,
    • `moveAll_quantity`       — per SKU, the loops add up the lines naming it.
-/
import EventCart.Effects
import EventCart.Orders
import EventCart.Workers.Inventory
import Mathlib.Data.List.Dedup

namespace EventCart

open EventCart.Lib
open EventCart.Lib.Tx

/-! ## §1. Lines. -/

/-- `str(item["sku"])`, where it exists. -/
def lineSku (line : Dict) : String := ((line.get? "sku").map Json.pyStr).getD ""

def hasSku (line : Dict) : Bool := (line.get? "sku").isSome

/-- The integer under `"quantity"`, where there is one. -/
def lineQuantity (line : Dict) : Int := ((line.get? "quantity").bind Json.int?).getD 0

def hasQuantity (line : Dict) : Bool := ((line.get? "quantity").bind Json.int?).isSome

theorem strItem_sku_of_has {line : Dict} (h : hasSku line = true) :
    strItem line "sku" = .ok (lineSku line) := by
  unfold hasSku at h
  unfold strItem item lineSku
  cases hg : line.get? "sku" with
  | none => simp [hg] at h
  | some value => rfl

theorem strItem_sku_of_not {line : Dict} (h : hasSku line = false) :
    strItem line "sku" = .error (.keyError "sku") := by
  unfold hasSku at h
  unfold strItem item
  cases hg : line.get? "sku" with
  | none => rfl
  | some value => simp [hg] at h

/-- The exception of `_quantity`. -/
def quantityError : PyError :=
  .inventoryReservationError "OrderCreated item quantity must be an integer."

theorem quantity_of_has {line : Dict} (h : hasQuantity line = true) :
    ∃ q, quantity line = .ok q ∧ q.num = lineQuantity line := by
  unfold hasQuantity at h
  unfold quantity lineQuantity
  cases hg : line.get? "quantity" with
  | none => simp [hg] at h
  | some value =>
      cases hv : value.int? with
      | none => simp [hg, hv] at h
      | some num =>
          refine ⟨⟨value, num, hv⟩, ?_, by simp [hv]⟩
          dsimp only
          split
          next hn => simp [hn] at hv
          next num' hn =>
            rw [hn, Option.some.injEq] at hv
            subst hv
            rfl

theorem quantity_of_not {line : Dict} (h : hasQuantity line = false) :
    quantity line = .error quantityError := by
  unfold hasQuantity at h
  unfold quantity
  cases hg : line.get? "quantity" with
  | none => rfl
  | some value =>
      dsimp only
      split
      next => rfl
      next num hn => simp [hg, hn] at h

/-! ## §2. The stock loops. -/

/-- The stock with every line added, `sign` times its quantity. -/
def Database.moveAll (sign : Int) (lines : List Dict) (db : Database) : Database :=
  lines.foldl (fun db line => db.addStock (lineSku line) (sign * lineQuantity line)) db

/-- What the lines naming a SKU add up to. -/
def demand (sku : String) (lines : List Dict) : Int :=
  ((lines.filter (lineSku · = sku)).map lineQuantity).sum

theorem demand_cons (sku : String) (line : Dict) (lines : List Dict) :
    demand sku (line :: lines)
      = (if lineSku line = sku then lineQuantity line else 0) + demand sku lines := by
  unfold demand
  by_cases h : lineSku line = sku
  · simp [h]
  · simp [h]

/-- A row with `amount` more in stock. -/
def InventoryItem.restocked (amount : Int) (row : InventoryItem) : InventoryItem :=
  { row with quantityAvailable := row.quantityAvailable + amount }

theorem restocked_zero (row : InventoryItem) : row.restocked 0 = row := by
  unfold InventoryItem.restocked
  rw [Int.add_zero]

/-- **The stock loops in closed form**: every row moves by what the lines
naming its SKU add up to, whether the lines share a SKU or not. -/
theorem moveAll_eq (sign : Int) :
    ∀ (lines : List Dict) (db : Database),
      db.moveAll sign lines =
        { db with inventoryItems :=
            db.inventoryItems.map fun row => row.restocked (sign * demand row.sku lines) } := by
  intro lines
  induction lines with
  | nil =>
      intro db
      have : (fun row : InventoryItem => row.restocked (sign * demand row.sku [])) = id := by
        funext row
        show row.restocked (sign * 0) = row
        rw [Int.mul_zero, restocked_zero]
      rw [this, List.map_id]
      rfl
  | cons line lines ih =>
      intro db
      show (db.addStock (lineSku line) (sign * lineQuantity line)).moveAll sign lines = _
      rw [ih]
      unfold Database.addStock update
      rw [List.map_map]
      congr 1
      apply List.map_congr_left
      intro row _
      rw [demand_cons]
      by_cases h : row.sku = lineSku line
      · simp only [Function.comp_apply, InventoryItem.restocked, h, if_true, Int.mul_add,
          Int.add_assoc]
      · simp only [Function.comp_apply, h, Ne.symm h, if_false, Int.zero_add]

theorem skus_moveAll (sign : Int) (lines : List Dict) (db : Database) :
    (db.moveAll sign lines).inventoryItems.map (·.sku) = db.inventoryItems.map (·.sku) := by
  rw [moveAll_eq]
  show (db.inventoryItems.map _).map _ = _
  rw [List.map_map]
  rfl

/-- Moving stock leaves the declared keys alone. -/
theorem keyed_moveAll {db : Database} (keyed : db.Keyed) (sign : Int) (lines : List Dict) :
    (db.moveAll sign lines).Keyed := by
  have hids : (db.moveAll sign lines).inventoryItems.map (·.id)
      = db.inventoryItems.map (·.id) := by
    rw [moveAll_eq]
    show (db.inventoryItems.map _).map _ = _
    rw [List.map_map]
    rfl
  have hskus := skus_moveAll sign lines db
  rw [moveAll_eq] at hids hskus ⊢
  exact { keyed with
    inventoryItems := hids ▸ keyed.inventoryItems
    skus := hskus ▸ keyed.skus }

/-- The lines before the first one without an integer quantity. -/
def goodLines (lines : List Dict) : List Dict := lines.takeWhile hasQuantity

theorem inventoryItem_of_find {rows : List InventoryItem} {sku : String} {row : InventoryItem}
    (h : rows.find? (·.sku = sku) = some row) : inventoryItem rows sku = .ok row := by
  unfold inventoryItem
  rw [h]

theorem moveLine_of_has {sign : Int} {rows : List InventoryItem} {line : Dict}
    {row : InventoryItem} (hs : hasSku line = true) (hq : hasQuantity line = true)
    (hrow : rows.find? (·.sku = lineSku line) = some row) (s : Session Database) :
    moveLine sign rows line s
      = .ok () (s.goto (s.working.addStock (lineSku line) (sign * lineQuantity line)) s.tick) := by
  obtain ⟨q, hq, hnum⟩ := quantity_of_has hq
  have hsku : row.sku = lineSku line := by simpa using List.find?_some hrow
  unfold moveLine
  rw [ofExcept_bind_ok (strItem_sku_of_has hs), ofExcept_bind_ok hq,
    ofExcept_bind_ok (inventoryItem_of_find hrow), write_apply, hsku, hnum]

theorem moveLine_of_not {sign : Int} {rows : List InventoryItem} {line : Dict}
    (hs : hasSku line = true) (hq : hasQuantity line = false) (s : Session Database) :
    moveLine sign rows line s = .error (.raised quantityError) s := by
  unfold moveLine
  rw [ofExcept_bind_ok (strItem_sku_of_has hs), ofExcept_bind_error (quantity_of_not hq),
    raise_apply]

/-- **The stock loops on every list of lines**, once the rows are loaded: all
lines are moved, or the ones before the first line without an integer
quantity are, and the exception leaves them moved. -/
theorem moveStock_apply (sign : Int) (rows : List InventoryItem) :
    ∀ (lines : List Dict) (s : Session Database),
      (∀ line ∈ lines, hasSku line = true
        ∧ ∃ row, rows.find? (·.sku = lineSku line) = some row) →
      moveStock sign rows lines s
        = if lines.all hasQuantity then
            .ok () (s.goto (s.working.moveAll sign lines) s.tick)
          else .error (.raised quantityError)
            (s.goto (s.working.moveAll sign (goodLines lines)) s.tick) := by
  intro lines
  induction lines with
  | nil => intro s _; rfl
  | cons line lines ih =>
      intro s h
      obtain ⟨hs, row, hrow⟩ := h line List.mem_cons_self
      have ih := fun t => ih t fun l hl => h l (List.mem_cons_of_mem _ hl)
      show (moveLine sign rows line >>= fun _ => moveStock sign rows lines) s = _
      cases hq : hasQuantity line with
      | true =>
          rw [bind_of_ok (moveLine_of_has hs hq hrow s), ih]
          simp only [goto_working, goto_goto, goto_tick, List.all_cons, hq, Bool.true_and,
            goodLines, List.takeWhile_cons, if_true]
          rfl
      | false =>
          rw [bind_of_error (moveLine_of_not hs hq s)]
          simp only [List.all_cons, hq, Bool.false_and, Bool.false_eq_true, if_false,
            goodLines, List.takeWhile_cons]
          rfl

/-! ## §3. The checking pass. -/

/-- Every line has a SKU that is on sale. -/
def Database.knows (lines : List Dict) (db : Database) : Bool :=
  lines.all fun line => hasSku line && (db.findInventoryItem (lineSku line)).isSome

/-- One line passes the checks of a reservation: its SKU is on sale, its
quantity is an integer and no more than the row has. -/
def Database.stocksLine (db : Database) (line : Dict) : Bool :=
  hasSku line && hasQuantity line
    && (db.findInventoryItem (lineSku line)).any fun row =>
        lineQuantity line ≤ row.quantityAvailable

/-- Every line passes the checks of a reservation, each by itself. -/
def Database.stocks (lines : List Dict) (db : Database) : Bool := lines.all db.stocksLine

theorem mapM_strItem_sku :
    ∀ {lines : List Dict}, (∀ line ∈ lines, hasSku line = true) →
      lines.mapM (strItem · "sku") = .ok (lines.map lineSku)
  | [], _ => rfl
  | line :: lines, h => by
      rw [List.mapM_cons, strItem_sku_of_has (h line List.mem_cons_self),
        mapM_strItem_sku fun l hl => h l (List.mem_cons_of_mem _ hl)]
      rfl

theorem mapM_strItem_sku_of_not :
    ∀ {lines : List Dict}, (∃ line ∈ lines, hasSku line = false) →
      lines.mapM (strItem · "sku") = .error (.keyError "sku")
  | [], h => by simp at h
  | line :: lines, h => by
      rw [List.mapM_cons]
      cases hs : hasSku line with
      | false => rw [strItem_sku_of_not hs]; rfl
      | true =>
          have : ∃ l ∈ lines, hasSku l = false := by
            obtain ⟨l, hl, hf⟩ := h
            rcases List.mem_cons.mp hl with rfl | hl
            · simp [hs] at hf
            · exact ⟨l, hl, hf⟩
          rw [strItem_sku_of_has hs, mapM_strItem_sku_of_not this]
          rfl

/-- Loading by SKU finds the row the table has. -/
theorem find_itemsIn {skus : List String} {sku : String} (h : sku ∈ skus) (db : Database) :
    (db.itemsIn skus).find? (·.sku = sku) = db.findInventoryItem sku := by
  unfold Database.itemsIn Database.findInventoryItem
  rw [List.find?_filter]
  congr 1
  funext row
  by_cases hr : row.sku = sku
  · subst hr; simp [h]
  · simp [hr]

theorem missingSkus_eq_nil_iff {skus : List String} {rows : List InventoryItem} :
    missingSkus skus rows = [] ↔ ∀ sku ∈ skus, (rows.find? (·.sku = sku)).isSome := by
  unfold missingSkus
  rw [← List.length_eq_zero_iff, List.length_insertionSort, List.length_eq_zero_iff,
    List.filter_eq_nil_iff]
  simp only [List.mem_dedup, Bool.not_eq_true', Bool.not_eq_false, List.any_eq_true,
    decide_eq_true_eq, List.find?_isSome]

/-- What `_load_inventory_items` reads. -/
def Database.loaded (lines : List Dict) (db : Database) : List InventoryItem :=
  db.itemsIn (lines.map lineSku)

theorem loaded_find {lines : List Dict} {line : Dict} (h : line ∈ lines) (db : Database) :
    (db.loaded lines).find? (·.sku = lineSku line) = db.findInventoryItem (lineSku line) :=
  find_itemsIn (List.mem_map_of_mem h) db

/-- The three ways `_load_inventory_items` ends, by the lines alone: a line
without a SKU, an unknown SKU, or the loaded rows. -/
theorem loadInventoryItems_eq (lines : List Dict) :
    loadInventoryItems lines =
      if lines.all hasSku then do
        let rows ← query (·.loaded lines)
        match missingSkus (lines.map lineSku) rows with
        | [] => return rows
        | sku :: _ =>
            raise (.inventoryReservationError
              ("Inventory item not found for SKU " ++ Json.reprStr sku ++ "."))
      else raise (.keyError "sku") := by
  unfold loadInventoryItems
  by_cases h : lines.all hasSku = true
  · rw [if_pos h, mapM_strItem_sku (by simpa [List.all_eq_true] using h)]
    rfl
  · rw [if_neg h, mapM_strItem_sku_of_not (by simpa [List.all_eq_true] using h)]
    rfl

theorem loadInventoryItems_ok {lines : List Dict} {s t : Session Database}
    {rows : List InventoryItem} (h : loadInventoryItems lines s = .ok rows t) :
    s.working.knows lines = true ∧ rows = s.working.loaded lines
      ∧ ∃ n, t = s.goto s.working n := by
  rw [loadInventoryItems_eq] at h
  split at h
  next hs =>
    obtain ⟨rows', u, hu, h⟩ := bind_eq_ok.mp h
    obtain ⟨rfl, n, rfl⟩ := query_ok hu
    cases hm : missingSkus (lines.map lineSku) (s.working.loaded lines) with
    | nil =>
        simp only [hm, pure_apply, EStateM.Result.ok.injEq] at h
        obtain ⟨rfl, rfl⟩ := h
        refine ⟨?_, rfl, n, rfl⟩
        rw [missingSkus_eq_nil_iff] at hm
        rw [List.all_eq_true] at hs
        refine List.all_eq_true.mpr fun line hl => ?_
        have := hm _ (List.mem_map_of_mem hl)
        rw [loaded_find hl] at this
        rw [hs line hl, this]
        rfl
    | cons sku skus => simp [hm] at h
  next => simp at h

/-- Every line has a SKU, and the loaded rows have it. -/
theorem knows_iff {lines : List Dict} {db : Database} :
    db.knows lines = true ↔ ∀ line ∈ lines, hasSku line = true
      ∧ ∃ row, db.findInventoryItem (lineSku line) = some row := by
  unfold Database.knows
  rw [List.all_eq_true]
  refine forall_congr' fun line => forall_congr' fun _ => ?_
  rw [Bool.and_eq_true, Option.isSome_iff_exists]

/-- One round of the checking loop passes, or raises the exception the
reservation catches. -/
theorem ensureLine_eq {lines : List Dict} {line : Dict} {db : Database} (hl : line ∈ lines)
    (hk : db.knows lines = true) :
    if db.stocksLine line = true then ensureLine (db.loaded lines) line = .ok ()
    else ∃ reason, ensureLine (db.loaded lines) line
      = .error (.inventoryReservationError reason) := by
  obtain ⟨hs, row, hrow⟩ := knows_iff.mp hk line hl
  have hfind := inventoryItem_of_find ((loaded_find hl db).trans hrow)
  unfold ensureLine Database.stocksLine
  rw [strItem_sku_of_has hs, hrow, hs]
  cases hq : hasQuantity line with
  | false =>
      rw [quantity_of_not hq]
      exact ⟨_, rfl⟩
  | true =>
      obtain ⟨q, hq', hnum⟩ := quantity_of_has hq
      simp only [hq', bind, Except.bind, hfind, hnum, Bool.true_and, Option.any_some,
        decide_eq_true_eq]
      split
      next h => rw [if_neg (by omega)]
      next h => exact ⟨_, if_pos (by omega)⟩

theorem ensureInventoryAvailable_eq {lines : List Dict} {db : Database}
    (hk : db.knows lines = true) :
    ∀ rest : List Dict, rest ⊆ lines →
      if db.stocks rest = true then ensureInventoryAvailable (db.loaded lines) rest = .ok ()
      else ∃ reason, ensureInventoryAvailable (db.loaded lines) rest
        = .error (.inventoryReservationError reason) := by
  intro rest
  induction rest with
  | nil => intro _; exact rfl
  | cons line rest ih =>
      intro hsub
      obtain ⟨hl, hrest⟩ := List.cons_subset.mp hsub
      have hline := ensureLine_eq hl hk
      have ih := ih hrest
      unfold Database.stocks at ih ⊢
      rw [List.all_cons]
      cases hb : db.stocksLine line with
      | false =>
          rw [hb] at hline
          obtain ⟨reason, hr⟩ := hline
          refine ⟨reason, ?_⟩
          simp only [ensureInventoryAvailable, hr, bind, Except.bind]
      | true =>
          rw [hb, if_pos rfl] at hline
          simp only [ensureInventoryAvailable, hline, bind, Except.bind, Bool.true_and]
          exact ih

/-- Lines that pass the checks are known. -/
theorem knows_of_stocks {lines : List Dict} {db : Database} (h : db.stocks lines = true) :
    db.knows lines = true := by
  rw [knows_iff]
  intro line hl
  have := List.all_eq_true.mp h line hl
  unfold Database.stocksLine at this
  simp only [Bool.and_eq_true, Option.any_eq_true] at this
  obtain ⟨⟨hs, _⟩, row, hrow, _⟩ := this
  exact ⟨hs, row, hrow⟩

theorem hasQuantity_of_stocks {lines : List Dict} {db : Database} (h : db.stocks lines = true) :
    lines.all hasQuantity = true := by
  rw [List.all_eq_true]
  intro line hl
  have := List.all_eq_true.mp h line hl
  unfold Database.stocksLine at this
  simp only [Bool.and_eq_true] at this
  exact this.1.2

/-! ## §4. The handler bodies. -/

theorem missingSkus_of_known {lines : List Dict} {db : Database} (hk : db.knows lines = true) :
    missingSkus (lines.map lineSku) (db.loaded lines) = [] := by
  rw [missingSkus_eq_nil_iff]
  intro sku hsku
  obtain ⟨line, hl, rfl⟩ := List.mem_map.mp hsku
  obtain ⟨-, row, hrow⟩ := knows_iff.mp hk line hl
  rw [loaded_find hl, hrow]
  rfl

theorem loadInventoryItems_of_known {lines : List Dict} {s t : Session Database}
    (hk : s.working.knows lines = true) (hst : (statement : App Unit) s = .ok () t) :
    loadInventoryItems lines s = .ok (s.working.loaded lines) t := by
  have hs : lines.all hasSku = true :=
    List.all_eq_true.mpr fun line hl => (knows_iff.mp hk line hl).1
  rw [loadInventoryItems_eq, if_pos hs, bind_of_ok (query_of_statement hst),
    missingSkus_of_known hk]
  rfl

theorem loadInventoryItems_of_unknown {lines : List Dict} {s t : Session Database}
    (hs : lines.all hasSku = true) (hk : s.working.knows lines = false)
    (hst : (statement : App Unit) s = .ok () t) :
    ∃ reason, loadInventoryItems lines s
      = .error (.raised (.inventoryReservationError reason)) t := by
  rw [loadInventoryItems_eq, if_pos hs, bind_of_ok (query_of_statement hst)]
  cases hm : missingSkus (lines.map lineSku) (s.working.loaded lines) with
  | cons sku skus => exact ⟨_, rfl⟩
  | nil =>
      rw [missingSkus_eq_nil_iff] at hm
      have : s.working.knows lines = true := by
        rw [knows_iff]
        intro line hl
        have hsome := hm _ (List.mem_map_of_mem hl)
        rw [loaded_find hl] at hsome
        exact ⟨List.all_eq_true.mp hs line hl, Option.isSome_iff_exists.mp hsome⟩
      rw [this] at hk
      exact absurd hk (by decide)

theorem loadInventoryItems_raised {lines : List Dict} {s t : Session Database}
    {error : PyError} (h : loadInventoryItems lines s = .error (.raised error) t) :
    s.working.knows lines = false ∧ t.working = s.working := by
  rw [loadInventoryItems_eq] at h
  split at h
  next hs =>
    rcases bind_eq_error.mp h with h | ⟨rows, u, hu, h⟩
    · exact absurd h (noRaise_query _ _ _ _)
    · obtain ⟨rfl, n, rfl⟩ := query_ok hu
      cases hm : missingSkus (lines.map lineSku) (s.working.loaded lines) with
      | nil => simp [hm] at h
      | cons sku skus =>
          simp only [hm, raise_apply, EStateM.Result.error.injEq] at h
          refine ⟨?_, by rw [← h.2]; rfl⟩
          by_contra hk
          rw [missingSkus_of_known (by simpa using hk)] at hm
          exact nomatch hm
  next hs =>
    simp only [raise_apply, EStateM.Result.error.injEq] at h
    refine ⟨?_, by rw [← h.2]⟩
    by_contra hk
    rw [Bool.not_eq_false, knows_iff] at hk
    exact hs (List.all_eq_true.mpr fun line hl => (hk line hl).1)

/-- **The checking pass as a whole** is `Database.stocks`, once its SELECT
went through. -/
theorem checkStock_of_statement {lines : List Dict} {s t : Session Database}
    (hs : lines.all hasSku = true) (hst : (statement : App Unit) s = .ok () t) :
    if s.working.stocks lines = true then
      checkStock lines s = .ok (.inr (s.working.loaded lines)) t
    else ∃ reason, checkStock lines s = .ok (.inl reason) t := by
  unfold checkStock
  -- an unknown SKU fails the load, before any quantity is compared
  cases hk : s.working.knows lines with
  | false =>
      have hstocks : s.working.stocks lines ≠ true := fun h => by
        rw [knows_of_stocks h] at hk
        exact absurd hk (by decide)
      rw [if_neg hstocks]
      obtain ⟨reason, hr⟩ := loadInventoryItems_of_unknown hs hk hst
      exact ⟨reason, attempt_of_caught (bind_of_error hr) rfl⟩
  | true =>
      have hload := loadInventoryItems_of_known hk hst
      have hens := ensureInventoryAvailable_eq hk lines (List.Subset.refl _)
      split
      next h =>
        rw [if_pos h] at hens
        refine attempt_of_ok ?_
        rw [bind_of_ok hload, ofExcept_bind_ok hens]
        rfl
      next h =>
        rw [if_neg h] at hens
        obtain ⟨reason, hr⟩ := hens
        have hraise : ((ofExcept (ensureInventoryAvailable (s.working.loaded lines) lines)
            >>= fun _ => (pure (s.working.loaded lines) : App (List InventoryItem))) t)
              = .error (.raised (.inventoryReservationError reason)) t := by
          rw [ofExcept_bind_error hr, raise_apply]
        exact ⟨reason, attempt_of_caught ((bind_of_ok hload).trans hraise) rfl⟩

theorem checkStock_of_statement_error {lines : List Dict} {s t : Session Database}
    {e : Failure PyError} (hs : lines.all hasSku = true)
    (hst : (statement : App Unit) s = .error e t) : checkStock lines s = .error e t := by
  unfold checkStock
  refine attempt_of_uncaught ?_ fun error he => absurd he (statement_error hst error)
  rw [loadInventoryItems_eq, if_pos hs]
  exact bind_of_error (bind_of_error (bind_of_error hst))

theorem checkStock_of_no_sku {lines : List Dict} {s : Session Database}
    (hs : lines.all hasSku = false) :
    checkStock lines s = .error (.raised (.keyError "sku")) s := by
  unfold checkStock
  refine attempt_of_uncaught ?_ fun error he => by
    simp only [Failure.raised.injEq] at he
    rw [← he]
    rfl
  rw [loadInventoryItems_eq, if_neg (by rw [hs]; decide)]
  rfl

/-- A returned checking pass read the rows and changed nothing. -/
theorem checkStock_ok {lines : List Dict} {s t : Session Database}
    {r : String ⊕ List InventoryItem} (h : checkStock lines s = .ok r t) :
    lines.all hasSku = true ∧ (∃ n, t = s.goto s.working n)
      ∧ ((s.working.stocks lines = true ∧ r = .inr (s.working.loaded lines))
        ∨ (s.working.stocks lines = false ∧ ∃ reason, r = .inl reason)) := by
  cases hs : lines.all hasSku with
  | false => rw [checkStock_of_no_sku hs] at h; simp at h
  | true =>
      refine ⟨rfl, ?_⟩
      cases hst : (statement : App Unit) s with
      | error e u => rw [checkStock_of_statement_error hs hst] at h; simp at h
      | ok _ u =>
          have hc := checkStock_of_statement hs hst
          obtain ⟨-, rfl⟩ := statement_ok hst
          split at hc
          next hstocks =>
            rw [hc] at h
            simp only [EStateM.Result.ok.injEq] at h
            exact ⟨⟨_, h.2.symm⟩, .inl ⟨hstocks, h.1.symm⟩⟩
          next hstocks =>
            obtain ⟨reason, hc⟩ := hc
            rw [hc] at h
            simp only [EStateM.Result.ok.injEq] at h
            exact ⟨⟨_, h.2.symm⟩, .inr ⟨by simpa using hstocks, reason, h.1.symm⟩⟩

/-- The rows loaded for known lines have every line's SKU. -/
theorem loaded_has {lines : List Dict} {db : Database} (hk : db.knows lines = true) :
    ∀ line ∈ lines, hasSku line = true
      ∧ ∃ row, (db.loaded lines).find? (·.sku = lineSku line) = some row := by
  intro line hl
  rw [loaded_find hl]
  exact knows_iff.mp hk line hl

/-- The refusal a reservation emits. -/
def refusalDraft (event : EventEnvelope) (orderId reason : String) (lines : List Dict) :
    EventDraft :=
  buildResultEvent event "InventoryReservationFailed" orderId
    [("order_id", .str orderId), ("reason", .str reason), ("items", itemsJson lines)]

/-- The confirmation a reservation emits. -/
def reservedDraft (event : EventEnvelope) (orderId : String) (lines : List Dict) :
    EventDraft :=
  buildResultEvent event "InventoryReserved" orderId
    [("order_id", .str orderId), ("items", itemsJson lines)]

/-- The confirmation a release emits. -/
def releasedDraft (event : EventEnvelope) (orderId : String) (lines : List Dict) :
    EventDraft :=
  buildResultEvent event "InventoryReleased" orderId
    [("order_id", .str orderId), ("payment_id", event.payload.getD "payment_id" .null),
      ("reason", event.payload.getD "reason" .null), ("items", itemsJson lines)]

/-- **A returned reservation** moved every line and confirmed, or moved
nothing and refused; which one is `Database.stocks`. -/
theorem reserveInventory_ok {event : EventEnvelope} {s t : Session Database}
    {new : OutboxEvent} (h : reserveInventory event s = .ok new t) :
    ∃ orderId lines, strItem event.payload "order_id" = .ok orderId
      ∧ payloadItems event.payload = .ok lines
      ∧ ((s.working.stocks lines = true
          ∧ ∃ id occurredAt n, id ≠ ""
            ∧ new = (reservedDraft event orderId lines).row id occurredAt
            ∧ t = s.goto ((s.working.moveAll (-1) lines).addOutboxEvent new) n)
        ∨ (s.working.stocks lines = false
          ∧ ∃ reason id occurredAt n, id ≠ ""
            ∧ new = (refusalDraft event orderId reason lines).row id occurredAt
            ∧ t = s.goto (s.working.addOutboxEvent new) n)) := by
  obtain ⟨orderId, horder, h⟩ := ofExcept_bind_eq_ok.mp h
  obtain ⟨lines, hlines, h⟩ := ofExcept_bind_eq_ok.mp h
  obtain ⟨r, u, hu, h⟩ := bind_eq_ok.mp h
  refine ⟨orderId, lines, horder, hlines, ?_⟩
  obtain ⟨-, ⟨n, rfl⟩, ⟨hstocks, rfl⟩ | ⟨hstocks, reason, rfl⟩⟩ := checkStock_ok hu
  · left
    have hmove := moveStock_apply (-1) (s.working.loaded lines) lines (s.goto s.working n)
      (loaded_has (knows_of_stocks hstocks))
    obtain ⟨_, u, hu, h⟩ := bind_eq_ok.mp h
    rw [if_pos (hasQuantity_of_stocks hstocks), hu] at hmove
    simp only [EStateM.Result.ok.injEq] at hmove
    obtain ⟨-, rfl⟩ := hmove
    obtain ⟨id, at', m, hid, hnew, -, ht⟩ := emit_ok h
    exact ⟨hstocks, id, at', m, hid, hnew, ht⟩
  · right
    obtain ⟨id, at', m, hid, hnew, -, ht⟩ := emit_ok h
    exact ⟨hstocks, reason, id, at', m, hid, hnew, ht⟩

/-- **A returned release** moved every line back. -/
theorem releaseInventory_ok {event : EventEnvelope} {s t : Session Database}
    {new : OutboxEvent} (h : releaseInventory event s = .ok new t) :
    ∃ orderId lines, strItem event.payload "order_id" = .ok orderId
      ∧ payloadItems event.payload = .ok lines
      ∧ s.working.knows lines = true ∧ lines.all hasQuantity = true
      ∧ ∃ id occurredAt n, id ≠ ""
        ∧ new = (releasedDraft event orderId lines).row id occurredAt
        ∧ t = s.goto ((s.working.moveAll 1 lines).addOutboxEvent new) n := by
  obtain ⟨orderId, horder, h⟩ := ofExcept_bind_eq_ok.mp h
  obtain ⟨lines, hlines, h⟩ := ofExcept_bind_eq_ok.mp h
  obtain ⟨rows, u, hu, h⟩ := bind_eq_ok.mp h
  obtain ⟨hk, rfl, n, rfl⟩ := loadInventoryItems_ok hu
  have hmove := moveStock_apply 1 (s.working.loaded lines) lines (s.goto s.working n)
    (loaded_has hk)
  obtain ⟨_, u, hu, h⟩ := bind_eq_ok.mp h
  rw [hu] at hmove
  split at hmove
  next hq =>
    simp only [EStateM.Result.ok.injEq] at hmove
    obtain ⟨-, rfl⟩ := hmove
    obtain ⟨id, at', m, hid, hnew, -, ht⟩ := emit_ok h
    exact ⟨orderId, lines, horder, hlines, hk, hq, id, at', m, hid, hnew, ht⟩
  next => exact nomatch hmove

/-! ## §5. Exceptions and disciplines of the bodies. -/

theorem quiet_loadInventoryItems (lines : List Dict) : Quiet (loadInventoryItems lines) := by
  rw [loadInventoryItems_eq]
  refine quiet_ite ((quiet_query _).bind fun rows => ?_) (quiet_raise _)
  cases missingSkus (lines.map lineSku) rows with
  | nil => exact quiet_pure _
  | cons sku skus => exact quiet_raise _

theorem tidy_loadInventoryItems (lines : List Dict) : Tidy (loadInventoryItems lines) := by
  rw [loadInventoryItems_eq]
  refine tidy_ite ((tidy_query _).bind fun rows => ?_) (tidy_raise _)
  cases missingSkus (lines.map lineSku) rows with
  | nil => exact tidy_pure _
  | cons sku skus => exact tidy_raise _

theorem quiet_moveStock (sign : Int) (rows : List InventoryItem) (lines : List Dict) :
    Quiet (moveStock sign rows lines) :=
  quiet_forM (fun _ => (quiet_ofExcept _).bind fun _ => (quiet_ofExcept _).bind fun _ =>
    (quiet_ofExcept _).bind fun _ => quiet_write _) lines

theorem tidy_moveStock (sign : Int) (rows : List InventoryItem) (lines : List Dict) :
    Tidy (moveStock sign rows lines) :=
  tidy_forM (fun _ => (tidy_ofExcept _).bind fun _ => (tidy_ofExcept _).bind fun _ =>
    (tidy_ofExcept _).bind fun _ => tidy_write _) lines

theorem quiet_reserveInventory (event : EventEnvelope) : Quiet (reserveInventory event) := by
  refine (quiet_ofExcept _).bind fun _ => (quiet_ofExcept _).bind fun lines =>
    (((quiet_loadInventoryItems lines).bind fun _ => (quiet_ofExcept _).bind fun _ =>
      quiet_pure _).attempt).bind fun r => ?_
  cases r with
  | inl reason => exact quiet_emit _
  | inr rows => exact (quiet_moveStock _ _ _).bind fun _ => quiet_emit _

theorem tidy_reserveInventory (event : EventEnvelope) : Tidy (reserveInventory event) := by
  refine (tidy_ofExcept _).bind fun _ => (tidy_ofExcept _).bind fun lines =>
    (((tidy_loadInventoryItems lines).bind fun _ => (tidy_ofExcept _).bind fun _ =>
      tidy_pure _).attempt).bind fun r => ?_
  cases r with
  | inl reason => exact tidy_emit _
  | inr rows => exact (tidy_moveStock _ _ _).bind fun _ => tidy_emit _

theorem quiet_releaseInventory (event : EventEnvelope) : Quiet (releaseInventory event) :=
  (quiet_ofExcept _).bind fun _ => (quiet_ofExcept _).bind fun lines =>
    (quiet_loadInventoryItems lines).bind fun _ => (quiet_moveStock _ _ _).bind fun _ =>
      quiet_emit _

theorem tidy_releaseInventory (event : EventEnvelope) : Tidy (releaseInventory event) :=
  (tidy_ofExcept _).bind fun _ => (tidy_ofExcept _).bind fun lines =>
    (tidy_loadInventoryItems lines).bind fun _ => (tidy_moveStock _ _ _).bind fun _ =>
      tidy_emit _

/-- **A reservation validates before it mutates**: when it raises, the
payload has no order id, no list of items, or a line without a SKU, and no
object was touched. -/
theorem reserveInventory_raised {event : EventEnvelope} {s t : Session Database}
    {error : PyError} (h : reserveInventory event s = .error (.raised error) t) :
    t = s ∧ (strItem event.payload "order_id" = .error error
      ∨ payloadItems event.payload = .error error
      ∨ ∃ lines, payloadItems event.payload = .ok lines ∧ lines.all hasSku = false) := by
  rcases ofExcept_bind_eq_raised.mp h with ⟨horder, rfl⟩ | ⟨orderId, -, h⟩
  · exact ⟨rfl, .inl horder⟩
  rcases ofExcept_bind_eq_raised.mp h with ⟨hitems, rfl⟩ | ⟨lines, hlines, h⟩
  · exact ⟨rfl, .inr (.inl hitems)⟩
  rcases bind_eq_error.mp h with h | ⟨r, u, hu, h⟩
  · cases hs : lines.all hasSku with
    | false =>
        rw [checkStock_of_no_sku hs] at h
        simp only [EStateM.Result.error.injEq] at h
        exact ⟨h.2.symm, .inr (.inr ⟨lines, hlines, hs⟩)⟩
    | true =>
        cases hst : (statement : App Unit) s with
        | error e u =>
            rw [checkStock_of_statement_error hs hst] at h
            simp only [EStateM.Result.error.injEq] at h
            exact absurd h.1 (statement_error hst error)
        | ok _ u =>
            have hc := checkStock_of_statement hs hst
            rw [h] at hc
            split at hc
            next => exact nomatch hc
            next => obtain ⟨_, hc⟩ := hc; exact nomatch hc
  · obtain ⟨-, ⟨n, rfl⟩, ⟨hstocks, rfl⟩ | ⟨-, reason, rfl⟩⟩ := checkStock_ok hu
    · -- after the check every row is loaded and every quantity is an integer
      have hmove := moveStock_apply (-1) (s.working.loaded lines) lines (s.goto s.working n)
        (loaded_has (knows_of_stocks hstocks))
      rw [if_pos (hasQuantity_of_stocks hstocks)] at hmove
      rcases bind_eq_error.mp h with h | ⟨_, u, -, h⟩
      · rw [hmove] at h
        exact nomatch h
      · exact absurd h (noRaise_emit _ _ _ _)
    · exact absurd h (noRaise_emit _ _ _ _)

/-- **A release may raise half way**: either it touched nothing, or every
SKU is known, some quantity is no integer, and the lines before it are
moved. -/
theorem releaseInventory_raised {event : EventEnvelope} {s t : Session Database}
    {error : PyError} (h : releaseInventory event s = .error (.raised error) t) :
    (t.working = s.working ∧ (strItem event.payload "order_id" = .error error
      ∨ payloadItems event.payload = .error error
      ∨ ∃ lines, payloadItems event.payload = .ok lines ∧ s.working.knows lines = false))
    ∨ ∃ orderId lines, strItem event.payload "order_id" = .ok orderId
        ∧ payloadItems event.payload = .ok lines ∧ s.working.knows lines = true
        ∧ lines.all hasQuantity = false
        ∧ t.working = s.working.moveAll 1 (goodLines lines) := by
  rcases ofExcept_bind_eq_raised.mp h with ⟨horder, rfl⟩ | ⟨orderId, horder, h⟩
  · exact .inl ⟨rfl, .inl horder⟩
  rcases ofExcept_bind_eq_raised.mp h with ⟨hitems, rfl⟩ | ⟨lines, hlines, h⟩
  · exact .inl ⟨rfl, .inr (.inl hitems)⟩
  rcases bind_eq_error.mp h with h | ⟨rows, u, hu, h⟩
  · obtain ⟨hk, ht⟩ := loadInventoryItems_raised h
    exact .inl ⟨ht, .inr (.inr ⟨lines, hlines, hk⟩)⟩
  · obtain ⟨hk, rfl, n, rfl⟩ := loadInventoryItems_ok hu
    have hmove := moveStock_apply 1 (s.working.loaded lines) lines (s.goto s.working n)
      (loaded_has hk)
    rcases bind_eq_error.mp h with h | ⟨_, u, -, h⟩
    · rw [h] at hmove
      split at hmove
      next => exact nomatch hmove
      next hq =>
        simp only [EStateM.Result.error.injEq] at hmove
        refine .inr ⟨orderId, lines, horder, hlines, hk, by simpa using hq, ?_⟩
        rw [hmove.2]
        rfl
    · exact absurd h (noRaise_emit _ _ _ _)

end EventCart
