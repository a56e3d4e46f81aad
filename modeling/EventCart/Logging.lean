/-
  EventCart.Logging
  ─────────────────
  **STRUCTURED LOGS** (`shared/logging.py`).

  A log record becomes one line of JSON.  The correlation id on it is none of
  the record's own: it is whatever the context variable holds at the moment
  the record is formatted.  What a process logs is therefore a matter of the
  order of two kinds of actions, `set_correlation_id` and `logger.info`.

    §1  the formatter and the root logger;
    §2  what a sequence of actions logs (`emitted`), from any context;
    §3  `readLog_output` — the log is read back line by line.
-/
import EventCart.Models
import EventCart.Lib.JsonWriter

namespace EventCart

open EventCart.Lib

/-! ## §1. Formatter and root logger. -/

/-- `logging.LogRecord`: what the formatter reads of it. -/
structure LogRecord where
  levelname : String
  name : String
  /-- `record.getMessage()` -/
  message : String
  eventId : Option String
  eventType : Option String
  consumerName : Option String
  deriving DecidableEq

/-- The attributes that `extra` may have set. -/
def LogRecord.extra (record : LogRecord) : List (String × Option String) :=
  [("event_id", record.eventId), ("event_type", record.eventType),
    ("consumer_name", record.consumerName)]

/-- `if value is not None: payload[key] = value` -/
def setIfPresent (payload : Dict) (entry : String × Option String) : Dict :=
  match entry.2 with
  | none => payload
  | some value => payload.set entry.1 (.str value)

/-- The payload of `JsonLogFormatter.format`. -/
def LogRecord.payload (record : LogRecord) (timestamp : String) (correlationId : Option String) :
    Dict :=
  let payload : Dict := [("timestamp", .str timestamp), ("level", .str record.levelname),
    ("logger", .str record.name), ("message", .str record.message)]
  record.extra.foldl setIfPresent (setIfPresent payload ("correlation_id", correlationId))

/-- How a record becomes a text: the time, the current correlation id and the
record. -/
abbrev Formatter := String → Option String → LogRecord → List Char

/-- `JsonLogFormatter.format`: `json.dumps(payload, sort_keys=True)`. -/
def jsonLogFormatter : Formatter := fun timestamp correlationId record =>
  Json.write .plain (Json.sortKeys (.obj (record.payload timestamp correlationId)))

/-- The root logger: the formatters of its handlers, and its level. -/
structure RootLogger where
  handlers : List Formatter
  level : Nat

/-- The root logger of a new process: no handlers, level `WARNING`. -/
def RootLogger.initial : RootLogger := ⟨[], 30⟩

/-- The levels by name. -/
def levelNumbers : List (String × Nat) :=
  [("CRITICAL", 50), ("FATAL", 50), ("ERROR", 40), ("WARN", 30), ("WARNING", 30), ("INFO", 20),
    ("DEBUG", 10), ("NOTSET", 0)]

/-- `configure_logging`.  The handlers are replaced before `setLevel` may
refuse the name of the level. -/
def configureLogging (upper : String → String) (level : String) (root : RootLogger) :
    Except PyError RootLogger :=
  let root := { root with handlers := [jsonLogFormatter] }
  match levelNumbers.lookup (upper level) with
  | none => .error (.valueError ("Unknown level: " ++ Json.reprStr (upper level)))
  | some number => .ok { root with level := number }

/-- **However often logging is configured**, there is one handler as soon as
`INFO` records pass. -/
theorem handlers_of_configured {upper : String → String} :
    ∀ {levels : List String} {root root' : RootLogger},
      (root.level ≤ 20 → root.handlers = [jsonLogFormatter]) →
      levels.foldlM (fun root level => configureLogging upper level root) root = .ok root' →
      root'.level ≤ 20 → root'.handlers = [jsonLogFormatter]
  | [], root, root', h, hroot => by
      obtain rfl : root = root' := Except.ok.inj hroot
      exact h
  | level :: levels, root, root', h, hroot => by
      rw [List.foldlM_cons] at hroot
      cases hconfigure : configureLogging upper level root with
      | error e =>
          rw [hconfigure] at hroot
          exact nomatch hroot
      | ok next =>
          rw [hconfigure] at hroot
          -- this call replaced the handlers, whatever they were
          refine handlers_of_configured (fun _ => ?_) hroot
          unfold configureLogging at hconfigure
          split at hconfigure
          next => exact nomatch hconfigure
          next number _ =>
            obtain rfl := Except.ok.inj hconfigure
            rfl

/-! ## §2. What is logged. -/

/-- `set_correlation_id(value)` and `logger.info(…)`, as they happen. -/
inductive LogAction where
  | setCorrelationId (value : Option String)
  | info (record : LogRecord)
  deriving DecidableEq

/-- The correlation id after some actions. -/
def contextAfter : Option String → List LogAction → Option String
  | current, [] => current
  | _, .setCorrelationId value :: actions => contextAfter value actions
  | current, .info _ :: actions => contextAfter current actions

/-- The records logged, each with the correlation id current at that moment. -/
def emitted : Option String → List LogAction → List (Option String × LogRecord)
  | _, [] => []
  | _, .setCorrelationId value :: actions => emitted value actions
  | current, .info record :: actions => (current, record) :: emitted current actions

theorem emitted_append (actions actions' : List LogAction) : ∀ current,
    emitted current (actions ++ actions')
      = emitted current actions ++ emitted (contextAfter current actions) actions' := by
  induction actions with
  | nil => intro current; rfl
  | cons action actions ih =>
      intro current
      cases action with
      | setCorrelationId value => exact ih value
      | info record => exact congrArg ((current, record) :: ·) (ih current)

/-- The log: every record at the time the clock shows, if its level passes. -/
def RootLogger.output (root : RootLogger) (clock : Nat → String)
    (entries : List (Option String × LogRecord)) : List Char :=
  if root.level ≤ 20 then
    Json.lines (entries.zipIdx.flatMap fun entry =>
      root.handlers.map fun format => format (clock entry.2) entry.1.1 entry.1.2)
  else []

/-! ## §3. Reading the log. -/

/-- What a reader of the log decodes, line by line. -/
def readLog (parseFloat : List Char → String) (text : List Char) : List (Option Json) :=
  ((text.splitOn '\n').dropLast).map (Json.loads parseFloat)

/-- Distinct keys and texts only. -/
structure Flat (payload : Dict) : Prop where
  keys : (payload.map Prod.fst).Nodup
  texts : ∀ member ∈ payload, ∃ text, member.2 = .str text

theorem Flat.set {payload : Dict} (h : Flat payload) (key value : String) :
    Flat (payload.set key (.str value)) := by
  refine ⟨Json.nodup_set h.keys key (.str value), fun member mem => ?_⟩
  rcases Json.mem_set mem with rfl | mem
  · exact ⟨value, rfl⟩
  · exact h.texts member mem

theorem Flat.setIfPresent {payload : Dict} (h : Flat payload) (entry : String × Option String) :
    Flat (setIfPresent payload entry) := by
  unfold EventCart.setIfPresent
  split
  next => exact h
  next value _ => exact h.set entry.1 value

theorem flat_payload (record : LogRecord) (timestamp : String) (correlationId : Option String) :
    Flat (record.payload timestamp correlationId) := by
  have hfields : Flat [("timestamp", .str timestamp), ("level", .str record.levelname),
      ("logger", .str record.name), ("message", .str record.message)] := by
    refine ⟨(by decide : ["timestamp", "level", "logger", "message"].Nodup), fun m hm => ?_⟩
    simp only [List.mem_cons, List.not_mem_nil, or_false] at hm
    rcases hm with rfl | rfl | rfl | rfl <;> exact ⟨_, rfl⟩
  have hfold : ∀ (entries : List (String × Option String)) (payload : Dict), Flat payload →
      Flat (entries.foldl setIfPresent payload) := by
    intro entries
    induction entries with
    | nil => exact fun _ h => h
    | cons entry entries ih => exact fun payload h => ih _ (h.setIfPresent entry)
  exact hfold _ _ (hfields.setIfPresent _)

theorem Flat.standard {payload : Dict} (h : Flat payload) : Json.Standard (.obj payload) := by
  refine .obj h.keys fun member mem => ?_
  obtain ⟨text, htext⟩ := h.texts member mem
  rw [htext]
  exact .str text

/-- Texts have no members to sort. -/
theorem Flat.sortKeys {payload : Dict} (h : Flat payload) :
    Json.sortKeys (.obj payload) = .obj (Json.sorted payload) := by
  rw [Json.sortKeys, Json.sortKeysMembers_eq]
  congr 2
  refine (List.map_congr_left fun member mem => ?_).trans (List.map_id payload)
  obtain ⟨text, htext⟩ := h.texts member mem
  rw [htext]
  exact Prod.ext rfl htext.symm

/-- A formatted record is one line. -/
theorem oneLine_jsonLogFormatter (timestamp : String) (correlationId : Option String)
    (record : LogRecord) : Json.OneLine (jsonLogFormatter timestamp correlationId record) :=
  have hblank : Json.OneLine [' '] := .cons (by decide) Json.oneLine_nil
  Json.write_oneLine hblank hblank _ (Json.standard_sortKeys _ (flat_payload _ _ _).standard)

/-- **Round trip**: a formatted record is read back as its payload, in the order
of the keys. -/
theorem loads_jsonLogFormatter (parseFloat : List Char → String) (timestamp : String)
    (correlationId : Option String) (record : LogRecord) :
    Json.loads parseFloat (jsonLogFormatter timestamp correlationId record)
      = some (.obj (Json.sorted (record.payload timestamp correlationId))) := by
  have h := flat_payload record timestamp correlationId
  unfold jsonLogFormatter
  rw [Json.loads_write parseFloat .plain (Json.standard_sortKeys _ h.standard), h.sortKeys]

/-- **The log is read back**: one payload for each record logged, in order. -/
theorem readLog_output (parseFloat : List Char → String) {root : RootLogger}
    (passes : root.level ≤ 20) (handlers : root.handlers = [jsonLogFormatter])
    (clock : Nat → String) (entries : List (Option String × LogRecord)) :
    readLog parseFloat (root.output clock entries)
      = entries.zipIdx.map fun entry =>
          some (.obj (Json.sorted (entry.1.2.payload (clock entry.2) entry.1.1))) := by
  -- no line end inside a line
  have hlines : ∀ text ∈ entries.zipIdx.map fun entry =>
      jsonLogFormatter (clock entry.2) entry.1.1 entry.1.2, Json.OneLine text := by
    intro text htext
    obtain ⟨entry, -, rfl⟩ := List.mem_map.mp htext
    exact oneLine_jsonLogFormatter _ _ _
  -- one handler, so one line a record
  have htexts : (entries.zipIdx.flatMap fun entry =>
      root.handlers.map fun format => format (clock entry.2) entry.1.1 entry.1.2)
      = entries.zipIdx.map fun entry => jsonLogFormatter (clock entry.2) entry.1.1 entry.1.2 := by
    rw [handlers]
    exact List.map_eq_flatMap.symm
  unfold readLog RootLogger.output
  rw [if_pos passes, htexts, Json.splitOn_lines hlines, List.dropLast_concat, List.map_map]
  refine List.map_congr_left fun entry _ => ?_
  exact loads_jsonLogFormatter parseFloat (clock entry.2) entry.1.1 entry.1.2

end EventCart
