/-
  EventCart.Lib.JsonReader
  ────────────────────────
  **JSON DOCUMENTS.**

  The grammar of a document, as `json.loads` takes it (blanks anywhere,
  strings and numbers in all their spellings, `NaN` and the infinities, a key
  more than once in an object), and the decoder.

    §1  the grammar: `Text parseFloat value text`;
    §2  the decoder `loads`;
    §3  `loads_eq_some_iff` — it reads exactly what the grammar derives.

  What `float` makes of a numeral is a parameter.  The interpreter's limit on
  nesting is not modelled.
-/
import EventCart.Lib.JsonLexemes
import EventCart.Lib.JsonValues

namespace EventCart.Lib.Json

/-! ## §1. The grammar. -/

/-- Elements with commas between them and blanks around them. -/
inductive Listed {α : Type} (T : α → List Char → Prop) : List α → List Char → Prop where
  | last {x : α} {w t w' : List Char} (before : Blank w) (element : T x t) (after : Blank w') :
      Listed T [x] (w ++ t ++ w')
  | more {x : α} {xs : List α} {w t w' ts : List Char} (before : Blank w) (element : T x t)
      (after : Blank w') (rest : Listed T xs ts) :
      Listed T (x :: xs) (w ++ t ++ w' ++ ',' :: ts)

/-- A member of an object: its key, a colon, its value. -/
inductive MemberText (T : Json → List Char → Prop) : String × Json → List Char → Prop where
  | mk {key : String} {value : Json} {t w w' u : List Char} (named : StrText key t)
      (before : Blank w) (after : Blank w') (element : T value u) :
      MemberText T (key, value) (t ++ w ++ ':' :: (w' ++ u))

/-- The dictionary of members as they come: the last one of a key counts. -/
def dictOf (members : List (String × Json)) : Dict :=
  members.foldl (fun d member => d.set member.1 member.2) []

/-- The constants of the decoder. -/
def constants : List (List Char × Json) :=
  [("null".toList, .null), ("true".toList, .bool true), ("false".toList, .bool false),
    ("NaN".toList, .float "nan"), ("Infinity".toList, .float "inf"),
    ("-Infinity".toList, .float "-inf")]

/-- The texts of a value. -/
inductive Text (parseFloat : List Char → String) : Json → List Char → Prop where
  | constant {value : Json} {t : List Char} (listed : (t, value) ∈ constants) :
      Text parseFloat value t
  | number (minus : Bool) {ds frac exp : List Char} (digits : NatText ds) (fraction : FracText frac)
      (exponent : ExpText exp) :
      Text parseFloat (numberValue parseFloat minus ds frac exp)
        (signText minus ++ ds ++ frac ++ exp)
  | str {s : String} {t : List Char} (quoted : StrText s t) : Text parseFloat (.str s) t
  | arrNil {w : List Char} (inside : Blank w) : Text parseFloat (.arr []) ('[' :: (w ++ [']']))
  | arr {items : List Json} {t : List Char} (listed : Listed (Text parseFloat) items t) :
      Text parseFloat (.arr items) ('[' :: (t ++ [']']))
  | objNil {w : List Char} (inside : Blank w) :
      Text parseFloat (.obj []) ('\x7b' :: (w ++ ['\x7d']))
  | obj {members : List (String × Json)} {t : List Char}
      (listed : Listed (MemberText (Text parseFloat)) members t) :
      Text parseFloat (.obj (dictOf members)) ('\x7b' :: (t ++ ['\x7d']))

/-! ## §2. The decoder. -/

/-- The constant a text begins with, and the rest. -/
def readConstant (text : List Char) : Option (Json × List Char) :=
  (constants.find? fun entry => entry.1.isPrefixOf text).map fun entry =>
    (entry.2, text.drop entry.1.length)

/-- Elements up to the closing bracket, read with `read`. -/
def readListed {α : Type} (read : List Char → Option (α × List Char)) (close : Char) :
    Nat → List Char → Option (List α × List Char)
  | 0, _ => none
  | fuel + 1, text =>
      match read (skip text) with
      | none => none
      | some (x, rest) =>
          match skip rest with
          | [] => none
          | c :: rest =>
              if c = ',' then (readListed read close fuel rest).map fun p => (x :: p.1, p.2)
              else if c = close then some ([x], rest)
              else none

/-- What stands between brackets, after the opening one. -/
def readBracket {α : Type} (read : List Char → Option (α × List Char)) (close : Char)
    (text : List Char) : Option (List α × List Char) :=
  match skip text with
  | [] => none
  | c :: rest => if c = close then some ([], rest) else readListed read close text.length text

/-- A string from its opening quote on. -/
def readQuoted : List Char → Option (String × List Char)
  | [] => none
  | c :: text => if c = quote then readStr text else none

/-- A member of an object, its value read with `read`. -/
def readMember (read : List Char → Option (Json × List Char)) (text : List Char) :
    Option ((String × Json) × List Char) :=
  match readQuoted text with
  | none => none
  | some (key, rest) =>
      match skip rest with
      | [] => none
      | c :: rest =>
          if c = ':' then (read (skip rest)).map fun p => ((key, p.1), p.2) else none

/-- `scan_once`, down to a depth of nesting. -/
def readValue (parseFloat : List Char → String) : Nat → List Char → Option (Json × List Char)
  | 0, _ => none
  | _ + 1, [] => none
  | depth + 1, c :: text =>
      if c = quote then (readStr text).map fun p => (.str p.1, p.2)
      else if c = '[' then
        (readBracket (readValue parseFloat depth) ']' text).map fun p => (.arr p.1, p.2)
      else if c = '\x7b' then
        (readBracket (readMember (readValue parseFloat depth)) '\x7d' text).map fun p =>
          (.obj (dictOf p.1), p.2)
      else match readConstant (c :: text) with
        | some result => some result
        | none => readNumber parseFloat (c :: text)

/-- `json.loads(text)`; `none` where it raises. -/
def loads (parseFloat : List Char → String) (text : List Char) : Option Json :=
  match readValue parseFloat text.length (skip text) with
  | none => none
  | some (value, rest) => if skip rest = [] then some value else none

/-! ## §3. The decoder reads what the grammar derives. -/

/-- The first character of a value or a member: no blank, and no bracket that
closes. -/
def Opens (t : List Char) : Prop :=
  ∃ c u, t = c :: u ∧ isBlank c = false ∧ c ≠ ']' ∧ c ≠ '\x7d'

section lists
variable {α : Type} {T : α → List Char → Prop} {read : List Char → Option (α × List Char)}
  {close : Char}

/-- A bracket that closes. -/
def Closes (close : Char) : Prop := close = ']' ∨ close = '\x7d'

theorem Closes.not_blank (h : Closes close) : isBlank close = false := by
  rcases h with rfl | rfl
  · decide
  · decide

theorem Closes.ends (h : Closes close) (rest : List Char) : Ends (close :: rest) := by
  apply ends_cons
  rcases h with rfl | rfl
  · decide
  · decide

theorem Closes.ne_comma (h : Closes close) : close ≠ ',' := by
  rcases h with rfl | rfl
  · decide
  · decide

theorem Opens.skip {t : List Char} (h : Opens t) (rest : List Char) :
    skip (t ++ rest) = t ++ rest := by
  obtain ⟨c, u, rfl, hc, -⟩ := h
  exact skip_cons hc _

theorem Opens.ne_close {c : Char} {u : List Char} (h : Opens (c :: u)) (closes : Closes close) :
    c ≠ close := by
  obtain ⟨c', u', heq, -, hsquare, hcurly⟩ := h
  obtain ⟨rfl, -⟩ := List.cons.inj heq
  rcases closes with rfl | rfl
  · exact hsquare
  · exact hcurly

/-- One element and what stands behind it. -/
theorem readListed_step {x : α} {fuel : Nat} {w t w' tail : List Char} {c : Char}
    (before : Blank w) (opens : Opens t) (after : Blank w') (hc : isBlank c = false)
    (hread : read (t ++ (w' ++ c :: tail)) = some (x, w' ++ c :: tail)) :
    readListed read close (fuel + 1) (w ++ t ++ w' ++ c :: tail)
      = if c = ',' then (readListed read close fuel tail).map fun p => (x :: p.1, p.2)
        else if c = close then some ([x], tail) else none := by
  have htext : skip (w ++ t ++ w' ++ c :: tail) = t ++ (w' ++ c :: tail) := by
    rw [List.append_assoc, List.append_assoc, skip_blank_append before, opens.skip]
  have hbehind : skip (w' ++ c :: tail) = c :: tail := by
    rw [skip_blank_append after, skip_cons hc]
  simp only [readListed, htext, hread, hbehind]

/-- **A list is read back** if its elements are. -/
theorem readListed_complete (closes : Closes close) {n : Nat}
    (opens : ∀ x t, T x t → Opens t)
    (hread : ∀ x t rest, T x t → t.length ≤ n → Ends rest → read (t ++ rest) = some (x, rest))
    {xs : List α} {t : List Char} (h : Listed T xs t) (rest : List Char) :
    ∀ {fuel : Nat}, t.length ≤ n → t.length < fuel →
      readListed read close fuel (t ++ close :: rest) = some (xs, rest) := by
  induction h with
  -- the closing bracket stands behind the last element
  | @last x w t w' before element after =>
      intro fuel hn hfuel
      simp only [List.length_append] at hn
      cases fuel with
      | zero => omega
      | succ fuel =>
          have hx := hread x t (w' ++ close :: rest) element (by omega)
            (ends_blank_append after (closes.ends rest))
          rw [readListed_step before (opens x t element) after closes.not_blank hx,
            if_neg closes.ne_comma, if_pos rfl]
  -- a comma and a list follow, which is shorter
  | @more x xs w t w' ts before element after _ ih =>
      intro fuel hn hfuel
      simp only [List.length_append, List.length_cons] at hn hfuel
      cases fuel with
      | zero => omega
      | succ fuel =>
          have hx := hread x t (w' ++ ',' :: (ts ++ close :: rest)) element (by omega)
            (ends_blank_append after (ends_cons (by decide) _))
          have htext : w ++ t ++ w' ++ ',' :: ts ++ close :: rest
              = w ++ t ++ w' ++ ',' :: (ts ++ close :: rest) := by
            rw [List.append_assoc _ (',' :: ts), List.cons_append]
          rw [htext, readListed_step before (opens x t element) after (by decide) hx, if_pos rfl,
            ih (by omega) (by omega)]
          rfl

/-- A list begins with its first element. -/
theorem Listed.head {xs : List α} {t : List Char} (h : Listed T xs t)
    (opens : ∀ x t, T x t → Opens t) : ∃ w u, Blank w ∧ t = w ++ u ∧ Opens u := by
  have happend : ∀ {t : List Char} (u : List Char), Opens t → Opens (t ++ u) := by
    rintro t u ⟨c, v, rfl, hc⟩
    exact ⟨c, v ++ u, rfl, hc⟩
  cases h with
  | @last x w t w' before element after =>
      exact ⟨w, t ++ w', before, List.append_assoc _ _ _, happend _ (opens x t element)⟩
  | @more x xs w t w' ts before element after =>
      exact ⟨w, t ++ (w' ++ ',' :: ts), before, by simp, happend _ (opens x t element)⟩

theorem readBracket_nil (closes : Closes close) {w : List Char} (inside : Blank w)
    (rest : List Char) : readBracket read close (w ++ close :: rest) = some ([], rest) := by
  have hskip : skip (w ++ close :: rest) = close :: rest := by
    rw [skip_blank_append inside, skip_cons closes.not_blank]
  simp [readBracket, hskip]

theorem readBracket_complete (closes : Closes close) {n : Nat} (opens : ∀ x t, T x t → Opens t)
    (hread : ∀ x t rest, T x t → t.length ≤ n → Ends rest → read (t ++ rest) = some (x, rest))
    {xs : List α} {t : List Char} (h : Listed T xs t) (hn : t.length ≤ n) (rest : List Char) :
    readBracket read close (t ++ close :: rest) = some (xs, rest) := by
  obtain ⟨w, u, hw, rfl, hu⟩ := h.head opens
  obtain ⟨c, v, rfl, hc, -⟩ := id hu
  have hskip : skip (w ++ c :: v ++ close :: rest) = c :: (v ++ close :: rest) := by
    rw [List.append_assoc, skip_blank_append hw, hu.skip]
    rfl
  have hlist : readListed read close (w ++ c :: v ++ close :: rest).length
      (w ++ c :: v ++ close :: rest) = some (xs, rest) :=
    readListed_complete closes opens hread h rest hn (by simp)
  simp only [readBracket, hskip, hlist, if_neg (hu.ne_close closes)]

theorem readListed_sound
    (hread : ∀ text x rest, read text = some (x, rest) → ∃ t, text = t ++ rest ∧ T x t) :
    ∀ {fuel : Nat} {text rest : List Char} {xs : List α},
      readListed read close fuel text = some (xs, rest) →
        ∃ t, text = t ++ close :: rest ∧ Listed T xs t := by
  intro fuel
  induction fuel with
  | zero => intro text rest xs h; exact nomatch h
  | succ fuel ih =>
      intro text rest xs h
      unfold readListed at h
      split at h
      next => exact nomatch h
      next x behind hx =>
        obtain ⟨w, hw, htext⟩ := blank_skip text
        obtain ⟨t, hskip, ht⟩ := hread _ _ _ hx
        obtain ⟨w', hw', hbehind⟩ := blank_skip behind
        split at h
        next => exact nomatch h
        next c tail htail =>
          rw [htail] at hbehind
          by_cases hcomma : c = ','
          · -- another element follows
            rw [if_pos hcomma] at h
            obtain ⟨⟨ys, rest'⟩, hlist, hpair⟩ := Option.map_eq_some_iff.mp h
            obtain ⟨rfl, rfl⟩ := Prod.mk.inj hpair
            obtain ⟨ts, rfl, hts⟩ := ih hlist
            refine ⟨w ++ t ++ w' ++ ',' :: ts, ?_, .more hw ht hw' hts⟩
            rw [htext, hskip, hbehind, hcomma]
            simp
          · rw [if_neg hcomma] at h
            -- the list ends here
            by_cases hclose : c = close
            · rw [if_pos hclose] at h
              obtain ⟨rfl, rfl⟩ := Prod.mk.inj (Option.some.inj h)
              refine ⟨w ++ t ++ w', ?_, .last hw ht hw'⟩
              rw [htext, hskip, hbehind, hclose]
              simp
            · rw [if_neg hclose] at h
              exact nomatch h

theorem readBracket_sound
    (hread : ∀ text x rest, read text = some (x, rest) → ∃ t, text = t ++ rest ∧ T x t)
    {text rest : List Char} {xs : List α} (h : readBracket read close text = some (xs, rest)) :
    ∃ t, text = t ++ close :: rest ∧ (xs = [] ∧ Blank t ∨ Listed T xs t) := by
  unfold readBracket at h
  split at h
  next => exact nomatch h
  next c tail hskip =>
    by_cases hclose : c = close
    · rw [if_pos hclose] at h
      obtain ⟨rfl, rfl⟩ := Prod.mk.inj (Option.some.inj h)
      obtain ⟨w, hw, htext⟩ := blank_skip text
      rw [hskip, hclose] at htext
      exact ⟨w, htext, .inl ⟨rfl, hw⟩⟩
    · rw [if_neg hclose] at h
      obtain ⟨t, htext, ht⟩ := readListed_sound hread h
      exact ⟨t, htext, .inr ht⟩

end lists

section values
variable {parseFloat : List Char → String}

theorem StrText.head {s : String} {t : List Char} (h : StrText s t) : ∃ u, t = quote :: u := by
  cases h with
  | quoted => exact ⟨_, rfl⟩

/-- A number is none of the other things a value can be. -/
theorem number_head {c : Char} (h : c.isDigit = true ∨ c = '-') :
    isBlank c = false ∧ c ≠ ']' ∧ c ≠ '\x7d' ∧ c ≠ quote ∧ c ≠ '[' ∧ c ≠ '\x7b' ∧ c ≠ 'n'
      ∧ c ≠ 't' ∧ c ≠ 'f' ∧ c ≠ 'N' ∧ c ≠ 'I' := by
  have hne : ∀ d : Char, d.isDigit = false → d ≠ '-' → c ≠ d := by
    rintro d hdigit hminus rfl
    rcases h with h | h
    · rw [hdigit] at h
      exact nomatch h
    · exact hminus h
  refine ⟨?_, hne _ (by decide) (by decide), hne _ (by decide) (by decide),
    hne _ (by decide) (by decide), hne _ (by decide) (by decide), hne _ (by decide) (by decide),
    hne _ (by decide) (by decide), hne _ (by decide) (by decide), hne _ (by decide) (by decide),
    hne _ (by decide) (by decide), hne _ (by decide) (by decide)⟩
  unfold isBlank
  rw [decide_eq_false (hne ' ' (by decide) (by decide)),
    decide_eq_false (hne '\t' (by decide) (by decide)),
    decide_eq_false (hne '\n' (by decide) (by decide)),
    decide_eq_false (hne '\r' (by decide) (by decide))]
  rfl

/-- A number begins with a digit, or with a minus before one. -/
theorem number_text (minus : Bool) {ds : List Char} (h : NatText ds) (rest : List Char) :
    ∃ c u, signText minus ++ ds ++ rest = c :: u ∧ (c.isDigit = true ∨ c = '-')
      ∧ (c = '-' → ∃ d v, u = d :: v ∧ d.isDigit = true) := by
  obtain ⟨d, v, rfl, hd⟩ := h.head
  cases minus with
  | true => exact ⟨'-', d :: v ++ rest, rfl, .inr rfl, fun _ => ⟨d, v ++ rest, rfl, hd⟩⟩
  | false =>
      refine ⟨d, v ++ rest, rfl, .inl hd, fun hminus => ?_⟩
      rw [hminus] at hd
      exact absurd hd (by decide)

theorem Text.opens {v : Json} {t : List Char} (h : Text parseFloat v t) : Opens t := by
  cases h with
  | constant listed =>
      simp only [constants, List.mem_cons, List.not_mem_nil, or_false, Prod.mk.injEq] at listed
      rcases listed with ⟨rfl, -⟩ | ⟨rfl, -⟩ | ⟨rfl, -⟩ | ⟨rfl, -⟩ | ⟨rfl, -⟩ | ⟨rfl, -⟩ <;>
        exact ⟨_, _, rfl, by decide, by decide, by decide⟩
  -- digits and signs are neither blanks nor brackets
  | @number minus ds frac exp digits =>
      obtain ⟨c, u, htext, hc, -⟩ := number_text minus digits (frac ++ exp)
      obtain ⟨hblank, hsquare, hcurly, -⟩ := number_head hc
      exact ⟨c, u, by rw [← htext]; simp, hblank, hsquare, hcurly⟩
  | str quoted =>
      obtain ⟨u, rfl⟩ := quoted.head
      exact ⟨quote, u, rfl, by decide, by decide, by decide⟩
  | arrNil => exact ⟨'[', _, rfl, by decide, by decide, by decide⟩
  | arr => exact ⟨'[', _, rfl, by decide, by decide, by decide⟩
  | objNil => exact ⟨'\x7b', _, rfl, by decide, by decide, by decide⟩
  | obj => exact ⟨'\x7b', _, rfl, by decide, by decide, by decide⟩

theorem MemberText.opens {T : Json → List Char → Prop} {member : String × Json} {t : List Char}
    (h : MemberText T member t) : Opens t := by
  cases h with
  | mk named =>
      obtain ⟨u, rfl⟩ := named.head
      exact ⟨quote, _, rfl, by decide, by decide, by decide⟩

/-- **A member is read back** if its value is. -/
theorem readMember_complete {read : List Char → Option (Json × List Char)}
    {T : Json → List Char → Prop} {n : Nat} (opens : ∀ v t, T v t → Opens t)
    (hread : ∀ v t rest, T v t → t.length ≤ n → Ends rest → read (t ++ rest) = some (v, rest))
    (member : String × Json) (t rest : List Char) (h : MemberText T member t) (hn : t.length ≤ n)
    (ends : Ends rest) : readMember read (t ++ rest) = some (member, rest) := by
  cases h with
  | @mk key value t w w' u named before after element =>
      simp only [List.length_append, List.length_cons] at hn
      obtain ⟨body, hbody, hkey⟩ := readStr_complete named (w ++ ':' :: (w' ++ u) ++ rest)
      have hquoted : readQuoted (t ++ (w ++ ':' :: (w' ++ u) ++ rest))
          = some (key, w ++ ':' :: (w' ++ u) ++ rest) := by
        rw [hbody]
        exact hkey
      have hcolon : skip (w ++ ':' :: (w' ++ u) ++ rest) = ':' :: (w' ++ (u ++ rest)) := by
        rw [List.append_assoc, skip_blank_append before, List.cons_append,
          skip_cons (by decide), List.append_assoc]
      have hvalue : skip (w' ++ (u ++ rest)) = u ++ rest := by
        rw [skip_blank_append after, (opens value u element).skip]
      rw [List.append_assoc t, List.append_assoc t]
      simp only [readMember, hquoted, hcolon, hvalue, hread value u rest element (by omega) ends]
      rfl

theorem readMember_sound {read : List Char → Option (Json × List Char)}
    {T : Json → List Char → Prop}
    (hread : ∀ text v rest, read text = some (v, rest) → ∃ t, text = t ++ rest ∧ T v t)
    (text : List Char) (member : String × Json) (rest : List Char)
    (h : readMember read text = some (member, rest)) :
    ∃ t, text = t ++ rest ∧ MemberText T member t := by
  unfold readMember at h
  split at h
  next => exact nomatch h
  next key behind hquoted =>
    cases text with
    | nil => exact nomatch hquoted
    | cons c text =>
        simp only [readQuoted] at hquoted
        split at hquoted
        next hc =>
          obtain ⟨t, htext, ht⟩ := readStr_sound hquoted
          obtain ⟨w, hw, hbehind⟩ := blank_skip behind
          split at h
          next => exact nomatch h
          next d tail htail =>
            split at h
            next hd =>
              obtain ⟨⟨v, rest'⟩, hv, hpair⟩ := Option.map_eq_some_iff.mp h
              obtain ⟨rfl, rfl⟩ := Prod.mk.inj hpair
              obtain ⟨w', hw', htail'⟩ := blank_skip tail
              obtain ⟨u, hu, hvalue⟩ := hread _ _ _ hv
              refine ⟨t ++ w ++ ':' :: (w' ++ u), ?_, .mk ht hw hw' hvalue⟩
              rw [hc, htext, hbehind, htail, hd, htail', hu]
              simp
            next => exact nomatch h
        next => exact nomatch hquoted

/-- The constants are told apart by their first characters. -/
theorem readConstant_complete {v : Json} {t : List Char} (listed : (t, v) ∈ constants)
    (rest : List Char) : readConstant (t ++ rest) = some (v, rest)
      ∧ ∃ c u, t = c :: u ∧ c ≠ quote ∧ c ≠ '[' ∧ c ≠ '\x7b' := by
  simp only [constants, List.mem_cons, List.not_mem_nil, or_false, Prod.mk.injEq] at listed
  rcases listed with ⟨rfl, rfl⟩ | ⟨rfl, rfl⟩ | ⟨rfl, rfl⟩ | ⟨rfl, rfl⟩ | ⟨rfl, rfl⟩ | ⟨rfl, rfl⟩ <;>
    exact ⟨rfl, _, _, rfl, by decide, by decide, by decide⟩

/-- A number is no constant. -/
theorem readConstant_number {c : Char} {u : List Char} (h : c.isDigit = true ∨ c = '-')
    (behind : c = '-' → ∃ d v, u = d :: v ∧ d.isDigit = true) : readConstant (c :: u) = none := by
  obtain ⟨-, -, -, -, -, -, hn, ht, hf, hN, hI⟩ := number_head h
  have hminus : ¬ ('-' = c ∧ "Infinity".toList.isPrefixOf u = true) := by
    rintro ⟨rfl, hprefix⟩
    obtain ⟨d, v, rfl, hd⟩ := behind rfl
    have hI : 'I' = d := by
      have hcons : ('I' == d && "nfinity".toList.isPrefixOf v) = true := hprefix
      exact beq_iff_eq.mp (Bool.and_eq_true_iff.mp hcons).1
    rw [← hI] at hd
    exact absurd hd (by decide)
  have hnone : (constants.find? fun entry => entry.1.isPrefixOf (c :: u)) = none := by
    rw [List.find?_eq_none]
    -- only `-Infinity` begins like a number, and no digit follows its minus
    intro entry hentry
    simp only [constants, List.mem_cons, List.not_mem_nil, or_false] at hentry
    have hfirst : ∀ (d : Char) (t : List Char), c ≠ d → ¬ (d :: t).isPrefixOf (c :: u) = true := by
      intro d t hd hprefix
      exact hd (beq_iff_eq.mp (Bool.and_eq_true_iff.mp hprefix).1).symm
    rcases hentry with rfl | rfl | rfl | rfl | rfl | rfl
    · exact hfirst 'n' _ hn
    · exact hfirst 't' _ ht
    · exact hfirst 'f' _ hf
    · exact hfirst 'N' _ hN
    · exact hfirst 'I' _ hI
    · intro hprefix
      have hcons : ('-' == c && "Infinity".toList.isPrefixOf u) = true := hprefix
      obtain ⟨hc, hu⟩ := Bool.and_eq_true_iff.mp hcons
      exact hminus ⟨beq_iff_eq.mp hc, hu⟩
  unfold readConstant
  rw [hnone]
  rfl

theorem readValue_square (depth : Nat) (text : List Char) :
    readValue parseFloat (depth + 1) ('[' :: text)
      = (readBracket (readValue parseFloat depth) ']' text).map fun p => (.arr p.1, p.2) := rfl

theorem readValue_curly (depth : Nat) (text : List Char) :
    readValue parseFloat (depth + 1) ('\x7b' :: text)
      = (readBracket (readMember (readValue parseFloat depth)) '\x7d' text).map fun p =>
          (.obj (dictOf p.1), p.2) := rfl

/-- **A value is read back**, in whichever of its texts, with as many levels
as the text has characters. -/
theorem readValue_complete : ∀ {depth : Nat} (v : Json) (t rest : List Char),
    Text parseFloat v t → t.length ≤ depth → Ends rest →
      readValue parseFloat depth (t ++ rest) = some (v, rest) := by
  intro depth
  induction depth with
  -- a text without characters derives nothing
  | zero =>
      intro v t rest h hn _
      obtain ⟨c, u, rfl, -⟩ := h.opens
      rw [List.length_cons] at hn
      omega
  | succ depth ih =>
      intro v t rest h hn ends
      -- elements and values of members are one level down
      have ih' : ∀ v t rest, Text parseFloat v t → t.length ≤ depth → Ends rest →
          readValue parseFloat depth (t ++ rest) = some (v, rest) := fun v t rest => ih v t rest
      cases h with
      | constant listed =>
          obtain ⟨hread, c, u, rfl, hquote, hsquare, hcurly⟩ := readConstant_complete listed rest
          have hread : readConstant (c :: (u ++ rest)) = some (v, rest) := hread
          rw [List.cons_append]
          simp only [readValue, if_neg hquote, if_neg hsquare, if_neg hcurly, hread]
      | @number minus ds frac exp digits fraction exponent =>
          obtain ⟨c, u, htext, hc, hbehind⟩ := number_text minus digits (frac ++ exp ++ rest)
          obtain ⟨-, -, -, hquote, hsquare, hcurly, -⟩ := number_head hc
          have hread := readNumber_complete parseFloat minus digits fraction exponent ends
          have happend : signText minus ++ ds ++ frac ++ exp ++ rest
              = signText minus ++ ds ++ (frac ++ exp ++ rest) := by simp
          rw [happend, htext] at hread ⊢
          simp only [readValue, if_neg hquote, if_neg hsquare, if_neg hcurly,
            readConstant_number hc hbehind, hread]
      | @str s t quoted =>
          obtain ⟨body, hbody, hstr⟩ := readStr_complete quoted rest
          rw [hbody]
          simp only [readValue, if_true, hstr, Option.map_some]
      | @arrNil w inside =>
          have hread : readBracket (readValue parseFloat depth) ']' (w ++ ']' :: rest)
              = some ([], rest) := readBracket_nil (.inl rfl) inside rest
          have htext : w ++ [']'] ++ rest = w ++ ']' :: rest := by simp
          rw [List.cons_append, htext, readValue_square, hread]
          rfl
      | @arr items t listed =>
          simp only [List.length_cons, List.length_append] at hn
          have hread := readBracket_complete (.inl rfl) (fun _ _ => Text.opens) ih' listed
            (by omega) rest
          have htext : t ++ [']'] ++ rest = t ++ ']' :: rest := by simp
          rw [List.cons_append, htext, readValue_square, hread]
          rfl
      | @objNil w inside =>
          have hread : readBracket (readMember (readValue parseFloat depth)) '\x7d'
              (w ++ '\x7d' :: rest) = some ([], rest) := readBracket_nil (.inr rfl) inside rest
          have htext : w ++ ['\x7d'] ++ rest = w ++ '\x7d' :: rest := by simp
          rw [List.cons_append, htext, readValue_curly, hread]
          rfl
      | @obj members t listed =>
          simp only [List.length_cons, List.length_append] at hn
          have hread := readBracket_complete (.inr rfl) (fun _ _ => MemberText.opens)
            (readMember_complete (fun _ _ => Text.opens) ih') listed (by omega) rest
          have htext : t ++ ['\x7d'] ++ rest = t ++ '\x7d' :: rest := by simp
          rw [List.cons_append, htext, readValue_curly, hread]
          rfl

theorem readConstant_sound {v : Json} {text rest : List Char}
    (h : readConstant text = some (v, rest)) : ∃ t, text = t ++ rest ∧ Text parseFloat v t := by
  obtain ⟨entry, hfind, hpair⟩ := Option.map_eq_some_iff.mp h
  obtain ⟨rfl, rfl⟩ := Prod.mk.inj hpair
  have hprefix : entry.1.isPrefixOf text = true :=
    List.find?_some (p := fun entry : List Char × Json => entry.1.isPrefixOf text) hfind
  obtain ⟨tail, rfl⟩ := List.isPrefixOf_iff_prefix.mp hprefix
  refine ⟨entry.1, by rw [List.drop_left], .constant ?_⟩
  exact List.mem_of_find?_eq_some hfind

/-- **What is read is derived.** -/
theorem readValue_sound : ∀ {depth : Nat} (text : List Char) (v : Json) (rest : List Char),
    readValue parseFloat depth text = some (v, rest) →
      ∃ t, text = t ++ rest ∧ Text parseFloat v t := by
  intro depth
  induction depth with
  | zero => intro text v rest h; exact nomatch h
  | succ depth ih =>
      intro text v rest h
      cases text with
      | nil => exact nomatch h
      | cons c text =>
          unfold readValue at h
          -- the first character tells strings and brackets from the rest
          by_cases hquote : c = quote
          · rw [if_pos hquote] at h
            obtain ⟨⟨s, rest'⟩, hstr, hpair⟩ := Option.map_eq_some_iff.mp h
            obtain ⟨rfl, rfl⟩ := Prod.mk.inj hpair
            obtain ⟨t, htext, ht⟩ := readStr_sound hstr
            exact ⟨t, by rw [hquote, htext], .str ht⟩
          rw [if_neg hquote] at h
          by_cases hsquare : c = '['
          · rw [if_pos hsquare] at h
            obtain ⟨⟨items, rest'⟩, hread, hpair⟩ := Option.map_eq_some_iff.mp h
            obtain ⟨rfl, rfl⟩ := Prod.mk.inj hpair
            obtain ⟨t, rfl, hempty | hlisted⟩ := readBracket_sound ih hread
            · obtain ⟨rfl, hblank⟩ := hempty
              exact ⟨'[' :: (t ++ [']']), by simp [hsquare], .arrNil hblank⟩
            · exact ⟨'[' :: (t ++ [']']), by simp [hsquare], .arr hlisted⟩
          rw [if_neg hsquare] at h
          by_cases hcurly : c = '\x7b'
          · rw [if_pos hcurly] at h
            obtain ⟨⟨members, rest'⟩, hread, hpair⟩ := Option.map_eq_some_iff.mp h
            obtain ⟨rfl, rfl⟩ := Prod.mk.inj hpair
            obtain ⟨t, rfl, hempty | hlisted⟩ := readBracket_sound (readMember_sound ih) hread
            · obtain ⟨rfl, hblank⟩ := hempty
              exact ⟨'\x7b' :: (t ++ ['\x7d']), by simp [hcurly], .objNil hblank⟩
            · exact ⟨'\x7b' :: (t ++ ['\x7d']), by simp [hcurly], .obj hlisted⟩
          rw [if_neg hcurly] at h
          cases hconstant : readConstant (c :: text) with
          | some result =>
              rw [hconstant] at h
              obtain rfl := Option.some.inj h
              exact readConstant_sound hconstant
          -- no constant: what is left is a number
          | none =>
              rw [hconstant] at h
              obtain ⟨minus, ds, frac, exp, htext, hds, hfrac, hexp, rfl⟩ := readNumber_sound h
              exact ⟨_, htext, .number minus hds hfrac hexp⟩

/-- A document: a value, and blanks around it. -/
def Document (parseFloat : List Char → String) (v : Json) (text : List Char) : Prop :=
  ∃ w t w', Blank w ∧ Text parseFloat v t ∧ Blank w' ∧ text = w ++ t ++ w'

theorem Text.document {v : Json} {t : List Char} (h : Text parseFloat v t) :
    Document parseFloat v t :=
  ⟨[], t, [], blank_nil, h, blank_nil, (List.append_nil t).symm⟩

/-- **The decoder and the grammar agree**: it returns a value exactly on the
documents of that value. -/
theorem loads_eq_some_iff {v : Json} {text : List Char} :
    loads parseFloat text = some v ↔ Document parseFloat v text := by
  constructor
  · intro h
    unfold loads at h
    split at h
    next => exact nomatch h
    next value rest hread =>
      split at h
      -- blanks only behind the value
      next hskip =>
        obtain rfl := Option.some.inj h
        obtain ⟨w, hw, htext⟩ := blank_skip text
        obtain ⟨t, hvalue, ht⟩ := readValue_sound _ _ _ hread
        obtain ⟨w', hw', hrest⟩ := blank_skip rest
        rw [hskip, List.append_nil] at hrest
        rw [hrest] at hvalue
        exact ⟨w, t, w', hw, ht, hw', by rw [htext, hvalue, List.append_assoc]⟩
      next => exact nomatch h
  · rintro ⟨w, t, w', hw, ht, hw', rfl⟩
    have hskip : skip (w ++ t ++ w') = t ++ w' := by
      rw [List.append_assoc, skip_blank_append hw, ht.opens.skip]
    have hends : Ends w' := by
      have h := ends_blank_append hw' ends_nil
      rw [List.append_nil] at h
      exact h
    -- the whole text is levels enough for a part of it
    have hread : readValue parseFloat (w ++ t ++ w').length (t ++ w') = some (v, w') :=
      readValue_complete v t w' ht (by simp only [List.length_append]; omega) hends
    have hrest : skip w' = [] := by
      have h := skip_blank_append hw' []
      rw [List.append_nil] at h
      exact h
    simp only [loads, hskip, hread, hrest, if_true]

end values

end EventCart.Lib.Json
