/-
  EventCart.Lib.JsonWriter
  ────────────────────────
  **WHAT `json.dumps` WRITES IS READ BACK.**

  `write` is `json.dumps` with its members in the order they have, and
  whatever blanks its separators put behind commas and colons.

    §1  `loads_write`   — the decoder returns the very value that was written;
    §2  `sortKeys`      — with `sort_keys=True` the value is written whose
                          members are in the order of their keys;
    §3  `write_oneLine` — a text is one line, so texts with line ends behind
                          them are told apart (`splitOn_lines`).
-/
import EventCart.Lib.JsonReader

namespace EventCart.Lib.Json

/-! ## §1. What `json.dumps` writes. -/

/-- The blanks behind commas and colons. -/
structure Separators where
  comma : List Char
  colon : List Char
  comma_blank : Blank comma
  colon_blank : Blank colon

/-- `separators=(",", ":")` -/
def Separators.compact : Separators := ⟨[], [], blank_nil, blank_nil⟩

/-- The separators of `json.dumps` without an indent. -/
def Separators.plain : Separators :=
  ⟨[' '], [' '], blank_singleton (by decide), blank_singleton (by decide)⟩

/-- Texts with commas between them. -/
def Separators.join (sep : Separators) : List (List Char) → List Char
  | [] => []
  | text :: texts => text ++ texts.flatMap fun t => ',' :: (sep.comma ++ t)

mutual

/-- `json.dumps(value, separators=sep)`: members in the order they have. -/
def write (sep : Separators) : Json → List Char
  | .null => "null".toList
  | .bool true => "true".toList
  | .bool false => "false".toList
  | .int n => (toString n).toList
  | .float text => text.toList
  | .str s => (dumpsStr s).toList
  | .arr items => '[' :: (sep.join (writeItems sep items) ++ [']'])
  | .obj members => '\x7b' :: (sep.join (writeMembers sep members) ++ ['\x7d'])

def writeItems (sep : Separators) : List Json → List (List Char)
  | [] => []
  | item :: items => write sep item :: writeItems sep items

def writeMembers (sep : Separators) : List (String × Json) → List (List Char)
  | [] => []
  | (key, value) :: members =>
      ((dumpsStr key).toList ++ ':' :: (sep.colon ++ write sep value)) :: writeMembers sep members

end

section written
variable {parseFloat : List Char → String} {sep : Separators}

theorem writeItems_eq (items : List Json) : writeItems sep items = items.map (write sep) := by
  induction items with
  | nil => rfl
  | cons item items ih => rw [List.map_cons, ← ih]; rfl

theorem writeMembers_eq (members : List (String × Json)) :
    writeMembers sep members
      = members.map fun m => (dumpsStr m.1).toList ++ ':' :: (sep.colon ++ write sep m.2) := by
  induction members with
  | nil => rfl
  | cons member members ih => rw [List.map_cons, ← ih]; rfl

/-- The digits of a number, without zeros in front. -/
theorem natText_toDigits (n : Nat) : NatText (Nat.toDigits 10 n) := by
  have hchar : ∀ d < 10, d.digitChar.isDigit = true ∧ (d ≠ 0 → d.digitChar ≠ '0') := by decide
  have hpositive : ∀ n, 0 < n → ∃ d ds, Nat.toDigits 10 n = d :: ds ∧ d.isDigit = true ∧ d ≠ '0'
      ∧ ∀ c ∈ ds, c.isDigit = true := by
    intro n
    -- the last digit apart: the digits before it are those of `n / 10`
    induction n using Nat.strong_induction_on with
    | _ n ih =>
        intro hn
        rw [Nat.toDigits_eq_if (by omega)]
        split
        next hlt =>
          exact ⟨_, [], rfl, (hchar n hlt).1, (hchar n hlt).2 (by omega),
            fun c hc => absurd hc List.not_mem_nil⟩
        next hge =>
          obtain ⟨d, ds, hdigits, hd, hzero, hds⟩ := ih (n / 10) (by omega) (by omega)
          refine ⟨d, ds ++ [(n % 10).digitChar], by rw [hdigits]; rfl, hd, hzero, fun c hc => ?_⟩
          rcases List.mem_append.mp hc with hc | hc
          · exact hds c hc
          · rw [List.mem_singleton.mp hc]
            exact (hchar _ (Nat.mod_lt n (by omega))).1
  by_cases hn : n = 0
  · rw [hn]
    exact .zero
  · obtain ⟨d, ds, hdigits, hd, hzero, hds⟩ := hpositive n (by omega)
    rw [hdigits]
    exact .digits hd hzero hds

/-- **Integers** are written as the grammar has them. -/
theorem text_int (n : Int) : Text parseFloat (.int n) (toString n).toList := by
  rw [Int.toString_eq_repr, Int.repr_eq_if]
  split
  next hpos =>
    have h : Text parseFloat (.int (Nat.ofDigitChars 10 (Nat.toDigits 10 n.toNat) 0))
        (Nat.toDigits 10 n.toNat ++ [] ++ []) :=
      .number false (natText_toDigits n.toNat) .none .none
    rw [Nat.ofDigitChars_ten_toDigits, List.append_nil, List.append_nil,
      Int.toNat_of_nonneg hpos] at h
    rw [Nat.toList_repr]
    exact h
  next hneg =>
    have h : Text parseFloat (.int (-(Nat.ofDigitChars 10 (Nat.toDigits 10 (-n).toNat) 0 : Int)))
        ('-' :: Nat.toDigits 10 (-n).toNat ++ [] ++ []) :=
      .number true (natText_toDigits (-n).toNat) .none .none
    rw [Nat.ofDigitChars_ten_toDigits, List.append_nil, List.append_nil,
      Int.toNat_of_nonneg (by omega), Int.neg_neg] at h
    rw [String.toList_append, Nat.toList_repr]
    exact h

/-- Hexadecimal digits spell their number. -/
theorem hexValue?_hex (n : Nat) : hexValue? (hex 4 n).toList = some n := by
  have hchar : ∀ d < 16, hexDigit? d.digitChar = some d := by decide
  have hstep : ∀ m d, d < 16 →
      (hexDigit? d.digitChar).map (16 * m + ·) = some (16 * m + d) := by
    intro m d hd
    rw [hchar d hd]
    rfl
  have hdigits : ∀ n, (Nat.toDigits 16 n).foldlM
      (fun n c => (hexDigit? c).map (16 * n + ·)) 0 = some n := by
    intro n
    induction n using Nat.strong_induction_on with
    | _ n ih =>
        rw [Nat.toDigits_eq_if (by omega)]
        split
        next hlt =>
          rw [List.foldlM_cons, hstep 0 n hlt]
          simp
        next hge =>
          rw [List.foldlM_append, ih (n / 16) (by omega)]
          show (hexDigit? (n % 16).digitChar).map (16 * (n / 16) + ·) >>= _ = _
          rw [hstep (n / 16) (n % 16) (by omega)]
          show some (16 * (n / 16) + n % 16) = some n
          rw [Nat.div_add_mod]
  -- zeros in front add nothing
  have hzeros : ∀ k, (List.replicate k '0').foldlM
      (fun n c => (hexDigit? c).map (16 * n + ·)) 0 = some 0 := by
    intro k
    induction k with
    | zero => rfl
    | succ k ih =>
        rw [List.replicate_succ, List.foldlM_cons]
        exact ih
  unfold hexValue? hex
  rw [String.toList_ofList, List.foldlM_append, hzeros]
  exact hdigits n

theorem hex4_hex {n : Nat} (h : n < 0x10000) : Hex4 n (hex 4 n).toList :=
  ⟨length_hex h, hexValue?_hex n⟩

/-- **Characters** are written as the grammar has them. -/
theorem charText_dumpsChar (c : Char) : CharText c (dumpsChar c).toList := by
  have hvalid := toNat_valid c
  have hofNat : ∀ n, c.toNat = n → Char.ofNat n = c := by
    rintro n rfl
    exact Char.ofNat_toNat c
  have hescape : ∀ text, "\\u".toList ++ text = '\\' :: 'u' :: text := fun _ => rfl
  -- one case for each branch, in order
  unfold dumpsChar
  split
  next h =>
    rw [String.toList_ofList]
    exact .escaped (if_pos (h.imp_right Or.inl))
  next h =>
    obtain ⟨hquote, hbackslash⟩ := not_or.mp h
    split
    next h => rw [h]; exact .escaped (e := 'n') rfl
    split
    next h => rw [h]; exact .escaped (e := 'r') rfl
    split
    next h => rw [h]; exact .escaped (e := 't') rfl
    split
    next h => rw [← hofNat _ h]; exact .escaped (e := 'f') rfl
    split
    next h => rw [← hofNat _ h]; exact .escaped (e := 'b') rfl
    split
    next h =>
      have htext : c.toString.toList = [c] := String.toList_singleton c
      rw [htext]
      exact .plain hquote hbackslash h.1
    split
    next hle =>
      rw [String.toList_append, hescape]
      exact .unicode (hex4_hex (by omega))
    next hgt =>
      rw [String.toList_append, String.toList_append, String.toList_append, List.append_assoc,
        List.append_assoc, hescape, hescape]
      exact .pair (by omega) (hex4_hex (by omega)) (hex4_hex (by omega))

/-- **Strings** are written as the grammar has them. -/
theorem strText_dumpsStr (s : String) : StrText s (dumpsStr s).toList := by
  have hchars : ∀ cs : List Char, CharsText cs (cs.flatMap fun c => (dumpsChar c).toList) := by
    intro cs
    induction cs with
    | nil => exact .nil
    | cons c cs ih =>
        rw [List.flatMap_cons]
        exact .cons (charText_dumpsChar c) ih
  have htext : (dumpsStr s).toList
      = quote :: (s.toList.flatMap (fun c => (dumpsChar c).toList) ++ [quote]) := by
    have hquote : (Char.ofNat 34).toString.toList = [quote] := String.toList_singleton _
    unfold dumpsStr
    simp only [String.toList_append, String.toList_join, List.flatMap_map, hquote,
      List.cons_append, List.nil_append]
  have hquoted := StrText.quoted (hchars s.toList)
  rw [String.ofList_toList] at hquoted
  rw [htext]
  exact hquoted

/-- **Lists** are written as the grammar has them, element by element. -/
theorem listed_join {α : Type} {T : α → List Char → Prop} (sep : Separators) (text : α → List Char)
    {xs : List α} (nonempty : xs ≠ []) (each : ∀ x ∈ xs, T x (text x)) :
    Listed T xs (sep.join (xs.map text)) := by
  -- an element behind the first has the separator's blanks in front of it
  have htail : ∀ (xs : List α) (w : List Char) (x : α), Blank w → (∀ y ∈ x :: xs, T y (text y)) →
      Listed T (x :: xs)
        (w ++ text x ++ (xs.map text).flatMap fun t => ',' :: (sep.comma ++ t)) := by
    intro xs
    induction xs with
    | nil =>
        intro w x hw each
        exact .last hw (each x List.mem_cons_self) blank_nil
    | cons y xs ih =>
        intro w x hw each
        have hrest := ih sep.comma y sep.comma_blank fun z hz => each z (List.mem_cons_of_mem _ hz)
        have h := Listed.more hw (each x List.mem_cons_self) blank_nil hrest
        rw [List.append_nil] at h
        rw [List.map_cons, List.flatMap_cons]
        exact h
  cases xs with
  | nil => exact absurd rfl nonempty
  | cons x xs => exact htail xs [] x blank_nil each

theorem mem_set {member : String × Json} {key : String} {value : Json} :
    ∀ {d : Dict}, member ∈ d.set key value → member = (key, value) ∨ member ∈ d
  | [], mem => .inl (List.mem_singleton.mp mem)
  | (k, v) :: d, mem => by
      unfold Dict.set at mem
      split at mem
      next hk =>
        subst hk
        rcases List.mem_cons.mp mem with h | h
        · exact .inl h
        · exact .inr (List.mem_cons_of_mem _ h)
      next =>
        rcases List.mem_cons.mp mem with h | h
        · exact .inr (h ▸ List.mem_cons_self)
        · exact (mem_set h).imp_right (List.mem_cons_of_mem _)

/-- Setting a key leaves the keys distinct. -/
theorem nodup_set : ∀ {d : Dict}, (d.map Prod.fst).Nodup → ∀ (key : String) (value : Json),
    ((d.set key value).map Prod.fst).Nodup
  | [], _ => fun key _ => List.nodup_singleton key
  | (k, v) :: d, h => by
      intro key value
      rw [List.map_cons, List.nodup_cons] at h
      unfold Dict.set
      split
      next => exact List.nodup_cons.mpr h
      next hk =>
        refine List.nodup_cons.mpr ⟨fun hmem => ?_, nodup_set h.2 key value⟩
        obtain ⟨member, mem, hkey⟩ := List.mem_map.mp hmem
        rcases mem_set mem with rfl | mem
        · exact hk hkey.symm
        · exact h.1 (hkey ▸ List.mem_map_of_mem mem)

/-- Distinct members are the dictionary they make. -/
theorem dictOf_eq {members : List (String × Json)} (keys : (members.map Prod.fst).Nodup) :
    dictOf members = members := by
  have hset : ∀ (d : Dict) (key : String) (value : Json), key ∉ d.map Prod.fst →
      d.set key value = d ++ [(key, value)] := by
    intro d key value
    induction d with
    | nil => exact fun _ => rfl
    | cons m d ih =>
        intro hkey
        obtain ⟨k, v⟩ := m
        rw [List.map_cons, List.mem_cons, not_or] at hkey
        show (if k = key then _ else (k, v) :: Dict.set d key value) = _
        rw [if_neg (Ne.symm hkey.1), ih hkey.2]
        rfl
  have hfold : ∀ (ms : List (String × Json)) (d : Dict), ((d ++ ms).map Prod.fst).Nodup →
      ms.foldl (fun d m => d.set m.1 m.2) d = d ++ ms := by
    intro ms
    induction ms with
    | nil => intro d _; exact (List.append_nil d).symm
    | cons m ms ih =>
        intro d hnodup
        have hkey : m.1 ∉ d.map Prod.fst := by
          rw [List.map_append, List.map_cons] at hnodup
          intro hmem
          exact List.disjoint_of_nodup_append hnodup hmem List.mem_cons_self
        rw [List.foldl_cons, hset d m.1 m.2 hkey, ih _ (by rw [List.append_assoc]; exact hnodup),
          List.append_assoc]
        rfl
  exact hfold members [] keys

/-- **What is written is derived**: the text of a value is one of its texts. -/
theorem text_write (parseFloat : List Char → String) (sep : Separators) (v : Json) :
    Standard v → Text parseFloat v (write sep v) := by
  induction v using induct with
  | null => exact fun _ => .constant (by simp [constants, write])
  | bool b =>
      intro _
      cases b with
      | true => exact .constant (by simp [constants, write])
      | false => exact .constant (by simp [constants, write])
  | int n => exact fun _ => text_int n
  | float text => intro h; cases h
  | str s => exact fun _ => .str (strText_dumpsStr s)
  | arr items ih =>
      intro h
      -- the elements are standard, and each is written as one of its texts
      cases h with
      | arr each =>
          rw [write, writeItems_eq]
          by_cases hempty : items = []
          · rw [hempty]
            exact .arrNil blank_nil
          · exact .arr (listed_join sep (write sep) hempty fun item hitem =>
              ih item hitem (each item hitem))
  | obj members ih =>
      intro h
      cases h with
      | obj keys each =>
          rw [write, writeMembers_eq]
          by_cases hempty : members = []
          · rw [hempty]
            exact .objNil blank_nil
          · have htext : ∀ m ∈ members, MemberText (Text parseFloat) m
                ((dumpsStr m.1).toList ++ ':' :: (sep.colon ++ write sep m.2)) := by
              intro m hm
              have h := MemberText.mk (strText_dumpsStr m.1) blank_nil sep.colon_blank
                (ih m hm (each m hm))
              rw [List.append_nil] at h
              exact h
            have h := Text.obj (listed_join sep _ hempty htext)
            -- distinct keys: the reader keeps every member in its place
            rw [dictOf_eq keys] at h
            exact h

/-- **Round trip**: what is written is read back. -/
theorem loads_write (parseFloat : List Char → String) (sep : Separators) {v : Json}
    (standard : Standard v) : loads parseFloat (write sep v) = some v :=
  loads_eq_some_iff.mpr (text_write parseFloat sep v standard).document

end written

/-! ## §2. Members in the order of their keys. -/

mutual

/-- The value with all members in the order of their keys: what
`sort_keys=True` writes. -/
def sortKeys : Json → Json
  | .arr items => .arr (sortKeysItems items)
  | .obj members => .obj (sorted (sortKeysMembers members))
  | value => value

def sortKeysItems : List Json → List Json
  | [] => []
  | item :: items => sortKeys item :: sortKeysItems items

def sortKeysMembers : List (String × Json) → List (String × Json)
  | [] => []
  | (key, value) :: members => (key, sortKeys value) :: sortKeysMembers members

end

theorem sortKeysItems_eq (items : List Json) : sortKeysItems items = items.map sortKeys := by
  induction items with
  | nil => rfl
  | cons item items ih => rw [List.map_cons, ← ih]; rfl

theorem sortKeysMembers_eq (members : List (String × Json)) :
    sortKeysMembers members = members.map fun m => (m.1, sortKeys m.2) := by
  induction members with
  | nil => rfl
  | cons member members ih => rw [List.map_cons, ← ih]; rfl

/-- Sorting leaves the keys of members distinct. -/
theorem nodup_sorted {members : List (String × Json)} (f : Json → Json)
    (keys : (members.map Prod.fst).Nodup) :
    ((sorted (members.map fun m => (m.1, f m.2))).map Prod.fst).Nodup := by
  have hkeys : (members.map fun m => (m.1, f m.2)).map Prod.fst = members.map Prod.fst := by
    rw [List.map_map]
    rfl
  exact ((perm_sorted _).map Prod.fst).nodup_iff.mp (hkeys ▸ keys)

theorem standard_sortKeys (v : Json) : Standard v → Standard (sortKeys v) := by
  induction v using induct with
  | null => exact id
  | bool b => exact id
  | int n => exact id
  | float text => exact id
  | str s => exact id
  | arr items ih =>
      intro h
      cases h with
      | arr each =>
          rw [sortKeys, sortKeysItems_eq]
          refine .arr fun item hitem => ?_
          obtain ⟨before, hbefore, rfl⟩ := List.mem_map.mp hitem
          exact ih before hbefore (each before hbefore)
  | obj members ih =>
      intro h
      cases h with
      | obj keys each =>
          rw [sortKeys, sortKeysMembers_eq]
          refine .obj (nodup_sorted sortKeys keys) fun m hm => ?_
          obtain ⟨before, hbefore, rfl⟩ := List.mem_map.mp (mem_sorted.mp hm)
          exact ih before hbefore (each before hbefore)

/-! ## §3. One line for one value. -/

/-- A text without control characters. -/
def OneLine (text : List Char) : Prop := ∀ c ∈ text, 0x20 ≤ c.toNat

theorem OneLine.append {t u : List Char} (h : OneLine t) (h' : OneLine u) : OneLine (t ++ u) :=
  fun c hc => (List.mem_append.mp hc).elim (h c) (h' c)

theorem OneLine.cons {c : Char} {t : List Char} (hc : 0x20 ≤ c.toNat) (h : OneLine t) :
    OneLine (c :: t) := by
  intro d hd
  rcases List.mem_cons.mp hd with rfl | hd
  · exact hc
  · exact h d hd

theorem oneLine_nil : OneLine [] := fun _ h => absurd h List.not_mem_nil

/-- Constant texts are checked. -/
theorem oneLine_of_all {text : List Char} (h : (text.all fun c => 0x20 ≤ c.toNat) = true) :
    OneLine text := fun c hc => of_decide_eq_true (List.all_eq_true.mp h c hc)

theorem oneLine_hex (n : Nat) : OneLine (hex 4 n).toList := by
  have hchar : ∀ d < 16, 0x20 ≤ d.digitChar.toNat := by decide
  have hdigits : ∀ n, OneLine (Nat.toDigits 16 n) := by
    intro n
    induction n using Nat.strong_induction_on with
    | _ n ih =>
        rw [Nat.toDigits_eq_if (by omega)]
        split
        next hlt => exact .cons (hchar n hlt) oneLine_nil
        next hge =>
          exact (ih (n / 16) (by omega)).append
            (.cons (hchar (n % 16) (Nat.mod_lt n (by omega))) oneLine_nil)
  unfold hex
  rw [String.toList_ofList]
  refine .append (fun c hc => ?_) (hdigits n)
  rw [(List.mem_replicate.mp hc).2]
  decide

/-- Whatever the character is, its text has no control character. -/
theorem oneLine_dumpsChar (c : Char) : OneLine (dumpsChar c).toList := by
  have hu : OneLine "\\u".toList := oneLine_of_all rfl
  have hescape : ∀ e : Char, 0x20 ≤ e.toNat → OneLine ['\\', e] := fun e he =>
    .cons (by decide) (.cons he oneLine_nil)
  unfold dumpsChar
  split
  next h =>
    rw [String.toList_ofList]
    rcases h with rfl | rfl
    · exact hescape _ (by decide)
    · exact hescape _ (by decide)
  split
  next => exact hescape 'n' (by decide)
  split
  next => exact hescape 'r' (by decide)
  split
  next => exact hescape 't' (by decide)
  split
  next => exact hescape 'f' (by decide)
  split
  next => exact hescape 'b' (by decide)
  split
  next h =>
    have htext : c.toString.toList = [c] := String.toList_singleton c
    rw [htext]
    exact .cons h.1 oneLine_nil
  split
  next =>
    rw [String.toList_append]
    exact hu.append (oneLine_hex _)
  next =>
    rw [String.toList_append, String.toList_append, String.toList_append]
    exact ((hu.append (oneLine_hex _)).append hu).append (oneLine_hex _)

theorem oneLine_dumpsStr (s : String) : OneLine (dumpsStr s).toList := by
  have hquote : OneLine (Char.ofNat 34).toString.toList := by
    have htext : (Char.ofNat 34).toString.toList = [Char.ofNat 34] := String.toList_singleton _
    rw [htext]
    exact .cons (by decide) oneLine_nil
  unfold dumpsStr
  rw [String.toList_append, String.toList_append, String.toList_join, List.flatMap_map]
  refine (hquote.append fun c hc => ?_).append hquote
  obtain ⟨d, -, hd⟩ := List.mem_flatMap.mp hc
  exact oneLine_dumpsChar d c hd

theorem oneLine_int (n : Int) : OneLine (toString n).toList := by
  intro c hc
  have hnumeral := isNumeral_of_mem_int hc
  simp only [isNumeral, Char.isDigit, Bool.or_eq_true, Bool.and_eq_true, decide_eq_true_eq]
    at hnumeral
  -- a digit or the minus sign
  rcases hnumeral with ⟨hlow, -⟩ | rfl
  · have hlow : 48 ≤ c.toNat := hlow
    omega
  · decide

theorem oneLine_join {sep : Separators} (comma : OneLine sep.comma) :
    ∀ {texts : List (List Char)}, (∀ t ∈ texts, OneLine t) → OneLine (sep.join texts)
  | [], _ => oneLine_nil
  | text :: texts, h => by
      refine (h text List.mem_cons_self).append fun c hc => ?_
      obtain ⟨t, ht, hc⟩ := List.mem_flatMap.mp hc
      exact OneLine.cons (by decide) (comma.append (h t (List.mem_cons_of_mem _ ht))) c hc

/-- **A value is written on one line**, whatever its strings contain. -/
theorem write_oneLine {sep : Separators} (comma : OneLine sep.comma) (colon : OneLine sep.colon)
    (v : Json) : Standard v → OneLine (write sep v) := by
  induction v using induct with
  | null => exact fun _ => oneLine_of_all rfl
  | bool b =>
      intro _
      cases b with
      | true => exact oneLine_of_all rfl
      | false => exact oneLine_of_all rfl
  | int n => exact fun _ => oneLine_int n
  | float text => intro h; cases h
  | str s => exact fun _ => oneLine_dumpsStr s
  | arr items ih =>
      intro h
      cases h with
      | arr each =>
          rw [write, writeItems_eq]
          refine .cons (by decide) ((oneLine_join comma fun t ht => ?_).append
            (.cons (by decide) oneLine_nil))
          obtain ⟨item, hitem, rfl⟩ := List.mem_map.mp ht
          exact ih item hitem (each item hitem)
  | obj members ih =>
      intro h
      cases h with
      | obj keys each =>
          rw [write, writeMembers_eq]
          refine .cons (by decide) ((oneLine_join comma fun t ht => ?_).append
            (.cons (by decide) oneLine_nil))
          obtain ⟨m, hm, rfl⟩ := List.mem_map.mp ht
          exact (oneLine_dumpsStr m.1).append
            (.cons (by decide) (colon.append (ih m hm (each m hm))))

/-- Lines, each with a line end behind it. -/
def lines (texts : List (List Char)) : List Char := texts.flatMap fun t => t ++ ['\n']

/-- **Lines are told apart.** -/
theorem splitOn_lines : ∀ {texts : List (List Char)}, (∀ t ∈ texts, OneLine t) →
    (lines texts).splitOn '\n' = texts ++ [[]]
  | [], _ => rfl
  | text :: texts, h => by
      -- the first line end is the one behind the text
      have hnone : '\n' ∉ text := fun hmem =>
        absurd (h text List.mem_cons_self '\n' hmem) (by decide)
      show ((text ++ ['\n']) ++ lines texts).splitOn '\n' = _
      rw [List.append_assoc, List.singleton_append, List.splitOn_append_cons_self_of_not_mem hnone,
        splitOn_lines fun t ht => h t (List.mem_cons_of_mem _ ht)]
      rfl

end EventCart.Lib.Json
