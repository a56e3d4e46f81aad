/-
  EventCart.Lib.JsonTexts
  ───────────────────────
  **JSON TEXTS READ BACK.**

  `json.dumps` escapes everything outside printable ASCII, and a reader that
  undoes the escapes finds each character again (`readChar_dumpsChar`).  So a
  text cannot begin with two different strings (`dumpsStr_append_inj`), nor
  with two different integers before something that is no numeral
  (`int_append_inj`).
-/
import EventCart.Lib.Json

namespace EventCart.Lib.Json

/-! ## §1. Hexadecimal digits. -/

/-- The value of a lower-case hexadecimal digit. -/
def digitValue (c : Char) : Nat := if c.toNat < 58 then c.toNat - 48 else c.toNat - 87

/-- The number that hexadecimal digits spell. -/
def hexRead (digits : List Char) : Nat := digits.foldl (fun n c => 16 * n + digitValue c) 0

theorem digitValue_digitChar : ∀ d < 16, digitValue d.digitChar = d := by decide

theorem foldl_toDigits (n : Nat) :
    (Nat.toDigits 16 n).foldl (fun n c => 16 * n + digitValue c) 0 = n := by
  induction n using Nat.strong_induction_on with
  | _ n ih =>
      rw [Nat.toDigits_eq_if (by omega)]
      split
      next hlt => simp [digitValue_digitChar n hlt]
      next hge =>
        have hlt : n / 16 < n := by omega
        rw [List.foldl_append, ih _ hlt]
        have hdigit := digitValue_digitChar (n % 16) (by omega)
        simp only [List.foldl_cons, List.foldl_nil, hdigit]
        omega

theorem hexRead_hex (digits n : Nat) : hexRead (hex digits n).toList = n := by
  have hzeros : ∀ k, (List.replicate k '0').foldl (fun n c => 16 * n + digitValue c) 0 = 0 := by
    intro k
    induction k with
    | zero => rfl
    | succ k ih =>
        rw [List.replicate_succ, List.foldl_cons]
        exact ih
  unfold hexRead hex
  rw [String.toList_ofList, List.foldl_append, hzeros, foldl_toDigits]

theorem length_hex {n : Nat} (h : n < 0x10000) : (hex 4 n).toList.length = 4 := by
  unfold hex
  have hlen := (Nat.length_toDigits_le_iff (b := 16) (n := n) (k := 4) (by omega) (by omega)).mpr h
  rw [String.toList_ofList, List.length_append, List.length_replicate]
  omega

/-! ## §2. Strings. -/

/-- The character behind a one-letter escape. -/
def unescape (c : Char) : Char :=
  if c = 'n' then '\n' else if c = 'r' then '\r' else if c = 't' then '\t'
  else if c = 'f' then Char.ofNat 0x0c else if c = 'b' then Char.ofNat 0x08 else c

/-- What four digits, or two groups of four, stand for. -/
def readUnicode (text : List Char) : Char × List Char :=
  let high := hexRead (text.take 4)
  let rest := text.drop 4
  if 0xd800 ≤ high ∧ high < 0xdc00 then
    (Char.ofNat (0x10000 + (high - 0xd800) * 0x400 + (hexRead ((rest.drop 2).take 4) - 0xdc00)),
      rest.drop 6)
  else (Char.ofNat high, rest)

/-- The next character of a JSON string, unless it ends here. -/
def readChar : List Char → Option (Char × List Char)
  | [] => none
  | c :: text =>
      if c = Char.ofNat 34 then none
      else if c = '\\' then
        match text with
        | [] => none
        | e :: text => some (if e = 'u' then readUnicode text else (unescape e, text))
      else some (c, text)

theorem readUnicode_hex {n : Nat} (hn : n < 0x10000) (h : ¬ (0xd800 ≤ n ∧ n < 0xdc00))
    (text : List Char) : readUnicode ((hex 4 n).toList ++ text) = (Char.ofNat n, text) := by
  unfold readUnicode
  rw [List.take_left' (length_hex hn), List.drop_left' (length_hex hn), hexRead_hex, if_neg h]

theorem readUnicode_pair {m n : Nat} (hm : m < 0x400) (hn : n < 0x400) (text : List Char) :
    readUnicode ((hex 4 (0xd800 + m)).toList ++ ("\\u".toList ++ ((hex 4 (0xdc00 + n)).toList ++ text)))
      = (Char.ofNat (0x10000 + m * 0x400 + n), text) := by
  unfold readUnicode
  rw [List.take_left' (length_hex (by omega)), List.drop_left' (length_hex (by omega)), hexRead_hex,
    if_pos (by omega)]
  have hdrop : ("\\u".toList ++ ((hex 4 (0xdc00 + n)).toList ++ text)).drop 2
      = (hex 4 (0xdc00 + n)).toList ++ text := List.drop_left' rfl
  have hdrop' : ("\\u".toList ++ ((hex 4 (0xdc00 + n)).toList ++ text)).drop 6 = text := by
    rw [← List.append_assoc]
    exact List.drop_left' (by rw [List.length_append, length_hex (by omega)]; rfl)
  rw [hdrop, hdrop', List.take_left' (length_hex (by omega)), hexRead_hex,
    Nat.add_sub_cancel_left, Nat.add_sub_cancel_left]

theorem readChar_escape (e : Char) (text : List Char) (h : e ≠ 'u') :
    readChar ('\\' :: e :: text) = some (unescape e, text) := by
  simp [readChar, h]

theorem readChar_unicode (text : List Char) :
    readChar ("\\u".toList ++ text) = some (readUnicode text) := by
  show readChar ('\\' :: 'u' :: text) = _
  simp [readChar]

/-- **What is written is read back.** -/
theorem readChar_dumpsChar (c : Char) (text : List Char) :
    readChar ((dumpsChar c).toList ++ text) = some (c, text) := by
  have hofNat : ∀ n, c.toNat = n → Char.ofNat n = c := by
    rintro n rfl
    exact Char.ofNat_toNat c
  unfold dumpsChar
  split
  next h =>
    rw [String.toList_ofList]
    rcases h with rfl | rfl <;> exact readChar_escape _ _ (by decide)
  next h =>
    obtain ⟨hquote, hbackslash⟩ := not_or.mp h
    split
    next h => rw [h]; exact readChar_escape 'n' _ (by decide)
    split
    next h => rw [h]; exact readChar_escape 'r' _ (by decide)
    split
    next h => rw [h]; exact readChar_escape 't' _ (by decide)
    split
    next h => rw [← hofNat _ h]; exact readChar_escape 'f' _ (by decide)
    split
    next h => rw [← hofNat _ h]; exact readChar_escape 'b' _ (by decide)
    split
    next h =>
      have htext : c.toString.toList = [c] := String.toList_singleton c
      rw [htext]
      simp [readChar, hquote, hbackslash]
    have hvalid := c.valid
    split
    next hle =>
      -- no character is half a surrogate pair
      have hhalf : ¬ (0xd800 ≤ c.toNat ∧ c.toNat < 0xdc00) := by
        rintro ⟨hlow, hhigh⟩
        rcases hvalid with hlt | ⟨hgt, -⟩
        · have : c.toNat < 0xd800 := hlt
          omega
        · have : 0xdfff < c.toNat := hgt
          omega
      rw [String.toList_append, List.append_assoc]
      rw [readChar_unicode, readUnicode_hex (by omega) hhalf, Char.ofNat_toNat]
    next hgt =>
      have hmax : c.toNat < 0x110000 := by
        rcases hvalid with hlt | ⟨-, hlt⟩
        · have : c.toNat < 0xd800 := hlt
          omega
        · exact hlt
      rw [String.toList_append, String.toList_append, String.toList_append, List.append_assoc,
        List.append_assoc, List.append_assoc]
      rw [readChar_unicode, readUnicode_pair (by omega) (by omega), hofNat]
      omega

/-- Two texts that begin with a string begin with the same string. -/
theorem dumpsStr_append_inj {s t : String} {rest rest' : List Char}
    (h : (dumpsStr s).toList ++ rest = (dumpsStr t).toList ++ rest') : s = t ∧ rest = rest' := by
  have hstop : ∀ text, readChar (Char.ofNat 34 :: text) = none := fun text => by simp [readChar]
  -- over the characters: each is read back from its text, and the quote ends them
  have hchars : ∀ cs ds : List Char,
      cs.flatMap (fun c => (dumpsChar c).toList) ++ Char.ofNat 34 :: rest
        = ds.flatMap (fun c => (dumpsChar c).toList) ++ Char.ofNat 34 :: rest' →
      cs = ds ∧ rest = rest' := by
    intro cs
    induction cs with
    | nil =>
        intro ds h
        cases ds with
        | nil => exact ⟨rfl, (List.cons.inj h).2⟩
        | cons d ds =>
            have hread := congrArg readChar h
            rw [List.flatMap_nil, List.nil_append, hstop, List.flatMap_cons, List.append_assoc,
              readChar_dumpsChar] at hread
            simp at hread
    | cons c cs ih =>
        intro ds h
        have hread := congrArg readChar h
        rw [List.flatMap_cons, List.append_assoc, readChar_dumpsChar] at hread
        cases ds with
        | nil =>
            rw [List.flatMap_nil, List.nil_append, hstop] at hread
            simp at hread
        | cons d ds =>
            rw [List.flatMap_cons, List.append_assoc, readChar_dumpsChar, Option.some.injEq,
              Prod.mk.injEq] at hread
            obtain ⟨rfl, htail⟩ := hread
            obtain ⟨rfl, hrest⟩ := ih ds htail
            exact ⟨rfl, hrest⟩
  have htext : ∀ s, (dumpsStr s).toList
      = Char.ofNat 34 :: (s.toList.flatMap (fun c => (dumpsChar c).toList) ++ [Char.ofNat 34]) := by
    intro s
    have hquote : (Char.ofNat 34).toString.toList = [Char.ofNat 34] := String.toList_singleton _
    unfold dumpsStr
    simp only [String.toList_append, String.toList_join, List.flatMap_map, hquote,
      List.cons_append, List.nil_append]
  rw [htext, htext, List.cons_append, List.cons_append, List.append_assoc, List.append_assoc] at h
  obtain ⟨hlist, hrest⟩ := hchars s.toList t.toList (List.cons.inj h).2
  exact ⟨String.toList_injective hlist, hrest⟩

/-! ## §3. Integers. -/

/-- What an integer is written with. -/
def isNumeral (c : Char) : Bool := c.isDigit || c = '-'

theorem isDigit_of_mem_repr {c : Char} {n : Nat} (h : c ∈ n.repr.toList) : c.isDigit = true := by
  rw [Nat.toList_repr] at h
  exact Nat.isDigit_of_mem_toDigits (by omega) (by omega) h

theorem nat_repr_inj {m n : Nat} (h : m.repr = n.repr) : m = n := by
  have hread := congrArg (fun text => Nat.ofDigitChars 10 text.toList 0) h
  simpa using hread

theorem isNumeral_of_mem_int {c : Char} {n : Int} (h : c ∈ (toString n).toList) :
    isNumeral c = true := by
  rw [Int.toString_eq_repr, Int.repr_eq_if] at h
  unfold isNumeral
  split at h
  next =>
    rw [isDigit_of_mem_repr h]
    rfl
  next =>
    rw [String.toList_append, List.mem_append] at h
    rcases h with h | h
    · have hminus : c = '-' := by simpa using h
      rw [hminus]
      rfl
    · rw [isDigit_of_mem_repr h]
      rfl

theorem toString_int_inj {m n : Int} (h : toString m = toString n) : m = n := by
  have hminus : ∀ a b : Nat, "-" ++ a.repr ≠ b.repr := by
    intro a b heq
    have hmem : '-' ∈ b.repr.toList := by
      rw [← heq, String.toList_append]
      exact List.mem_append_left _ (by simp)
    have hdigit := isDigit_of_mem_repr hmem
    revert hdigit
    decide
  rw [Int.toString_eq_repr, Int.toString_eq_repr, Int.repr_eq_if, Int.repr_eq_if] at h
  split at h
  next hm =>
    split at h
    next hn =>
      have := nat_repr_inj h
      omega
    next => exact absurd h.symm (hminus _ _)
  next hm =>
    split at h
    next => exact absurd h (hminus _ _)
    next hn =>
      have htext := congrArg String.toList h
      rw [String.toList_append, String.toList_append] at htext
      have := nat_repr_inj (String.toList_injective (List.append_cancel_left htext))
      omega

/-- Two texts that begin with an integer, and go on with something else, begin
with the same integer. -/
theorem int_append_inj {m n : Int} {rest rest' : List Char}
    (hrest : ∀ c ∈ rest.head?, isNumeral c = false) (hrest' : ∀ c ∈ rest'.head?, isNumeral c = false)
    (h : (toString m).toList ++ rest = (toString n).toList ++ rest') : m = n ∧ rest = rest' := by
  have hsplit : ∀ (k : Int) (text : List Char), (∀ c ∈ text.head?, isNumeral c = false) →
      ((toString k).toList ++ text).takeWhile isNumeral = (toString k).toList := by
    intro k text htext
    rw [List.takeWhile_append_of_pos fun c hc => isNumeral_of_mem_int hc]
    cases text with
    | nil => exact List.append_nil _
    | cons c text =>
        rw [List.takeWhile_cons_of_neg (by rw [htext c rfl]; decide), List.append_nil]
  have htext := congrArg (List.takeWhile isNumeral) h
  rw [hsplit m rest hrest, hsplit n rest' hrest'] at htext
  rw [htext] at h
  exact ⟨toString_int_inj (String.toList_injective htext), List.append_cancel_left h⟩

end EventCart.Lib.Json
