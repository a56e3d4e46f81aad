/-
  EventCart.Lib.JsonLexemes
  ─────────────────────────
  **THE LEXEMES OF A JSON DOCUMENT.**

  Strings and numbers as the grammar derives them, with every freedom it
  leaves (which characters are escaped and how, signs, fractions and
  exponents), and as the decoder of `json` scans them.  For each lexeme

    • the scanner takes a text the grammar derives (`…_sound`),
    • and takes all of it, whatever delimiter follows (`…_complete`).

  A lone surrogate is a character of a Python string and no `Char`; texts with
  one are not derived here, and the scanner refuses them.  The interpreter's
  limit on the digits of an integer is not modelled.
-/
import EventCart.Lib.JsonTexts
import Mathlib.Data.List.TakeWhile

namespace EventCart.Lib.Json

/-! ## §1. Blanks and delimiters. -/

/-- What may stand between two lexemes. -/
def isBlank (c : Char) : Bool := c = ' ' || c = '\t' || c = '\n' || c = '\r'

def Blank (text : List Char) : Prop := ∀ c ∈ text, isBlank c = true

/-- The text from its first lexeme on. -/
def skip (text : List Char) : List Char := text.dropWhile isBlank

/-- A text that does not begin with a blank. -/
def Begun (text : List Char) : Prop := ∀ c ∈ text.head?, isBlank c = false

theorem blank_nil : Blank [] := fun _ h => absurd h List.not_mem_nil

theorem blank_singleton {c : Char} (h : isBlank c = true) : Blank [c] :=
  fun d hd => by rw [List.mem_singleton.mp hd]; exact h

theorem skip_blank_append {w : List Char} (h : Blank w) (text : List Char) :
    skip (w ++ text) = skip text := by
  unfold skip
  exact List.dropWhile_append_of_pos h

theorem skip_of_begun {text : List Char} (h : Begun text) : skip text = text := by
  cases text with
  | nil => rfl
  | cons c text =>
      unfold skip
      rw [List.dropWhile_cons_of_neg]
      rw [h c rfl]
      decide

theorem skip_cons {c : Char} (h : isBlank c = false) (text : List Char) :
    skip (c :: text) = c :: text := by
  apply skip_of_begun
  intro d hd
  rw [List.head?_cons, Option.mem_some] at hd
  exact hd ▸ h

/-- The blanks in front of the first lexeme. -/
theorem blank_skip (text : List Char) : ∃ w, Blank w ∧ text = w ++ skip text :=
  ⟨text.takeWhile isBlank, fun _ hc => List.mem_takeWhile_imp hc,
    List.takeWhile_append_dropWhile.symm⟩

/-- What ends a number: a blank, a comma, a closing bracket, the end. -/
def isDelimiter (c : Char) : Bool := isBlank c || c = ',' || c = ']' || c = '\x7d'

def Ends (text : List Char) : Prop := ∀ c ∈ text.head?, isDelimiter c = true

theorem ends_nil : Ends [] := fun _ h => absurd h (by simp)

theorem ends_cons {c : Char} (h : isDelimiter c = true) (text : List Char) : Ends (c :: text) := by
  intro d hd
  rw [List.head?_cons, Option.mem_some] at hd
  exact hd ▸ h

theorem ends_blank_append {w text : List Char} (h : Blank w) (ends : Ends text) :
    Ends (w ++ text) := by
  cases w with
  | nil => exact ends
  | cons c w =>
      apply ends_cons
      unfold isDelimiter
      rw [h c List.mem_cons_self]
      rfl

/-! ## §2. Strings. -/

def quote : Char := Char.ofNat 34

/-- A hexadecimal digit, upper or lower case. -/
def hexDigit? (c : Char) : Option Nat :=
  if 48 ≤ c.toNat ∧ c.toNat ≤ 57 then some (c.toNat - 48)
  else if 97 ≤ c.toNat ∧ c.toNat ≤ 102 then some (c.toNat - 87)
  else if 65 ≤ c.toNat ∧ c.toNat ≤ 70 then some (c.toNat - 55)
  else none

/-- The number that hexadecimal digits spell. -/
def hexValue? (digits : List Char) : Option Nat :=
  digits.foldlM (fun n c => (hexDigit? c).map (16 * n + ·)) 0

/-- Four digits that spell `n`. -/
def Hex4 (n : Nat) (digits : List Char) : Prop := digits.length = 4 ∧ hexValue? digits = some n

/-- What stands for the character after a backslash. -/
def backslash? (e : Char) : Option Char :=
  if e = quote ∨ e = '\\' ∨ e = '/' then some e
  else if e = 'b' then some (Char.ofNat 0x08)
  else if e = 'f' then some (Char.ofNat 0x0c)
  else if e = 'n' then some '\n'
  else if e = 'r' then some '\r'
  else if e = 't' then some '\t'
  else none

/-- The ways to write a character inside a string. -/
inductive CharText : Char → List Char → Prop where
  | plain {c : Char} (quote : c ≠ quote) (backslash : c ≠ '\\') (control : 0x20 ≤ c.toNat) :
      CharText c [c]
  | escaped {c e : Char} (escape : backslash? e = some c) : CharText c ['\\', e]
  | unicode {c : Char} {digits : List Char} (spelled : Hex4 c.toNat digits) :
      CharText c ('\\' :: 'u' :: digits)
  | pair {c : Char} {high low : List Char} (astral : 0x10000 ≤ c.toNat)
      (spelled : Hex4 (0xd800 + (c.toNat - 0x10000) / 0x400) high)
      (spelled' : Hex4 (0xdc00 + (c.toNat - 0x10000) % 0x400) low) :
      CharText c ('\\' :: 'u' :: (high ++ '\\' :: 'u' :: low))

/-- The ways to write the characters of a string, one after the other. -/
inductive CharsText : List Char → List Char → Prop where
  | nil : CharsText [] []
  | cons {c : Char} {cs t ts : List Char} (first : CharText c t) (rest : CharsText cs ts) :
      CharsText (c :: cs) (t ++ ts)

/-- A string between its quotes. -/
inductive StrText : String → List Char → Prop where
  | quoted {cs t : List Char} (chars : CharsText cs t) :
      StrText (String.ofList cs) (quote :: (t ++ [quote]))

/-- Four hexadecimal digits. -/
def readHex4 (text : List Char) : Option (Nat × List Char) :=
  if 4 ≤ text.length then (hexValue? (text.take 4)).map (·, text.drop 4) else none

/-- The second half of a surrogate pair, after the first. -/
def readLowSurrogate (high : Nat) : List Char → Option (Char × List Char)
  | '\\' :: 'u' :: text =>
      match readHex4 text with
      | none => none
      | some (low, rest) =>
          if 0xdc00 ≤ low ∧ low < 0xe000 then
            some (Char.ofNat (0x10000 + (high - 0xd800) * 0x400 + (low - 0xdc00)), rest)
          else none
  | _ => none

/-- What follows `\u`: four digits, or a surrogate pair. -/
def readUnicodeEscape (text : List Char) : Option (Char × List Char) :=
  match readHex4 text with
  | none => none
  | some (n, rest) =>
      if 0xd800 ≤ n ∧ n < 0xdc00 then readLowSurrogate n rest
      else if 0xdc00 ≤ n ∧ n < 0xe000 then none
      else some (Char.ofNat n, rest)

/-- The next character of a string that does not end here. -/
def readStrChar : List Char → Option (Char × List Char)
  | [] => none
  | c :: text =>
      if c = '\\' then
        match text with
        | [] => none
        | e :: text => if e = 'u' then readUnicodeEscape text else (backslash? e).map (·, text)
      else if c.toNat < 0x20 then none
      else some (c, text)

/-- The characters up to the closing quote. -/
def readChars : Nat → List Char → Option (List Char × List Char)
  | 0, _ => none
  | _ + 1, [] => none
  | fuel + 1, c :: text =>
      if c = quote then some ([], text)
      else match readStrChar (c :: text) with
        | none => none
        | some (d, rest) => (readChars fuel rest).map fun p => (d :: p.1, p.2)

/-- A string, after its opening quote. -/
def readStr (text : List Char) : Option (String × List Char) :=
  (readChars (text.length + 1) text).map fun p => (String.ofList p.1, p.2)

theorem readHex4_append {n : Nat} {digits : List Char} (h : Hex4 n digits) (rest : List Char) :
    readHex4 (digits ++ rest) = some (n, rest) := by
  obtain ⟨hlen, hvalue⟩ := h
  unfold readHex4
  rw [if_pos (by rw [List.length_append]; omega), List.take_left' hlen, List.drop_left' hlen,
    hvalue]
  rfl

theorem readHex4_sound {n : Nat} {text rest : List Char} (h : readHex4 text = some (n, rest)) :
    ∃ digits, text = digits ++ rest ∧ Hex4 n digits := by
  unfold readHex4 at h
  split at h
  next hlen =>
    obtain ⟨m, hvalue, hpair⟩ := Option.map_eq_some_iff.mp h
    obtain ⟨rfl, rfl⟩ := Prod.mk.inj hpair
    refine ⟨text.take 4, (List.take_append_drop 4 text).symm, ?_, hvalue⟩
    rw [List.length_take]
    omega
  next => exact nomatch h

/-- Four digits spell less than 2^16. -/
theorem Hex4.lt {n : Nat} {digits : List Char} (h : Hex4 n digits) : n < 0x10000 := by
  have hdigit : ∀ c d, hexDigit? c = some d → d < 16 := by
    intro c d h
    unfold hexDigit? at h
    split at h
    next => obtain rfl := Option.some.inj h; omega
    split at h
    next => obtain rfl := Option.some.inj h; omega
    split at h
    next => obtain rfl := Option.some.inj h; omega
    next => exact nomatch h
  -- the fold stays below sixteen to the digits read, from any start
  have hfold : ∀ (ds : List Char) (m n : Nat),
      ds.foldlM (fun n c => (hexDigit? c).map (16 * n + ·)) m = some n →
        n < 16 ^ ds.length * (m + 1) := by
    intro ds
    induction ds with
    | nil =>
        intro m n h
        obtain rfl : m = n := Option.some.inj h
        simp
    | cons c ds ih =>
        intro m n h
        rw [List.foldlM_cons] at h
        obtain ⟨k, hk, hrest⟩ := Option.bind_eq_some_iff.mp h
        obtain ⟨d, hd, rfl⟩ := Option.map_eq_some_iff.mp hk
        have hlt := hdigit c d hd
        calc n < 16 ^ ds.length * (16 * m + d + 1) := ih _ _ hrest
          _ ≤ 16 ^ ds.length * (16 * (m + 1)) := Nat.mul_le_mul_left _ (by omega)
          _ = 16 ^ (c :: ds).length * (m + 1) := by
            rw [List.length_cons, Nat.pow_succ, Nat.mul_assoc]
  have hn := hfold digits 0 n h.2
  rw [h.1] at hn
  omega

theorem toNat_ofNat {n : Nat} (h : n < 0xd800 ∨ (0xdfff < n ∧ n < 0x110000)) :
    (Char.ofNat n).toNat = n := by
  have hvalid : n.isValidChar := h
  unfold Char.ofNat
  rw [dif_pos hvalid]
  rfl

/-- A character is no surrogate. -/
theorem toNat_valid (c : Char) : c.toNat < 0xd800 ∨ (0xdfff < c.toNat ∧ c.toNat < 0x110000) := by
  rcases c.valid with h | h
  · exact .inl h
  · exact .inr h

theorem readLowSurrogate_sound {n : Nat} {c : Char} {text rest : List Char}
    (hn : 0xd800 ≤ n ∧ n < 0xdc00) (h : readLowSurrogate n text = some (c, rest)) :
    ∃ low, text = '\\' :: 'u' :: (low ++ rest) ∧ 0x10000 ≤ c.toNat
      ∧ n = 0xd800 + (c.toNat - 0x10000) / 0x400
      ∧ Hex4 (0xdc00 + (c.toNat - 0x10000) % 0x400) low := by
  unfold readLowSurrogate at h
  split at h
  next text =>
    split at h
    next => exact nomatch h
    next m rest' hread =>
      obtain ⟨low, rfl, hlow⟩ := readHex4_sound hread
      split at h
      next hm =>
        obtain ⟨rfl, rfl⟩ := Prod.mk.inj (Option.some.inj h)
        -- the number of a pair is that of a character
        rw [toNat_ofNat (by omega)]
        have hmod : 0xdc00 + (0x10000 + (n - 0xd800) * 0x400 + (m - 0xdc00) - 0x10000) % 0x400
            = m := by omega
        exact ⟨low, rfl, by omega, by omega, hmod.symm ▸ hlow⟩
      next => exact nomatch h
  next => exact nomatch h

theorem readLowSurrogate_of_hex {high low : Nat} {text rest : List Char}
    (hread : readHex4 text = some (low, rest)) (hlow : 0xdc00 ≤ low ∧ low < 0xe000) :
    readLowSurrogate high ('\\' :: 'u' :: text)
      = some (Char.ofNat (0x10000 + (high - 0xd800) * 0x400 + (low - 0xdc00)), rest) := by
  simp [readLowSurrogate, hread, hlow]

theorem readUnicodeEscape_sound {c : Char} {text rest : List Char}
    (h : readUnicodeEscape text = some (c, rest)) :
    ∃ t, text = t ++ rest ∧ CharText c ('\\' :: 'u' :: t) := by
  unfold readUnicodeEscape at h
  split at h
  next => exact nomatch h
  next n rest' hread =>
    obtain ⟨digits, rfl, hdigits⟩ := readHex4_sound hread
    have hlt := hdigits.lt
    -- the first half of a pair, the second half alone, or a character
    split at h
    next hhigh =>
      obtain ⟨low, rfl, hastral, rfl, hlow⟩ := readLowSurrogate_sound hhigh h
      exact ⟨digits ++ '\\' :: 'u' :: low, by simp, .pair hastral hdigits hlow⟩
    next hhigh =>
      split at h
      next => exact nomatch h
      next hlow =>
        obtain ⟨rfl, rfl⟩ := Prod.mk.inj (Option.some.inj h)
        refine ⟨digits, rfl, .unicode ?_⟩
        rw [toNat_ofNat (by omega)]
        exact hdigits

theorem readStrChar_sound {c : Char} {text rest : List Char} (begun : ∀ d ∈ text.head?, d ≠ quote)
    (h : readStrChar text = some (c, rest)) : ∃ t, text = t ++ rest ∧ CharText c t := by
  unfold readStrChar at h
  split at h
  next => exact nomatch h
  next d text =>
    split at h
    next hd =>
      split at h
      next => exact nomatch h
      next e text =>
        split at h
        next he =>
          obtain ⟨t, rfl, ht⟩ := readUnicodeEscape_sound h
          exact ⟨_, by rw [hd, he]; rfl, ht⟩
        next =>
          obtain ⟨c', hescape, hpair⟩ := Option.map_eq_some_iff.mp h
          obtain ⟨rfl, rfl⟩ := Prod.mk.inj hpair
          exact ⟨_, by rw [hd]; rfl, .escaped hescape⟩
    next hd =>
      split at h
      next => exact nomatch h
      next hcontrol =>
        obtain ⟨rfl, rfl⟩ := Prod.mk.inj (Option.some.inj h)
        exact ⟨[d], rfl, .plain (begun d rfl) hd (by omega)⟩

/-- **A character is read back**, however it is written. -/
theorem readStrChar_complete {c : Char} {t : List Char} (h : CharText c t) (rest : List Char) :
    readStrChar (t ++ rest) = some (c, rest) := by
  have hvalid := toNat_valid c
  cases h with
  | plain hquote hbackslash hcontrol =>
      show (if c = '\\' then _ else if c.toNat < 0x20 then none else some (c, rest)) = _
      rw [if_neg hbackslash, if_neg (by omega)]
  -- `u` stands for no character by itself
  | @escaped e hescape =>
      have he : e ≠ 'u' := by
        rintro rfl
        exact nomatch hescape
      show (if e = 'u' then readUnicodeEscape rest else (backslash? e).map (·, rest)) = _
      rw [if_neg he, hescape]
      rfl
  -- a character is no surrogate, so no second half is looked for
  | @unicode digits hdigits =>
      show readUnicodeEscape (digits ++ rest) = _
      unfold readUnicodeEscape
      rw [readHex4_append hdigits]
      show (if 0xd800 ≤ c.toNat ∧ c.toNat < 0xdc00 then _ else _) = _
      rw [if_neg (by omega), if_neg (by omega), Char.ofNat_toNat]
  -- the halves lie in their ranges, and together give the character back
  | @pair high low hastral hhigh hlow =>
      have hn : 0xd800 ≤ 0xd800 + (c.toNat - 0x10000) / 0x400
          ∧ 0xd800 + (c.toNat - 0x10000) / 0x400 < 0xdc00 := by omega
      have hm : 0xdc00 ≤ 0xdc00 + (c.toNat - 0x10000) % 0x400
          ∧ 0xdc00 + (c.toNat - 0x10000) % 0x400 < 0xe000 := by omega
      have hsum : 0x10000 + (0xd800 + (c.toNat - 0x10000) / 0x400 - 0xd800) * 0x400
          + (0xdc00 + (c.toNat - 0x10000) % 0x400 - 0xdc00) = c.toNat := by omega
      have htext : high ++ '\\' :: 'u' :: low ++ rest = high ++ '\\' :: 'u' :: (low ++ rest) := by
        simp
      have hsecond : readLowSurrogate (0xd800 + (c.toNat - 0x10000) / 0x400)
          ('\\' :: 'u' :: (low ++ rest)) = some (c, rest) := by
        rw [readLowSurrogate_of_hex (readHex4_append hlow rest) hm, hsum, Char.ofNat_toNat]
      show readUnicodeEscape (high ++ '\\' :: 'u' :: low ++ rest) = _
      unfold readUnicodeEscape
      rw [htext, readHex4_append hhigh]
      show (if 0xd800 ≤ 0xd800 + (c.toNat - 0x10000) / 0x400
        ∧ 0xd800 + (c.toNat - 0x10000) / 0x400 < 0xdc00 then _ else _) = _
      rw [if_pos hn, hsecond]

/-- A character is not written with a quote in front. -/
theorem CharText.head {c : Char} {t : List Char} (h : CharText c t) :
    ∃ d ds, t = d :: ds ∧ d ≠ quote := by
  cases h with
  | plain hquote => exact ⟨c, [], rfl, hquote⟩
  | escaped => exact ⟨'\\', _, rfl, by decide⟩
  | unicode => exact ⟨'\\', _, rfl, by decide⟩
  | pair => exact ⟨'\\', _, rfl, by decide⟩

theorem readChars_step {fuel : Nat} {c d : Char} {text rest : List Char} (hc : c ≠ quote)
    (hread : readStrChar (c :: text) = some (d, rest)) :
    readChars (fuel + 1) (c :: text) = (readChars fuel rest).map fun p => (d :: p.1, p.2) := by
  simp [readChars, hc, hread]

theorem readChars_sound : ∀ {fuel : Nat} {text cs rest : List Char},
    readChars fuel text = some (cs, rest) → ∃ t, text = t ++ quote :: rest ∧ CharsText cs t := by
  intro fuel
  induction fuel with
  | zero => intro text cs rest h; exact nomatch h
  | succ fuel ih =>
      intro text cs rest h
      cases text with
      | nil => exact nomatch h
      | cons c text =>
          unfold readChars at h
          by_cases hc : c = quote
          · rw [if_pos hc] at h
            obtain ⟨rfl, rfl⟩ := Prod.mk.inj (Option.some.inj h)
            exact ⟨[], by rw [hc]; rfl, .nil⟩
          · rw [if_neg hc] at h
            cases hread : readStrChar (c :: text) with
            | none => rw [hread] at h; exact nomatch h
            | some p =>
                obtain ⟨d, rest'⟩ := p
                rw [hread] at h
                obtain ⟨⟨ds, rest''⟩, hchars, hpair⟩ := Option.map_eq_some_iff.mp h
                obtain ⟨rfl, rfl⟩ := Prod.mk.inj hpair
                obtain ⟨t, htext, ht⟩ := readStrChar_sound (by
                  intro e he
                  rw [List.head?_cons, Option.mem_some] at he
                  exact he ▸ hc) hread
                obtain ⟨ts, rfl, hts⟩ := ih hchars
                exact ⟨t ++ ts, by rw [htext, List.append_assoc], .cons ht hts⟩

theorem readChars_complete {cs t : List Char} (h : CharsText cs t) (rest : List Char) :
    ∀ {fuel : Nat}, t.length < fuel → readChars fuel (t ++ quote :: rest) = some (cs, rest) := by
  induction h with
  | nil =>
      intro fuel hfuel
      cases fuel with
      | zero => exact absurd hfuel (Nat.not_lt_zero _)
      | succ fuel =>
          show (if quote = quote then _ else _) = _
          rw [if_pos rfl]
  | @cons c cs t ts hfirst _ ih =>
      intro fuel hfuel
      -- one character of the text at least, for one unit of fuel
      obtain ⟨d, ds, rfl, hd⟩ := hfirst.head
      rw [List.length_append, List.length_cons] at hfuel
      cases fuel with
      | zero => omega
      | succ fuel =>
          have hread : readStrChar (d :: (ds ++ (ts ++ quote :: rest)))
              = some (c, ts ++ quote :: rest) := readStrChar_complete hfirst _
          rw [List.append_assoc, List.cons_append, readChars_step hd hread, ih (by omega)]
          rfl

theorem readStr_sound {s : String} {text rest : List Char} (h : readStr text = some (s, rest)) :
    ∃ t, quote :: text = t ++ rest ∧ StrText s t := by
  obtain ⟨⟨cs, rest'⟩, hchars, hpair⟩ := Option.map_eq_some_iff.mp h
  obtain ⟨rfl, rfl⟩ := Prod.mk.inj hpair
  obtain ⟨t, rfl, ht⟩ := readChars_sound hchars
  exact ⟨quote :: (t ++ [quote]), by simp, .quoted ht⟩

/-- **A string is read back**, however it is written. -/
theorem readStr_complete {s : String} {t : List Char} (h : StrText s t) (rest : List Char) :
    ∃ body, t ++ rest = quote :: body ∧ readStr body = some (s, rest) := by
  cases h with
  | @quoted cs t chars =>
      refine ⟨t ++ quote :: rest, by simp, ?_⟩
      unfold readStr
      rw [readChars_complete chars rest (by rw [List.length_append]; omega)]
      rfl

/-! ## §3. Numbers. -/

/-- The digits of an integer: no zero in front. -/
inductive NatText : List Char → Prop where
  | zero : NatText ['0']
  | digits {d : Char} {ds : List Char} (first : d.isDigit = true) (nonzero : d ≠ '0')
      (rest : ∀ c ∈ ds, c.isDigit = true) : NatText (d :: ds)

/-- One digit or more. -/
def Digits (text : List Char) : Prop := text ≠ [] ∧ ∀ c ∈ text, c.isDigit = true

/-- The fraction, if there is one. -/
inductive FracText : List Char → Prop where
  | none : FracText []
  | some {ds : List Char} (digits : Digits ds) : FracText ('.' :: ds)

/-- The exponent, if there is one. -/
inductive ExpText : List Char → Prop where
  | none : ExpText []
  | some {e : Char} {ds : List Char} (e_eq : e = 'e' ∨ e = 'E') (digits : Digits ds) :
      ExpText (e :: ds)
  | signed {e sign : Char} {ds : List Char} (e_eq : e = 'e' ∨ e = 'E')
      (sign_eq : sign = '+' ∨ sign = '-') (digits : Digits ds) : ExpText (e :: sign :: ds)

/-- The sign of a number. -/
def signText (minus : Bool) : List Char := if minus then ['-'] else []

/-- The value of a number: an `int` without fraction and exponent, otherwise
what `float` makes of its text. -/
def numberValue (parseFloat : List Char → String) (minus : Bool) (digits frac exp : List Char) :
    Json :=
  if frac = [] ∧ exp = [] then
    .int (if minus then -(Nat.ofDigitChars 10 digits 0 : Int) else Nat.ofDigitChars 10 digits 0)
  else .float (parseFloat (signText minus ++ digits ++ frac ++ exp))

/-- The digits in front, and the rest. -/
def spanDigits (text : List Char) : List Char × List Char :=
  (text.takeWhile Char.isDigit, text.dropWhile Char.isDigit)

/-- `0|[1-9][0-9]*` -/
def readNat : List Char → Option (List Char × List Char)
  | [] => none
  | c :: text =>
      if c = '0' then some (['0'], text)
      else if c.isDigit then some (c :: (spanDigits text).1, (spanDigits text).2)
      else none

/-- `(\.[0-9]+)?` -/
def readFrac : List Char → List Char × List Char
  | [] => ([], [])
  | c :: text =>
      if c = '.' ∧ (spanDigits text).1 ≠ [] then (c :: (spanDigits text).1, (spanDigits text).2)
      else ([], c :: text)

/-- `([eE][-+]?[0-9]+)?` -/
def readExp : List Char → List Char × List Char
  | [] => ([], [])
  | e :: text =>
      if e = 'e' ∨ e = 'E' then
        match text with
        | [] => ([], [e])
        | sign :: digits =>
            if sign = '+' ∨ sign = '-' then
              if (spanDigits digits).1 ≠ [] then
                (e :: sign :: (spanDigits digits).1, (spanDigits digits).2)
              else ([], e :: sign :: digits)
            else if (spanDigits (sign :: digits)).1 ≠ [] then
              (e :: (spanDigits (sign :: digits)).1, (spanDigits (sign :: digits)).2)
            else ([], e :: sign :: digits)
      else ([], e :: text)

/-- The sign in front, and the rest. -/
def readSign : List Char → Bool × List Char
  | [] => (false, [])
  | c :: text => if c = '-' then (true, text) else (false, c :: text)

/-- A number. -/
def readNumber (parseFloat : List Char → String) (text : List Char) :
    Option (Json × List Char) :=
  (readNat (readSign text).2).map fun p =>
    (numberValue parseFloat (readSign text).1 p.1 (readFrac p.2).1 (readExp (readFrac p.2).2).1,
      (readExp (readFrac p.2).2).2)

theorem spanDigits_append (text : List Char) :
    (spanDigits text).1 ++ (spanDigits text).2 = text := List.takeWhile_append_dropWhile

theorem isDigit_of_mem_span {text : List Char} {c : Char} (h : c ∈ (spanDigits text).1) :
    c.isDigit = true := List.mem_takeWhile_imp h

/-- Digits end where a text goes on with something else. -/
theorem spanDigits_eq {ds rest : List Char} (hds : ∀ c ∈ ds, c.isDigit = true)
    (hrest : ∀ c ∈ rest.head?, c.isDigit = false) : spanDigits (ds ++ rest) = (ds, rest) := by
  unfold spanDigits
  rw [List.takeWhile_append_of_pos hds, List.dropWhile_append_of_pos hds]
  cases rest with
  | nil => simp
  | cons c rest =>
      have hc : ¬ c.isDigit = true := by rw [hrest c rfl]; decide
      rw [List.takeWhile_cons_of_neg hc, List.dropWhile_cons_of_neg hc, List.append_nil]

theorem readNat_sound {text ds rest : List Char} (h : readNat text = some (ds, rest)) :
    text = ds ++ rest ∧ NatText ds := by
  unfold readNat at h
  split at h
  next => exact nomatch h
  next c text =>
    by_cases hzero : c = '0'
    · rw [if_pos hzero] at h
      obtain ⟨rfl, rfl⟩ := Prod.mk.inj (Option.some.inj h)
      exact ⟨by rw [hzero]; rfl, .zero⟩
    · rw [if_neg hzero] at h
      by_cases hdigit : c.isDigit = true
      · rw [if_pos hdigit] at h
        obtain ⟨rfl, rfl⟩ := Prod.mk.inj (Option.some.inj h)
        refine ⟨?_, .digits hdigit hzero fun _ hc => isDigit_of_mem_span hc⟩
        rw [List.cons_append, spanDigits_append]
      · rw [if_neg hdigit] at h
        exact nomatch h

theorem readNat_complete {ds rest : List Char} (h : NatText ds)
    (hrest : ∀ c ∈ rest.head?, c.isDigit = false) : readNat (ds ++ rest) = some (ds, rest) := by
  cases h with
  | zero => rfl
  | @digits d ds hfirst hnonzero hdigits =>
      show (if d = '0' then _ else if d.isDigit = true then
        some (d :: (spanDigits (ds ++ rest)).1, (spanDigits (ds ++ rest)).2) else none) = _
      rw [if_neg hnonzero, if_pos hfirst, spanDigits_eq hdigits hrest]

theorem readFrac_sound (text : List Char) :
    text = (readFrac text).1 ++ (readFrac text).2 ∧ FracText (readFrac text).1 := by
  unfold readFrac
  split
  next => exact ⟨rfl, .none⟩
  next c text =>
    split
    next h =>
      refine ⟨by rw [List.cons_append, spanDigits_append], ?_⟩
      rw [h.1]
      exact .some ⟨h.2, fun _ hc => isDigit_of_mem_span hc⟩
    next => exact ⟨rfl, .none⟩

theorem readFrac_complete {frac rest : List Char} (h : FracText frac)
    (hdigit : ∀ c ∈ rest.head?, c.isDigit = false) (hdot : ∀ c ∈ rest.head?, c ≠ '.') :
    readFrac (frac ++ rest) = (frac, rest) := by
  cases h with
  | none =>
      cases rest with
      | nil => rfl
      | cons c rest =>
          show (if c = '.' ∧ _ then _ else ([], c :: rest)) = _
          rw [if_neg fun h => hdot c rfl h.1]
  | @some ds hds =>
      have hspan := spanDigits_eq hds.2 hdigit
      show (if '.' = '.' ∧ (spanDigits (ds ++ rest)).1 ≠ [] then
        ('.' :: (spanDigits (ds ++ rest)).1, (spanDigits (ds ++ rest)).2) else _) = _
      rw [hspan, if_pos ⟨rfl, hds.1⟩]

theorem readExp_sound (text : List Char) :
    text = (readExp text).1 ++ (readExp text).2 ∧ ExpText (readExp text).1 := by
  unfold readExp
  split
  next => exact ⟨rfl, .none⟩
  next e text =>
    split
    next he =>
      split
      next => exact ⟨rfl, .none⟩
      next sign digits =>
        split
        next hsign =>
          split
          next hdigits =>
            refine ⟨by simp [spanDigits_append], .signed he hsign ⟨hdigits, ?_⟩⟩
            exact fun _ hc => isDigit_of_mem_span hc
          next => exact ⟨rfl, .none⟩
        next hsign =>
          split
          next hdigits =>
            refine ⟨by rw [List.cons_append, spanDigits_append], .some he ⟨hdigits, ?_⟩⟩
            exact fun _ hc => isDigit_of_mem_span hc
          next => exact ⟨rfl, .none⟩
    next => exact ⟨rfl, .none⟩

theorem readExp_complete {exp rest : List Char} (h : ExpText exp)
    (hdigit : ∀ c ∈ rest.head?, c.isDigit = false)
    (he : ∀ c ∈ rest.head?, ¬ (c = 'e' ∨ c = 'E')) : readExp (exp ++ rest) = (exp, rest) := by
  cases h with
  | none =>
      cases rest with
      | nil => rfl
      | cons c rest =>
          show (if c = 'e' ∨ c = 'E' then _ else ([], c :: rest)) = _
          rw [if_neg (he c rfl)]
  | @some e ds hhead hds =>
      -- a digit first: no sign
      cases ds with
      | nil => exact absurd rfl hds.1
      | cons d ds =>
          have hd : ¬ (d = '+' ∨ d = '-') := by
            have hdigit := hds.2 d List.mem_cons_self
            rintro (rfl | rfl) <;> exact absurd hdigit (by decide)
          have hspan : spanDigits (d :: (ds ++ rest)) = (d :: ds, rest) :=
            spanDigits_eq hds.2 hdigit
          simp [readExp, hhead, hd, hspan]
  | @signed e sign ds hhead hsign hds =>
      have hspan := spanDigits_eq hds.2 hdigit
      simp [readExp, hhead, hsign, hspan, hds.1]

/-- Delimiters neither continue a number nor begin one. -/
theorem not_of_delimiter {c : Char} (h : isDelimiter c = true) :
    c.isDigit = false ∧ c ≠ '.' ∧ ¬ (c = 'e' ∨ c = 'E') := by
  simp only [isDelimiter, isBlank, Bool.or_eq_true, decide_eq_true_eq] at h
  rcases h with (((((rfl | rfl) | rfl) | rfl) | rfl) | rfl) | rfl <;> decide

/-- A fraction or an exponent begins with no digit. -/
theorem head_frac_exp {frac exp rest : List Char} (hfrac : FracText frac) (hexp : ExpText exp)
    (ends : Ends rest) : ∀ c ∈ (frac ++ (exp ++ rest)).head?, c.isDigit = false := by
  have htail : ∀ c ∈ (exp ++ rest).head?, c.isDigit = false := by
    cases hexp with
    | none => exact fun c hc => (not_of_delimiter (ends c hc)).1
    | some he =>
        rintro c ⟨⟩
        rcases he with rfl | rfl <;> decide
    | signed he =>
        rintro c ⟨⟩
        rcases he with rfl | rfl <;> decide
  cases hfrac with
  | none => exact htail
  | some => rintro c ⟨⟩; decide

theorem head_exp {exp rest : List Char} (hexp : ExpText exp) (ends : Ends rest) :
    ∀ c ∈ (exp ++ rest).head?, c ≠ '.' := by
  cases hexp with
  | none => exact fun c hc => (not_of_delimiter (ends c hc)).2.1
  | some he =>
      rintro c ⟨⟩
      rcases he with rfl | rfl <;> decide
  | signed he =>
      rintro c ⟨⟩
      rcases he with rfl | rfl <;> decide

/-- The first character of a number. -/
theorem NatText.head {ds : List Char} (h : NatText ds) :
    ∃ c t, ds = c :: t ∧ c.isDigit = true := by
  cases h with
  | zero => exact ⟨'0', [], rfl, by decide⟩
  | digits hfirst => exact ⟨_, _, rfl, hfirst⟩

theorem readSign_complete (minus : Bool) {ds : List Char} (h : NatText ds) (rest : List Char) :
    readSign (signText minus ++ (ds ++ rest)) = (minus, ds ++ rest) := by
  cases minus with
  | true => rfl
  | false =>
      -- the first digit is no minus
      obtain ⟨c, t, rfl, hc⟩ := h.head
      have hminus : c ≠ '-' := by
        rintro rfl
        exact absurd hc (by decide)
      show (if c = '-' then _ else (false, c :: (t ++ rest))) = _
      rw [if_neg hminus]
      rfl

theorem readSign_sound (text : List Char) :
    text = signText (readSign text).1 ++ (readSign text).2 := by
  unfold readSign
  split
  next => rfl
  next c text =>
    split
    next h => rw [h]; rfl
    next => rfl

theorem readNumber_sound {parseFloat : List Char → String} {text rest : List Char} {v : Json}
    (h : readNumber parseFloat text = some (v, rest)) :
    ∃ minus ds frac exp, text = signText minus ++ ds ++ frac ++ exp ++ rest ∧ NatText ds
      ∧ FracText frac ∧ ExpText exp ∧ v = numberValue parseFloat minus ds frac exp := by
  obtain ⟨⟨ds, rest'⟩, hnat, hpair⟩ := Option.map_eq_some_iff.mp h
  obtain ⟨rfl, rfl⟩ := Prod.mk.inj hpair
  obtain ⟨htext, hds⟩ := readNat_sound hnat
  obtain ⟨hfracText, hfrac⟩ := readFrac_sound rest'
  obtain ⟨hexpText, hexp⟩ := readExp_sound (readFrac rest').2
  refine ⟨_, ds, _, _, ?_, hds, hfrac, hexp, rfl⟩
  rw [List.append_assoc, List.append_assoc, List.append_assoc, ← hexpText, ← hfracText, ← htext]
  exact readSign_sound text

/-- **A number is read back** in front of a delimiter. -/
theorem readNumber_complete (parseFloat : List Char → String) (minus : Bool)
    {ds frac exp rest : List Char} (hds : NatText ds) (hfrac : FracText frac) (hexp : ExpText exp)
    (ends : Ends rest) :
    readNumber parseFloat (signText minus ++ ds ++ frac ++ exp ++ rest)
      = some (numberValue parseFloat minus ds frac exp, rest) := by
  have hsign := readSign_complete minus hds (frac ++ (exp ++ rest))
  have hnat := readNat_complete hds (head_frac_exp hfrac hexp ends)
  have hfraction : readFrac (frac ++ (exp ++ rest)) = (frac, exp ++ rest) :=
    readFrac_complete hfrac (head_frac_exp .none hexp ends) (head_exp hexp ends)
  have hexponent := readExp_complete hexp (fun c hc => (not_of_delimiter (ends c hc)).1)
    fun c hc => (not_of_delimiter (ends c hc)).2.2
  unfold readNumber
  rw [List.append_assoc, List.append_assoc, List.append_assoc, hsign]
  show (readNat (ds ++ (frac ++ (exp ++ rest)))).map _ = _
  rw [hnat, Option.map_some, hfraction, hexponent]

end EventCart.Lib.Json
