/-
  EventCart.Lib.JsonValues
  ────────────────────────
  **ONE TEXT FOR ONE VALUE.**

  `json.dumps(value, sort_keys=True, separators=(",", ":"))` writes two values
  alike exactly when they are the same up to the order of object members
  (`dumps_eq_iff`).  The text tells the value because it can be read back
  piece by piece: the first character tells the kind of a value, and whatever
  follows a value in a document begins with a delimiter, so the value ends
  where it ends (`dumps_append_inj`).  The value tells the text because
  sorting undoes the order of the members (`dumps_of_same`).
-/
import EventCart.Lib.JsonTexts
import Mathlib.Data.List.Forall2

namespace EventCart.Lib.Json

/-! ## §1. Values up to the order of members. -/

/-- Values of a JSON document without floats: no object has a key twice. -/
inductive Standard : Json → Prop where
  | null : Standard .null
  | bool (value : Bool) : Standard (.bool value)
  | int (value : Int) : Standard (.int value)
  | str (value : String) : Standard (.str value)
  | arr {items : List Json} (each : ∀ item ∈ items, Standard item) : Standard (.arr items)
  | obj {members : List (String × Json)} (keys : (members.map Prod.fst).Nodup)
      (each : ∀ member ∈ members, Standard member.2) : Standard (.obj members)

/-- The same value, up to the order of object members: listed in some order,
the members of two objects agree one by one. -/
inductive Same : Json → Json → Prop where
  | null : Same .null .null
  | bool (value : Bool) : Same (.bool value) (.bool value)
  | int (value : Int) : Same (.int value) (.int value)
  | str (value : String) : Same (.str value) (.str value)
  | arr {items items' : List Json} (each : List.Forall₂ Same items items') :
      Same (.arr items) (.arr items')
  | obj {members members' listed listed' : List (String × Json)} (order : members.Perm listed)
      (order' : members'.Perm listed') (keys : listed.map Prod.fst = listed'.map Prod.fst)
      (values : List.Forall₂ Same (listed.map Prod.snd) (listed'.map Prod.snd)) :
      Same (.obj members) (.obj members')

/-- Members listed in one order agree at every key. -/
theorem member_of_listed {key : String} {value : Json} :
    ∀ {listed listed' : List (String × Json)}, listed.map Prod.fst = listed'.map Prod.fst →
      List.Forall₂ Same (listed.map Prod.snd) (listed'.map Prod.snd) → (key, value) ∈ listed →
        ∃ value', (key, value') ∈ listed' ∧ Same value value' := by
  intro listed
  induction listed with
  | nil => exact fun _ _ hmem => absurd hmem List.not_mem_nil
  | cons m listed ih =>
      intro listed' hkeys hvalues hmem
      cases listed' with
      | nil => cases hkeys
      | cons m' listed' =>
          obtain ⟨hkey, hkeys⟩ := List.cons.inj hkeys
          cases hvalues with
          | cons hvalue hvalues =>
              rcases List.mem_cons.mp hmem with rfl | hmem
              · exact ⟨m'.2, List.mem_cons.mpr (.inl (Prod.ext hkey rfl)), hvalue⟩
              · obtain ⟨value', hmem', hsame⟩ := ih hkeys hvalues hmem
                exact ⟨value', List.mem_cons_of_mem _ hmem', hsame⟩

/-- The same object has the same value under each key. -/
theorem Same.member {members members' : List (String × Json)} {key : String} {value : Json}
    (h : Same (.obj members) (.obj members')) (hmem : (key, value) ∈ members) :
    ∃ value', (key, value') ∈ members' ∧ Same value value' := by
  cases h with
  | obj order order' hkeys hvalues =>
      obtain ⟨value', hmem', hsame⟩ := member_of_listed hkeys hvalues (order.mem_iff.mp hmem)
      exact ⟨value', order'.mem_iff.mpr hmem', hsame⟩

theorem Same.str_eq {s t : String} (h : Same (.str s) (.str t)) : s = t := by
  cases h
  rfl

theorem Same.int_eq {m n : Int} (h : Same (.int m) (.int n)) : m = n := by
  cases h
  rfl

/-- Induction over the values inside a value. -/
theorem induct {P : Json → Prop} (null : P .null) (bool : ∀ b, P (.bool b)) (int : ∀ n, P (.int n))
    (float : ∀ text, P (.float text)) (str : ∀ s, P (.str s))
    (arr : ∀ items, (∀ item ∈ items, P item) → P (.arr items))
    (obj : ∀ members : List (String × Json), (∀ member ∈ members, P member.2) → P (.obj members))
    (value : Json) : P value := by
  refine @Json.rec P (fun items => ∀ item ∈ items, P item)
    (fun members => ∀ member ∈ members, P member.2) (fun member => P member.2)
    null bool int float str (fun items ih => arr items ih) (fun members ih => obj members ih)
    ?_ ?_ ?_ ?_ ?_ value
  · exact fun _ h => absurd h List.not_mem_nil
  · intro item items hitem hitems i hi
    rcases List.mem_cons.mp hi with rfl | hi
    · exact hitem
    · exact hitems i hi
  · exact fun _ h => absurd h List.not_mem_nil
  · intro member members hmember hmembers m hm
    rcases List.mem_cons.mp hm with rfl | hm
    · exact hmember
    · exact hmembers m hm
  · exact fun _ _ h => h

/-! ## §2. Texts of lists. -/

/-- Texts with commas between them. -/
def joined : List (List Char) → List Char
  | [] => []
  | text :: texts => text ++ texts.flatMap (',' :: ·)

theorem toList_intercalate (texts : List String) :
    (String.intercalate "," texts).toList = joined (texts.map String.toList) := by
  cases texts with
  | nil => rfl
  | cons text texts =>
      show _ = text.toList ++ (texts.map String.toList).flatMap (',' :: ·)
      induction texts generalizing text with
      | nil => simp
      | cons next texts ih =>
          rw [String.intercalate_cons_cons, String.toList_append, String.toList_append, ih,
            List.map_cons, List.flatMap_cons]
          simp

theorem dumpsItems_eq (items : List Json) : dumpsItems items = items.map dumps := by
  induction items with
  | nil => rfl
  | cons item items ih => rw [List.map_cons, ← ih]; rfl

/-- The text of an array. -/
theorem toList_arr (items : List Json) :
    (dumps (.arr items)).toList = '[' :: (joined (items.map fun v => (dumps v).toList) ++ [']']) := by
  rw [dumps, String.toList_append, String.toList_append, toList_intercalate, dumpsItems_eq,
    List.map_map]
  rfl

/-- Members in the order of their keys. -/
def sorted (members : List (String × Json)) : List (String × Json) :=
  members.insertionSort fun a b => a.1 ≤ b.1

theorem perm_sorted (members : List (String × Json)) : members.Perm (sorted members) :=
  (List.perm_insertionSort _ members).symm

theorem mem_sorted {member : String × Json} {members : List (String × Json)} :
    member ∈ sorted members ↔ member ∈ members :=
  (perm_sorted members).mem_iff.symm

theorem dumpsMembers_eq (members : List (String × Json)) :
    dumpsMembers members = members.map fun member => (member.1, dumps member.2) := by
  induction members with
  | nil => rfl
  | cons member members ih => rw [List.map_cons, ← ih]; rfl

def memberText (member : String × Json) : List Char :=
  (dumpsStr member.1).toList ++ ':' :: (dumps member.2).toList

/-- The text of an object. -/
theorem toList_obj (members : List (String × Json)) :
    (dumps (.obj members)).toList
      = '\x7b' :: (joined ((sorted members).map memberText) ++ ['\x7d']) := by
  have hsorted : (dumpsMembers members).insertionSort (fun a b => a.1 ≤ b.1)
      = (sorted members).map fun member => (member.1, dumps member.2) := by
    rw [dumpsMembers_eq]
    exact (List.map_insertionSort (fun a b : String × Json => a.1 ≤ b.1)
      (fun a b : String × String => a.1 ≤ b.1) (fun member => (member.1, dumps member.2)) members
        fun _ _ _ _ => Iff.rfl).symm
  rw [dumps, hsorted, String.toList_append, String.toList_append, toList_intercalate, List.map_map,
    List.map_map]
  have hmap : (sorted members).map ((String.toList ∘ fun member => dumpsStr member.1 ++ ":" ++ member.2)
      ∘ fun member => (member.1, dumps member.2)) = (sorted members).map memberText := by
    refine List.map_congr_left fun member _ => ?_
    show (dumpsStr member.1 ++ ":" ++ dumps member.2).toList = _
    rw [String.toList_append, String.toList_append, List.append_assoc]
    rfl
  rw [← hmap]
  rfl

/-- What follows a value inside a document, or after it. -/
def Delimited (rest : List Char) : Prop := ∀ c ∈ rest.head?, c = ',' ∨ c = ']' ∨ c = '\x7d'

theorem delimited_nil : Delimited [] := fun _ h => absurd h (by simp)

theorem delimited_cons {c : Char} (h : c = ',' ∨ c = ']' ∨ c = '\x7d') (rest : List Char) :
    Delimited (c :: rest) := by
  intro d hd
  rw [List.head?_cons, Option.mem_some] at hd
  exact hd ▸ h

/-- Two texts, each before a delimiter, agree on their first value. -/
def Splits {α : Type} (text : α → List Char) (R : α → α → Prop) (x y : α) : Prop :=
  ∀ rest rest', Delimited rest → Delimited rest' →
    text x ++ rest = text y ++ rest' → R x y ∧ rest = rest'

section lists
variable {α : Type} {text : α → List Char} {R : α → α → Prop} {close : Char}

/-- A value in a list is followed by a comma or by the end of the list. -/
theorem delimited_tail (hclose : close = ']' ∨ close = '\x7d') (texts : List (List Char))
    (rest : List Char) : Delimited (texts.flatMap (',' :: ·) ++ close :: rest) := by
  cases texts with
  | nil => exact delimited_cons (.inr hclose) rest
  | cons t texts => exact delimited_cons (.inl rfl) _

/-- The values of a list after the first, each behind its comma. -/
theorem tail_append_inj (hclose : close = ']' ∨ close = '\x7d') :
    ∀ {xs ys : List α} {rest rest' : List Char}, (∀ x ∈ xs, ∀ y ∈ ys, Splits text R x y) →
      (xs.map text).flatMap (',' :: ·) ++ close :: rest
        = (ys.map text).flatMap (',' :: ·) ++ close :: rest' →
      List.Forall₂ R xs ys ∧ rest = rest' := by
  have hcomma : close ≠ ',' := by
    rcases hclose with rfl | rfl
    · decide
    · decide
  intro xs
  induction xs with
  | nil =>
      intro ys rest rest' _ h
      cases ys with
      | nil => exact ⟨.nil, (List.cons.inj h).2⟩
      | cons y ys => exact absurd (List.cons.inj h).1 hcomma
  | cons x xs ih =>
      intro ys rest rest' hsplits h
      cases ys with
      | nil => exact absurd (List.cons.inj h).1.symm hcomma
      | cons y ys =>
          simp only [List.map_cons, List.flatMap_cons, List.cons_append, List.append_assoc] at h
          obtain ⟨hxy, htail⟩ := hsplits x List.mem_cons_self y List.mem_cons_self _ _
            (delimited_tail hclose _ _) (delimited_tail hclose _ _) (List.cons.inj h).2
          obtain ⟨heach, hrest⟩ := ih (fun x' hx y' hy => hsplits x' (List.mem_cons_of_mem _ hx) y'
            (List.mem_cons_of_mem _ hy)) htail
          exact ⟨.cons hxy heach, hrest⟩

/-- **Two lists with one text** agree value by value. -/
theorem joined_append_inj (hclose : close = ']' ∨ close = '\x7d') {xs ys : List α}
    {rest rest' : List Char} (hsplits : ∀ x ∈ xs, ∀ y ∈ ys, Splits text R x y)
    (hopen : ∀ x ∈ xs ++ ys, ∃ c t, text x = c :: t ∧ c ≠ close)
    (h : joined (xs.map text) ++ close :: rest = joined (ys.map text) ++ close :: rest') :
    List.Forall₂ R xs ys ∧ rest = rest' := by
  cases xs with
  | nil =>
      cases ys with
      | nil => exact ⟨.nil, (List.cons.inj h).2⟩
      | cons y ys =>
          obtain ⟨c, t, ht, hc⟩ := hopen y (by simp)
          simp only [joined, List.map_cons, ht, List.cons_append] at h
          exact absurd (List.cons.inj h).1.symm hc
  | cons x xs =>
      cases ys with
      | nil =>
          obtain ⟨c, t, ht, hc⟩ := hopen x (by simp)
          simp only [joined, List.map_cons, ht, List.cons_append] at h
          exact absurd (List.cons.inj h).1 hc
      | cons y ys =>
          simp only [joined, List.map_cons, List.append_assoc] at h
          obtain ⟨hxy, htail⟩ := hsplits x List.mem_cons_self y List.mem_cons_self _ _
            (delimited_tail hclose _ _) (delimited_tail hclose _ _) h
          obtain ⟨heach, hrest⟩ := tail_append_inj hclose (fun x' hx y' hy =>
            hsplits x' (List.mem_cons_of_mem _ hx) y' (List.mem_cons_of_mem _ hy)) htail
          exact ⟨.cons hxy heach, hrest⟩

end lists

/-! ## §3. The first character. -/

/-- What the first character of a text announces. -/
inductive Kind where
  | null
  | yes
  | no
  | int
  | str
  | arr
  | obj
  | other
  deriving DecidableEq

def kindOf (c : Char) : Kind :=
  if c = 'n' then .null else if c = 't' then .yes else if c = 'f' then .no
  else if isNumeral c then .int else if c = Char.ofNat 34 then .str
  else if c = '[' then .arr else if c = '\x7b' then .obj else .other

/-- What the text of a value will announce. -/
def kind : Json → Kind
  | .null => .null
  | .bool true => .yes
  | .bool false => .no
  | .int _ => .int
  | .float _ => .other
  | .str _ => .str
  | .arr _ => .arr
  | .obj _ => .obj

theorem kind_ne_other {value : Json} (h : Standard value) : kind value ≠ .other := by
  cases h with
  | bool b =>
      cases b with
      | true => exact nofun
      | false => exact nofun
  | _ => exact nofun

/-- Values of one kind. -/
inductive Alike : Json → Json → Prop where
  | null : Alike .null .null
  | bool (value : Bool) : Alike (.bool value) (.bool value)
  | int (m n : Int) : Alike (.int m) (.int n)
  | str (s t : String) : Alike (.str s) (.str t)
  | arr {items items' : List Json} (each : ∀ item ∈ items, Standard item)
      (each' : ∀ item ∈ items', Standard item) : Alike (.arr items) (.arr items')
  | obj {members members' : List (String × Json)} (keys : (members.map Prod.fst).Nodup)
      (keys' : (members'.map Prod.fst).Nodup) (each : ∀ member ∈ members, Standard member.2)
      (each' : ∀ member ∈ members', Standard member.2) : Alike (.obj members) (.obj members')

theorem alike_of_kind {a b : Json} (ha : Standard a) (hb : Standard b) (h : kind a = kind b) :
    Alike a b := by
  cases ha with
  | null =>
      cases hb with
      | null => exact .null
      | bool w => cases w <;> cases h
      | _ => cases h
  | bool v =>
      cases hb with
      | bool w => cases v <;> cases w <;> first | exact .bool _ | cases h
      | _ => cases v <;> cases h
  | int m =>
      cases hb with
      | int n => exact .int m n
      | bool w => cases w <;> cases h
      | _ => cases h
  | str s =>
      cases hb with
      | str t => exact .str s t
      | bool w => cases w <;> cases h
      | _ => cases h
  | arr each =>
      cases hb with
      | arr each' => exact .arr each each'
      | bool w => cases w <;> cases h
      | _ => cases h
  | obj keys each =>
      cases hb with
      | obj keys' each' => exact .obj keys keys' each each'
      | bool w => cases w <;> cases h
      | _ => cases h

theorem toList_dumpsStr (s : String) : ∃ text, (dumpsStr s).toList = Char.ofNat 34 :: text := by
  have hquote : (Char.ofNat 34).toString.toList = [Char.ofNat 34] := String.toList_singleton _
  unfold dumpsStr
  simp only [String.toList_append, hquote, List.cons_append, List.nil_append]
  exact ⟨_, rfl⟩

/-- The text of a value announces its kind. -/
theorem kindOf_head {value : Json} (h : Standard value) :
    ∃ c text, (dumps value).toList = c :: text ∧ kindOf c = kind value := by
  cases h with
  | null => exact ⟨'n', _, rfl, rfl⟩
  | bool b =>
      cases b with
      | true => exact ⟨'t', _, rfl, rfl⟩
      | false => exact ⟨'f', _, rfl, rfl⟩
  | int n =>
      -- a number begins with a digit or a minus sign
      cases htext : (toString n).toList with
      | nil =>
          have hn : toString n = "" := String.toList_injective htext
          rw [Int.toString_eq_repr, Int.repr_eq_if] at hn
          split at hn
          · exact absurd hn Nat.repr_ne_empty
          · exact absurd (congrArg String.length hn) (by rw [String.length_append]; simp)
      | cons c text =>
          have hc : isNumeral c = true :=
            isNumeral_of_mem_int (n := n) (by rw [htext]; exact List.mem_cons_self)
          have hother : ∀ d, isNumeral d = false → c ≠ d := by
            rintro d hd rfl
            rw [hc] at hd
            cases hd
          refine ⟨c, text, htext, ?_⟩
          unfold kindOf
          rw [if_neg (hother 'n' (by decide)), if_neg (hother 't' (by decide)),
            if_neg (hother 'f' (by decide)), if_pos hc]
          rfl
  | str s =>
      obtain ⟨text, htext⟩ := toList_dumpsStr s
      exact ⟨_, text, htext, (by decide : kindOf (Char.ofNat 34) = .str)⟩
  | arr each => exact ⟨'[', _, toList_arr _, (by decide : kindOf '[' = .arr)⟩
  | obj keys each => exact ⟨'\x7b', _, toList_obj _, (by decide : kindOf '\x7b' = .obj)⟩

/-! ## §4. A text has one value. -/

/-- Members that agree one by one have the same keys, and agree in their
values. -/
theorem keys_and_values {xs ys : List (String × Json)}
    (h : List.Forall₂ (fun m n => m.1 = n.1 ∧ Same m.2 n.2) xs ys) :
    xs.map Prod.fst = ys.map Prod.fst ∧ List.Forall₂ Same (xs.map Prod.snd) (ys.map Prod.snd) := by
  induction h with
  | nil => exact ⟨rfl, .nil⟩
  | cons hmn _ ih =>
      rw [List.map_cons, List.map_cons, List.map_cons, List.map_cons, hmn.1, ih.1]
      exact ⟨rfl, .cons hmn.2 ih.2⟩

/-- Delimiters are no numerals. -/
theorem Delimited.not_numeral {rest : List Char} (h : Delimited rest) :
    ∀ c ∈ rest.head?, isNumeral c = false := by
  intro c hc
  rcases h c hc with rfl | rfl | rfl
  · decide
  · decide
  · decide

/-- The text of a value does not begin like the end of a list. -/
theorem head_ne_close {value : Json} (h : Standard value) {close : Char}
    (hclose : kindOf close = .other) : ∃ c t, (dumps value).toList = c :: t ∧ c ≠ close := by
  obtain ⟨c, t, ht, hc⟩ := kindOf_head h
  refine ⟨c, t, ht, ?_⟩
  rintro rfl
  exact kind_ne_other h (hc.symm.trans hclose)

/-- **A text tells its first value**, wherever it goes on with a delimiter. -/
theorem dumps_append_inj (a : Json) : Standard a → ∀ b, Standard b →
    Splits (fun v => (dumps v).toList) Same a b := by
  -- two values of one text are of one kind
  have hkind : ∀ {a b : Json} {rest rest' : List Char}, Standard a → Standard b →
      (dumps a).toList ++ rest = (dumps b).toList ++ rest' → Alike a b := by
    intro a b rest rest' ha hb h
    obtain ⟨c, t, ht, hc⟩ := kindOf_head ha
    obtain ⟨d, u, hu, hd⟩ := kindOf_head hb
    rw [ht, hu] at h
    exact alike_of_kind ha hb (by rw [← hc, ← hd, (List.cons.inj h).1])
  induction a using induct with
  | null =>
      intro ha b hb rest rest' _ _ h
      cases hkind ha hb h with
      | null => exact ⟨.null, List.append_cancel_left h⟩
  | bool v =>
      intro ha b hb rest rest' _ _ h
      cases hkind ha hb h with
      | bool => exact ⟨.bool v, List.append_cancel_left h⟩
  | int m =>
      intro ha b hb rest rest' hrest hrest' h
      cases hkind ha hb h with
      | int _ n =>
          obtain ⟨rfl, hsame⟩ := int_append_inj hrest.not_numeral hrest'.not_numeral h
          exact ⟨.int m, hsame⟩
  | float text => intro ha; cases ha
  | str s =>
      intro ha b hb rest rest' _ _ h
      cases hkind ha hb h with
      | str _ t =>
          obtain ⟨rfl, hsame⟩ := dumpsStr_append_inj h
          exact ⟨.str s, hsame⟩
  | arr items ih =>
      intro ha b hb rest rest' _ _ h
      cases hkind ha hb h with
      | @arr _ items' each each' =>
          have h' : joined (items.map fun v => (dumps v).toList) ++ ']' :: rest
              = joined (items'.map fun v => (dumps v).toList) ++ ']' :: rest' := by
            change (dumps (.arr items)).toList ++ rest = (dumps (.arr items')).toList ++ rest' at h
            rw [toList_arr, toList_arr] at h
            simpa using h
          obtain ⟨hsame, hrest⟩ := joined_append_inj (.inl rfl)
            (fun x hx y hy => ih x hx (each x hx) y (each' y hy))
            (fun x hx => (List.mem_append.mp hx).elim
              (fun hx => head_ne_close (each x hx) (by decide))
              (fun hx => head_ne_close (each' x hx) (by decide))) h'
          exact ⟨.arr hsame, hrest⟩
  | obj members ih =>
      intro ha b hb rest rest' _ _ h
      cases hkind ha hb h with
      | @obj _ members' _ _ each each' =>
          have h' : joined ((sorted members).map memberText) ++ '\x7d' :: rest
              = joined ((sorted members').map memberText) ++ '\x7d' :: rest' := by
            change (dumps (.obj members)).toList ++ rest = (dumps (.obj members')).toList ++ rest' at h
            rw [toList_obj, toList_obj] at h
            simpa using h
          have hopen : ∀ m, ∃ c t, memberText m = c :: t ∧ c ≠ '\x7d' := by
            intro m
            obtain ⟨t, ht⟩ := toList_dumpsStr m.1
            refine ⟨Char.ofNat 34, t ++ ':' :: (dumps m.2).toList, ?_, by decide⟩
            unfold memberText
            rw [ht, List.cons_append]
          -- first the keys, then the values behind them
          have hmembers : ∀ m ∈ sorted members, ∀ n ∈ sorted members',
              Splits memberText (fun m n => m.1 = n.1 ∧ Same m.2 n.2) m n := by
            intro m hm n hn s s' hs hs' hmn
            unfold memberText at hmn
            rw [List.append_assoc, List.append_assoc, List.cons_append, List.cons_append] at hmn
            obtain ⟨hkey, htail⟩ := dumpsStr_append_inj hmn
            obtain ⟨hvalue, hss⟩ := ih m (mem_sorted.mp hm) (each m (mem_sorted.mp hm)) n.2
              (each' n (mem_sorted.mp hn)) s s' hs hs' (List.cons.inj htail).2
            exact ⟨⟨hkey, hvalue⟩, hss⟩
          obtain ⟨hsame, hrest⟩ := joined_append_inj (.inr rfl) hmembers (fun m _ => hopen m) h'
          obtain ⟨hkeys, hvalues⟩ := keys_and_values hsame
          exact ⟨.obj (perm_sorted members) (perm_sorted members') hkeys hvalues, hrest⟩

/-! ## §5. A value has one text. -/

/-- Pairs with distinct keys are sorted in one way. -/
theorem insertionSort_eq_of_perm {l l' : List (String × String)} (nodup : (l.map Prod.fst).Nodup)
    (h : l.Perm l') :
    l.insertionSort (fun a b => a.1 ≤ b.1) = l'.insertionSort (fun a b => a.1 ≤ b.1) := by
  have htotal : Std.Total fun a b : String × String => a.1 ≤ b.1 :=
    ⟨fun a b => String.le_total a.1 b.1⟩
  have htrans : IsTrans (String × String) fun a b => a.1 ≤ b.1 :=
    ⟨fun _ _ _ hab hbc => String.le_trans hab hbc⟩
  have hperm := ((List.perm_insertionSort (fun a b : String × String => a.1 ≤ b.1) l).trans h).trans
    (List.perm_insertionSort (fun a b : String × String => a.1 ≤ b.1) l').symm
  refine List.Perm.eq_of_pairwise (fun a b ha hb hab hba => ?_) (List.pairwise_insertionSort _ l)
    (List.pairwise_insertionSort _ l') hperm
  rw [List.mem_insertionSort] at ha hb
  exact List.inj_on_of_nodup_map nodup ha (h.mem_iff.mpr hb) (String.le_antisymm hab hba)

/-- Values that are the same one by one have the same texts. -/
theorem map_dumps_of_same {xs ys : List Json} (h : List.Forall₂ Same xs ys)
    (each : ∀ x ∈ xs, ∀ y, Same x y → dumps x = dumps y) : xs.map dumps = ys.map dumps := by
  induction h with
  | nil => rfl
  | @cons x y xs ys hxy _ ih =>
      rw [List.map_cons, List.map_cons, each x List.mem_cons_self y hxy,
        ih fun z hz => each z (List.mem_cons_of_mem _ hz)]

/-- **The same value has the same text.** -/
theorem dumps_of_same (a : Json) : Standard a → ∀ b, Same a b → dumps a = dumps b := by
  induction a using induct with
  | null => intro _ b h; cases h; rfl
  | bool v => intro _ b h; cases h; rfl
  | int n => intro _ b h; cases h; rfl
  | float text => intro ha; cases ha
  | str s => intro _ b h; cases h; rfl
  | arr items ih =>
      intro ha b h
      cases ha with
      | arr each =>
          cases h with
          | arr hsame =>
              rw [dumps, dumps, dumpsItems_eq, dumpsItems_eq,
                map_dumps_of_same hsame fun x hx => ih x hx (each x hx)]
  | obj members ih =>
      intro ha b h
      cases ha with
      | obj keys each =>
          cases h with
          | @obj _ members' listed listed' order order' hkeys hvalues =>
              -- the same members in two orders: their texts are permutations, and are sorted
              have hlisted : dumpsMembers listed = dumpsMembers listed' := by
                have htexts := map_dumps_of_same hvalues fun x hx => by
                  obtain ⟨m, hm, rfl⟩ := List.mem_map.mp hx
                  exact ih m (order.mem_iff.mpr hm) (each m (order.mem_iff.mpr hm))
                rw [List.map_map, List.map_map] at htexts
                have hzip := congrArg₂ List.zip hkeys htexts
                rw [List.zip_map', List.zip_map'] at hzip
                rw [dumpsMembers_eq, dumpsMembers_eq]
                exact hzip
              have hperm : (dumpsMembers members).Perm (dumpsMembers members') := by
                rw [dumpsMembers_eq, dumpsMembers_eq] at hlisted ⊢
                exact ((order.map _).trans (.of_eq hlisted)).trans (order'.map _).symm
              have hdistinct : ((dumpsMembers members).map Prod.fst).Nodup := by
                rw [dumpsMembers_eq, List.map_map]
                exact keys
              rw [dumps, dumps, insertionSort_eq_of_perm hdistinct hperm]

/-- **One text for one value**: two values have the same text if and only if
they are the same up to the order of object members. -/
theorem dumps_eq_iff {a b : Json} (ha : Standard a) (hb : Standard b) :
    dumps a = dumps b ↔ Same a b := by
  refine ⟨fun h => ?_, dumps_of_same a ha b⟩
  have htext : (dumps a).toList ++ [] = (dumps b).toList ++ [] := by rw [h]
  exact (dumps_append_inj a ha b hb [] [] delimited_nil delimited_nil htext).1

end EventCart.Lib.Json
