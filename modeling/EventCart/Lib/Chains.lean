/-
  EventCart.Lib.Chains
  ────────────────────
  **LISTS IN WHICH EVERY ELEMENT STEMS FROM THE ONE BEFORE.**

  A log whose entries name their origin is a chain of the relation "stems
  from".  Following the origins from any entry leads to the head of the
  chain, and no entry is the origin of two others.
-/
import Mathlib.Data.List.Chain
import Mathlib.Data.List.Nodup
import Mathlib.Logic.Relation

namespace EventCart.Lib

variable {α κ : Type} {R : α → α → Prop}

/-- **Following the origins leads to the head**, inside the chain. -/
theorem reaches_head :
    ∀ {l : List α} {a : α}, (a :: l).IsChain R → ∀ e ∈ a :: l,
      Relation.ReflTransGen (fun x y => y ∈ a :: l ∧ R y x) e a := by
  intro l
  induction l with
  | nil =>
      intro a _ e he
      rw [List.mem_singleton.mp he]
  | cons b l ih =>
      intro a hchain e he
      obtain ⟨hab, hchain⟩ := List.isChain_cons_cons.mp hchain
      rcases List.mem_cons.mp he with rfl | he
      · exact .refl
      · have hstep : ∀ x y, y ∈ b :: l ∧ R y x → y ∈ a :: b :: l ∧ R y x :=
          fun x y h => ⟨List.mem_cons_of_mem _ h.1, h.2⟩
        have hb : Relation.ReflTransGen (fun x y => y ∈ a :: b :: l ∧ R y x) e b :=
          Relation.ReflTransGen.mono hstep e b (ih hchain e he)
        exact hb.tail ⟨List.mem_cons_self, hab⟩

/-- **No two entries have the same origin**, where the relation names it by a
key that occurs once. -/
theorem origin_injective {l : List α} (chain : l.IsChain R) (key : α → κ) (origin : α → Option κ)
    (names : ∀ a b, R a b → origin b = some (key a)) (nodup : (l.map key).Nodup)
    (head : ∀ a ∈ l.head?, origin a = none) {a b : α} (ha : a ∈ l) (hb : b ∈ l) {k : κ}
    (hak : origin a = some k) (hbk : origin b = some k) : a = b := by
  rw [List.isChain_iff_getElem] at chain
  -- an entry with an origin is not the head, so it has the entry before it
  have hbefore : ∀ c ∈ l, origin c = some k →
      ∃ (i : Nat) (h : i + 1 < l.length), l[i + 1] = c ∧ key l[i] = k := by
    intro c hc hck
    obtain ⟨i, hi, rfl⟩ := List.getElem_of_mem hc
    cases i with
    | zero =>
        have hnone := head l[0] (by rw [List.head?_eq_getElem?]; simp [hi])
        rw [hck] at hnone
        exact nomatch hnone
    | succ i =>
        have hname := names _ _ (chain i hi)
        rw [hck] at hname
        exact ⟨i, hi, rfl, (Option.some.inj hname).symm⟩
  obtain ⟨i, hi, rfl, hki⟩ := hbefore a ha hak
  obtain ⟨j, hj, rfl, hkj⟩ := hbefore b hb hbk
  have hij : i = j := by
    have hlen : (l.map key).length = l.length := List.length_map _
    have hi' : i < (l.map key).length := by omega
    have hj' : j < (l.map key).length := by omega
    have heq : (l.map key)[i] = (l.map key)[j] := by
      rw [List.getElem_map, List.getElem_map, hki, hkj]
    exact nodup.getElem_inj_iff.mp heq
  subst hij
  rfl

end EventCart.Lib
