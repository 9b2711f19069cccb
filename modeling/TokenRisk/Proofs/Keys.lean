import TokenRisk.ForStd.List
import TokenRisk.Proofs.Numerals
import TokenRisk.Verifier

/-!
# What a key tells

The key of an answer is a text, but it tells the address up to letter case, the chain and whether
chains are crossed: `cacheKey_inj`. Neither a chain nor a flag holds the colon that separates the
parts, so a key can be taken apart from its end. It tells no more than that: `cacheKey_eq_iff`.
-/

namespace TokenRisk

/-! ## Integers as text -/

/-- `toString` of an integer holds no colon. -/
private theorem colon_not_mem_int (n : Int) : ':' ∉ (toString n).toList :=
  fun h => (mem_toString_int h).elim (by decide) (by decide)

/-- `toDigits` gives the number back. -/
theorem toDigits_inj (m n : Nat) (h : Nat.toDigits 10 m = Nat.toDigits 10 n) : m = n := by
  rw [← Nat.ofDigitChars_ten_toDigits (n := m), h, Nat.ofDigitChars_ten_toDigits]

/-- `toString` is different for different integers. -/
theorem toString_int_inj (m n : Int) (h : toString m = toString n) : m = n := by
  have hsign (k : Nat) : '-' ∉ Nat.toDigits 10 k := by
    intro hk
    exact absurd (Nat.isDigit_of_mem_toDigits (by decide) (by decide) hk) (by decide)
  have hlist := congrArg String.toList h
  rw [toList_toString_int, toList_toString_int] at hlist
  split at hlist <;> split at hlist
  · have := toDigits_inj _ _ (List.cons.inj hlist).2
    omega
  · exact absurd (hlist ▸ List.mem_cons_self) (hsign n.natAbs)
  · exact absurd (hlist.symm ▸ List.mem_cons_self) (hsign m.natAbs)
  · have := toDigits_inj _ _ hlist
    omega

/-! ## Keys -/

/-- If two `cacheKey`s are equal, they are about the same address up to letter case, the same chain,
and both or neither about several chains. -/
theorem Verifier.cacheKey_inj (address address' : String) (chainId chainId' : Int)
    (cross cross' : Bool)
    (h : cacheKey address chainId cross = cacheKey address' chainId' cross') :
    Text.lower address = Text.lower address' ∧ chainId = chainId' ∧ cross = cross' := by
  -- Neither the flag nor the chain has a colon, so a key can be cut twice from behind.
  have hflag (b : Bool) : ':' ∉ (if b then "true" else "false").toList := by
    cases b <;> decide
  have hparts (address : String) (chainId : Int) (cross : Bool) :
      (cacheKey address chainId cross).toList =
        ((Text.lower address).toList ++ ':' :: (toString chainId).toList) ++
          ':' :: (if cross then "true" else "false").toList := by
    simp [cacheKey, String.toList_append]
  have hlist := congrArg String.toList h
  rw [hparts, hparts] at hlist
  obtain ⟨hfront, hcross⟩ := List.eq_of_append_cons_eq (hflag cross) (hflag cross') hlist
  obtain ⟨haddress, hchain⟩ :=
    List.eq_of_append_cons_eq (colon_not_mem_int chainId) (colon_not_mem_int chainId') hfront
  refine ⟨String.toList_inj.mp haddress, toString_int_inj _ _ (String.toList_inj.mp hchain), ?_⟩
  cases cross <;> cases cross' <;> simp_all

/-- Two `cacheKey`s are equal exactly if they are about the same address up to letter case, the same
chain, and both or neither about several chains. No address is excluded: it may hold colons or be a
key. -/
theorem Verifier.cacheKey_eq_iff (address address' : String) (chainId chainId' : Int)
    (cross cross' : Bool) :
    cacheKey address chainId cross = cacheKey address' chainId' cross' ↔
      Text.lower address = Text.lower address' ∧ chainId = chainId' ∧ cross = cross' := by
  constructor
  · intro h
    exact cacheKey_inj address address' chainId chainId' cross cross' h
  · intro ⟨haddress, hchain, hcross⟩
    -- The address enters a key in lower case only.
    rw [cacheKey, cacheKey, haddress, hchain, hcross]

/-- A key taken for an address is kept apart from that key. -/
example : Verifier.cacheKey "a:1:true" 1 true ≠ Verifier.cacheKey "a" 1 true := by
  decide +kernel

end TokenRisk
