import InrSettle.Library.JsText

/-!
# Well-formed strings

Strings without a surrogate that is alone, and what is left of a string when its code
points are read: two strings with the same code points differ where U+FFFD stands.
-/

namespace Js

def isSurrogate (u : CodeUnit) : Bool := isHighSurrogate u || isLowSurrogate u

/-- `text.isWellFormed()`. -/
def isWellFormed : Text → Bool
  | [] => true
  | [u] => !isSurrogate u
  | u :: v :: rest =>
    if isHighSurrogate u && isLowSurrogate v then isWellFormed rest
    else !isSurrogate u && isWellFormed (v :: rest)

/-! ### Code points -/

theorem toNat_ofNat {n : Nat} (valid : n.isValidChar) : (Char.ofNat n).toNat = n := by
  rw [Char.ofNat, dif_pos valid]
  rfl

theorem unitsOf_single {u : CodeUnit} (plain : isSurrogate u = false) :
    unitsOf (Char.ofNat u.val) = [u] := by
  simp only [isSurrogate, isHighSurrogate, isLowSurrogate, Bool.or_eq_false_iff,
    decide_eq_false_iff_not] at plain
  have code : (Char.ofNat u.val).toNat = u.val := toNat_ofNat (by unfold Nat.isValidChar; omega)
  rw [unitsOf, if_pos (by omega), unit, code]
  exact congrArg (fun v => [v]) (Fin.ext (Nat.mod_eq_of_lt u.isLt))

theorem unitsOf_pair {u v : CodeUnit} (pair : (isHighSurrogate u && isLowSurrogate v) = true) :
    unitsOf (Char.ofNat (0x10000 + (u.val - 0xD800) * 0x400 + (v.val - 0xDC00))) = [u, v] := by
  simp only [isHighSurrogate, isLowSurrogate, Bool.and_eq_true, decide_eq_true_eq] at pair
  have code : (Char.ofNat (0x10000 + (u.val - 0xD800) * 0x400 + (v.val - 0xDC00))).toNat =
      0x10000 + (u.val - 0xD800) * 0x400 + (v.val - 0xDC00) :=
    toNat_ofNat (by unfold Nat.isValidChar; omega)
  rw [unitsOf, if_neg (by omega), code]
  simp only [List.cons.injEq, Fin.ext_iff, Fin.val_ofNat, and_true]
  omega

theorem flatMap_codePoints {t : Text} (whole : isWellFormed t = true) :
    (codePoints t).flatMap unitsOf = t := by
  fun_induction isWellFormed t with
  | case1 => rfl
  | case2 u =>
    have plain : isSurrogate u = false := by simpa using whole
    rw [codePoints, ← isSurrogate, plain]
    simpa using unitsOf_single plain
  | case3 u v rest pair ih =>
    rw [codePoints, if_pos pair, List.flatMap_cons, unitsOf_pair pair, ih whole]
    rfl
  | case4 u v rest pair ih =>
    obtain ⟨plain, others⟩ := Bool.and_eq_true_iff.mp whole
    have plain : isSurrogate u = false := by simpa using plain
    rw [codePoints, if_neg pair, ← isSurrogate, plain, List.flatMap_cons, ih others]
    exact congrArg (· ++ v :: rest) (unitsOf_single plain)

theorem ofString_decoded {t : Text} (whole : isWellFormed t = true) : ofString (decoded t) = t := by
  rw [ofString, decoded, String.toList_ofList, flatMap_codePoints whole]

theorem unitsOf_cases (c : Char) : (∃ u, unitsOf c = [u] ∧ isSurrogate u = false) ∨
    ∃ u v, unitsOf c = [u, v] ∧ (isHighSurrogate u && isLowSurrogate v) = true := by
  have valid : c.toNat < 0xD800 ∨ 0xDFFF < c.toNat ∧ c.toNat < 0x110000 := c.valid
  rw [unitsOf]
  split
  · refine .inl ⟨unit c, rfl, ?_⟩
    have code : (unit c).val = c.toNat := Nat.mod_eq_of_lt (by omega)
    simp only [isSurrogate, isHighSurrogate, isLowSurrogate, code, Bool.or_eq_false_iff,
      decide_eq_false_iff_not]
    omega
  · refine .inr ⟨_, _, rfl, ?_⟩
    simp only [isHighSurrogate, isLowSurrogate, Fin.val_ofNat, Bool.and_eq_true, decide_eq_true_eq]
    omega

theorem isWellFormed_cons {u : CodeUnit} {rest : Text} (plain : isSurrogate u = false) :
    isWellFormed (u :: rest) = isWellFormed rest := by
  cases rest with
  | nil => simp [isWellFormed, plain]
  | cons v rest =>
    have high : isHighSurrogate u = false := (Bool.or_eq_false_iff.mp plain).1
    simp [isWellFormed, plain, high]

theorem isWellFormed_flatMap (cs : List Char) : isWellFormed (cs.flatMap unitsOf) = true := by
  induction cs with
  | nil => rfl
  | cons c cs ih =>
    rw [List.flatMap_cons]
    rcases unitsOf_cases c with ⟨u, is, plain⟩ | ⟨u, v, is, pair⟩
    · rw [is, List.singleton_append, isWellFormed_cons plain, ih]
    · rw [is, List.cons_append, List.singleton_append, isWellFormed, if_pos pair, ih]

/-- A string comes back from its code points exactly if it is well formed. -/
theorem ofString_decoded_iff {t : Text} : ofString (decoded t) = t ↔ isWellFormed t = true := by
  refine ⟨fun same => ?_, ofString_decoded⟩
  rw [← same]
  exact isWellFormed_flatMap _

/-! ### Where code points begin -/

theorem codePoints_append {xs ys : Text} (starts : ys.head?.any isLowSurrogate = false) :
    codePoints (xs ++ ys) = codePoints xs ++ codePoints ys := by
  fun_induction codePoints xs with
  | case1 => rfl
  | case2 u =>
    cases ys with
    | nil => simp [codePoints]
    | cons v rest =>
      have low : isLowSurrogate v = false := starts
      simp [codePoints, low]
  | case3 u v rest pair ih => simp [codePoints, pair, ih]
  | case4 u v rest pair ih =>
    rw [List.cons_append, List.cons_append, codePoints, if_neg pair, ← List.cons_append, ih]
    rfl

theorem codePoints_cons {u : CodeUnit} {rest : Text} (plain : isSurrogate u = false) :
    codePoints (u :: rest) = Char.ofNat u.val :: codePoints rest := by
  obtain ⟨high, low⟩ := Bool.or_eq_false_iff.mp plain
  cases rest with
  | nil => simp [codePoints, high, low]
  | cons v rest => simp [codePoints, high, low]

theorem codePoints_around {u : CodeUnit} {xs ys : Text} (plain : isSurrogate u = false) :
    codePoints (xs ++ u :: ys) = codePoints xs ++ Char.ofNat u.val :: codePoints ys := by
  rw [codePoints_append, codePoints_cons plain]
  exact (Bool.or_eq_false_iff.mp plain).2

theorem isWellFormed_around {u : CodeUnit} {xs ys : Text} (plain : isSurrogate u = false) :
    isWellFormed (xs ++ u :: ys) = (isWellFormed xs && isWellFormed ys) := by
  fun_induction isWellFormed xs with
  | case1 => simpa using isWellFormed_cons plain
  | case2 v =>
    have low : isLowSurrogate u = false := (Bool.or_eq_false_iff.mp plain).2
    simp [isWellFormed, low, isWellFormed_cons plain]
  | case3 v w rest pair ih => simp [isWellFormed, pair, ih]
  | case4 v w rest pair ih =>
    rw [List.cons_append, List.cons_append, isWellFormed, if_neg pair, ← List.cons_append, ih,
      Bool.and_assoc]

/-! ### What the code points keep -/

/-- U+FFFD, which stands for a surrogate that is alone. -/
def replacement : CodeUnit := 0xFFFD

/-- No other string has the same code points. -/
def Stable (t : Text) : Prop := isWellFormed t = true ∧ replacement ∉ t

theorem stable_around {u : CodeUnit} {xs ys : Text} (plain : isSurrogate u = false)
    (other : u ≠ replacement) : Stable (xs ++ u :: ys) ↔ Stable xs ∧ Stable ys := by
  rw [Stable, isWellFormed_around plain, Bool.and_eq_true, List.mem_append, List.mem_cons, not_or,
    not_or, Stable, Stable]
  exact ⟨fun ⟨whole, first, _, second⟩ => ⟨⟨whole.1, first⟩, whole.2, second⟩,
    fun ⟨first, second⟩ => ⟨⟨first.1, second.1⟩, first.2, other.symm, second.2⟩⟩

theorem isWellFormed_of_codePoints {t : Text} (kept : '\uFFFD' ∉ codePoints t) :
    isWellFormed t = true := by
  fun_induction isWellFormed t with
  | case1 => rfl
  | case2 u =>
    rw [codePoints, ← isSurrogate] at kept
    cases plain : isSurrogate u with
    | false => rfl
    | true => simp [plain] at kept
  | case3 u v rest pair ih =>
    rw [codePoints, if_pos pair] at kept
    exact ih (List.not_mem_of_not_mem_cons kept)
  | case4 u v rest pair ih =>
    rw [codePoints, if_neg pair, ← isSurrogate] at kept
    rw [ih (List.not_mem_of_not_mem_cons kept)]
    cases plain : isSurrogate u with
    | false => rfl
    | true => simp [plain] at kept

theorem codePoints_of_stable {t : Text} (stable : Stable t) : '\uFFFD' ∉ codePoints t := by
  intro mem
  have units : replacement ∈ (codePoints t).flatMap unitsOf :=
    List.mem_flatMap.mpr ⟨_, mem, by decide⟩
  rw [flatMap_codePoints stable.1] at units
  exact stable.2 units

theorem eq_of_codePoints {t t' : Text} (stable : Stable t) (same : codePoints t' = codePoints t) :
    t' = t := by
  have whole := isWellFormed_of_codePoints (same ▸ codePoints_of_stable stable)
  rw [← flatMap_codePoints whole, same, flatMap_codePoints stable.1]

theorem codePoints_decoded (t : Text) : codePoints (ofString (decoded t)) = codePoints t := by
  have same := ofString_injective (ofString_decoded (isWellFormed_flatMap (decoded t).toList))
  exact String.ofList_injective same

theorem head_of_isWellFormed {t : Text} (whole : isWellFormed t = true) :
    t.head?.any isLowSurrogate = false := by
  fun_cases isWellFormed t with
  | case1 => rfl
  | case2 u =>
    have plain : isSurrogate u = false := by simpa [isWellFormed] using whole
    exact (Bool.or_eq_false_iff.mp plain).2
  | case3 u v rest pair =>
    simp only [isHighSurrogate, Bool.and_eq_true, decide_eq_true_eq] at pair
    exact decide_eq_false (by omega)
  | case4 u v rest pair =>
    rw [isWellFormed, if_neg pair] at whole
    have plain : isSurrogate u = false := by simpa using (Bool.and_eq_true_iff.mp whole).1
    exact (Bool.or_eq_false_iff.mp plain).2

/-- The first half of a pair that has no second. -/
def halfPair : CodeUnit := 0xD800

theorem codePoints_halfPair {t : Text} (starts : t.head?.any isLowSurrogate = false) :
    codePoints (halfPair :: t) = '\uFFFD' :: codePoints t := by
  have high : isHighSurrogate halfPair = true := by decide
  cases t with
  | nil => simp [codePoints, high]
  | cons v rest =>
    have low : isLowSurrogate v = false := starts
    simp [codePoints, high, low]

/-- A string that is not stable has the code points of another. -/
theorem exists_other {t : Text} (unstable : ¬Stable t) :
    ∃ t', t' ≠ t ∧ codePoints t' = codePoints t := by
  by_cases whole : isWellFormed t = true
  · have mem : replacement ∈ t := by_contra fun absent => unstable ⟨whole, absent⟩
    obtain ⟨xs, ys, rfl⟩ := List.append_of_mem mem
    have plain : isSurrogate replacement = false := by decide
    rw [isWellFormed_around plain] at whole
    have starts := head_of_isWellFormed (Bool.and_eq_true_iff.mp whole).2
    have half : (halfPair :: ys).head?.any isLowSurrogate = false :=
      (by decide : isLowSurrogate halfPair = false)
    refine ⟨xs ++ halfPair :: ys, fun same => ?_, ?_⟩
    · exact absurd (List.cons.inj (List.append_cancel_left same)).1 (by decide)
    · rw [codePoints_append half, codePoints_halfPair starts, codePoints_around plain]
      rfl
  · exact ⟨ofString (decoded t), fun same => whole (ofString_decoded_iff.mp same),
      codePoints_decoded t⟩

end Js
