import InrSettle.Domain.NameMatch
import Mathlib

/-!
# Comparing names

The comparison takes the tokens of the shorter name in their order, and of two initial
matches the first it comes to. What it counts is a fact about the two bags of tokens
where no initial match takes what a later token has an exact match with.
-/

namespace InrSettle

abbrev Token := List Char

local instance lawfulBEq_token : LawfulBEq Token := inferInstance

def StartsWith (c : Char) (token : Token) : Prop := token.head? = some c

instance (c : Char) (token : Token) : Decidable (StartsWith c token) :=
  inferInstanceAs (Decidable (_ = _))

/-- A token of more than one character that begins with this one. -/
def IsWord (c : Char) (token : Token) : Prop := StartsWith c token ∧ 1 < token.length

instance (c : Char) (token : Token) : Decidable (IsWord c token) :=
  inferInstanceAs (Decidable (_ ∧ _))

/-- Every initial match leaves in the pool as many tokens like the one it takes as the rest of the
shorter name has. -/
def ExactKept : List Token → List Token → Prop
  | [], _ => True
  | token :: rest, pool =>
    if token ∈ pool then ExactKept rest (pool.erase token)
    else match pool.find? (initialOf token) with
      | some taken => rest.count taken < pool.count taken ∧
          ExactKept rest (pool.eraseP (initialOf token))
      | none => ExactKept rest pool

/-- The matches of tokens that begin with a character. -/
def matchedFor (c : Char) : List Token → List Token → Nat
  | [], _ => 0
  | token :: rest, pool =>
    if token ∈ pool then
      matchedFor c rest (pool.erase token) + if StartsWith c token then 1 else 0
    else match pool.find? (initialOf token) with
      | some _ => matchedFor c rest (pool.eraseP (initialOf token)) +
          if StartsWith c token then 1 else 0
      | none => matchedFor c rest pool

/-! ### One token -/

/-- What an initial match takes of the pool, and what it leaves. -/
structure TakesInitial (token : Token) (pool : List Token) (taken : Token) (others : List Token) :
    Prop where
  apart : token ∉ pool
  found : pool.find? (initialOf token) = some taken
  is : initialOf token taken = true
  left : pool.eraseP (initialOf token) = others
  perm : pool.Perm (taken :: others)

/-- A token without an exact match or any other. -/
structure HasNoMatch (token : Token) (pool : List Token) : Prop where
  apart : token ∉ pool
  found : pool.find? (initialOf token) = none
  none : ∀ other ∈ pool, initialOf token other = false

theorem token_cases (token : Token) (pool : List Token) :
    token ∈ pool ∨ (∃ taken others, TakesInitial token pool taken others) ∨ HasNoMatch token pool := by
  by_cases exact : token ∈ pool
  · exact .inl exact
  · refine .inr ?_
    cases found : pool.find? (initialOf token) with
    | none => exact .inr ⟨exact, found, by simpa using found⟩
    | some taken =>
      obtain ⟨is, before, after, split, none_⟩ := List.find?_eq_some_iff_append.mp found
      refine .inl ⟨taken, before ++ after, exact, found, is, ?_, split ▸ List.perm_middle⟩
      rw [split, List.eraseP_append_right _ fun other mem => by simpa using none_ other mem,
        List.eraseP_cons_of_pos is]

section Step

variable {token taken : Token} {rest pool others : List Token} {c : Char}

theorem exactKept_exact (exact : token ∈ pool) :
    ExactKept (token :: rest) pool ↔ ExactKept rest (pool.erase token) := by
  rw [ExactKept, if_pos exact]

theorem exactKept_takes (takes : TakesInitial token pool taken others) :
    ExactKept (token :: rest) pool ↔
      rest.count taken ≤ others.count taken ∧ ExactKept rest others := by
  rw [ExactKept, if_neg takes.apart, takes.found]
  simp only
  rw [takes.left, takes.perm.count_eq, List.count_cons_self, Nat.lt_succ_iff]

theorem exactKept_unmatched (unmatched : HasNoMatch token pool) :
    ExactKept (token :: rest) pool ↔ ExactKept rest pool := by
  rw [ExactKept, if_neg unmatched.apart, unmatched.found]

theorem matchedFor_exact (exact : token ∈ pool) : matchedFor c (token :: rest) pool =
    matchedFor c rest (pool.erase token) + if StartsWith c token then 1 else 0 := by
  rw [matchedFor, if_pos exact]

theorem matchedFor_takes (takes : TakesInitial token pool taken others) :
    matchedFor c (token :: rest) pool =
      matchedFor c rest others + if StartsWith c token then 1 else 0 := by
  rw [matchedFor, if_neg takes.apart, takes.found]
  simp only
  rw [takes.left]

theorem matchedFor_unmatched (unmatched : HasNoMatch token pool) :
    matchedFor c (token :: rest) pool = matchedFor c rest pool := by
  rw [matchedFor, if_neg unmatched.apart, unmatched.found]

theorem matchedTokens_takes (takes : TakesInitial token pool taken others) :
    matchedTokens (token :: rest) pool = matchedTokens rest others + 1 := by
  have some_ : pool.any (initialOf token) = true :=
    List.any_eq_true.mpr ⟨taken, takes.perm.mem_iff.mpr List.mem_cons_self, takes.is⟩
  rw [matchedTokens, if_neg takes.apart, if_pos some_, takes.left]

theorem matchedTokens_unmatched (unmatched : HasNoMatch token pool) :
    matchedTokens (token :: rest) pool = matchedTokens rest pool := by
  have none_ : ¬pool.any (initialOf token) = true := by simpa using unmatched.none
  rw [matchedTokens, if_neg unmatched.apart, if_neg none_]

end Step

/-- The matches are those of the characters that tokens begin with. -/
theorem matchedTokens_eq_sum {letters : Finset Char} {tokens : List Token}
    (covers : ∀ token ∈ tokens, ∃ c ∈ letters, StartsWith c token) (pool : List Token) :
    matchedTokens tokens pool = ∑ c ∈ letters, matchedFor c tokens pool := by
  have one {token : Token} (covered : ∃ c ∈ letters, StartsWith c token) :
      ∑ c ∈ letters, (if StartsWith c token then 1 else 0) = 1 := by
    obtain ⟨c, mem, starts⟩ := covered
    rw [Finset.sum_eq_single_of_mem c mem, if_pos starts]
    intro c' _ other
    exact if_neg fun starts' => other (Option.some.inj (starts'.symm.trans starts))
  induction tokens generalizing pool with
  | nil => simp [matchedTokens, matchedFor]
  | cons token rest ih =>
    obtain ⟨first, others_⟩ := List.forall_mem_cons.mp covers
    rcases token_cases token pool with exact | ⟨taken, others, takes⟩ | unmatched
    · simp only [matchedFor_exact exact, Finset.sum_add_distrib, one first]
      rw [matchedTokens, if_pos exact, ih others_]
    · simp only [matchedFor_takes takes, Finset.sum_add_distrib, one first]
      rw [matchedTokens_takes takes, ih others_]
    · simp only [matchedFor_unmatched unmatched]
      rw [matchedTokens_unmatched unmatched, ih others_]

theorem initialOf_iff {token other : Token} (some_ : token ≠ []) (differ : token ≠ other) :
    initialOf token other = true ↔
      ∃ c, token = [c] ∧ IsWord c other ∨ other = [c] ∧ IsWord c token := by
  cases token with
  | nil => exact (some_ rfl).elim
  | cons c rest =>
    cases other with
    | nil => cases rest <;> simp [initialOf, IsWord, StartsWith]
    | cons d others =>
      cases rest with
      | nil =>
        cases others with
        | nil => simpa [initialOf, IsWord, StartsWith] using differ
        | cons e others =>
          have begins : initialOf [c] (d :: e :: others) = true ↔ c = d := by simp [initialOf]
          simp only [begins, List.cons.injEq, and_true, IsWord, StartsWith, List.head?_cons,
            Option.some.injEq, List.length_cons, reduceCtorEq, false_and, or_false, and_false,
            exists_eq_left']
          constructor
          · rintro rfl
            exact ⟨rfl, by omega⟩
          · exact fun is => is.1.symm
      | cons e rest =>
        have begins : initialOf (c :: e :: rest) (d :: others) = true ↔ others = [] ∧ d = c := by
          cases others <;> simp [initialOf]
        rw [begins]
        constructor
        · rintro ⟨rfl, rfl⟩
          exact ⟨d, .inr ⟨rfl, rfl, by simp⟩⟩
        · rintro ⟨c', ⟨single, -⟩ | ⟨single, starts, -⟩⟩
          · cases single
          · cases single
            cases starts
            exact ⟨rfl, rfl⟩

/-! ### What the bags have in common and apart -/

section Bags

open Multiset

variable {S L : Multiset Token} {token taken : Token}

theorem exact_bags : (token ::ₘ S) ∩ (token ::ₘ L) = token ::ₘ (S ∩ L) ∧
    (token ::ₘ S) - (token ::ₘ L) = S - L := by
  constructor
  · ext other
    simp only [count_inter, count_cons]
    split <;> omega
  · ext other
    simp only [count_sub, count_cons]
    split <;> omega

/-- A token without an exact match stays apart. -/
theorem apart_bags (apart : token ∉ L) : (token ::ₘ S) ∩ L = S ∩ L ∧
    (token ::ₘ S) - L = token ::ₘ (S - L) ∧ L - (token ::ₘ S) = L - S := by
  have none_ := count_eq_zero.mpr apart
  refine ⟨?_, ?_, ?_⟩ <;> ext other <;>
    simp only [count_inter, count_sub, count_cons] <;> split <;> simp_all

/-- What is taken from a bag that has more of it. -/
theorem taken_bags (kept : S.count taken ≤ L.count taken) :
    S ∩ (taken ::ₘ L) = S ∩ L ∧ S - (taken ::ₘ L) = S - L ∧
      (taken ::ₘ L) - S = taken ::ₘ (L - S) := by
  refine ⟨?_, ?_, ?_⟩ <;> ext other <;>
    simp only [count_inter, count_sub, count_cons] <;> split <;> simp_all <;> omega

/-- The matches of tokens that begin with a character, as the two bags tell them. -/
def bagMatches (c : Char) (S L : Multiset Token) : Nat :=
  (S ∩ L).countP (StartsWith c) + min ((S - L).count [c]) ((L - S).countP (IsWord c)) +
    min ((S - L).countP (IsWord c)) ((L - S).count [c])

theorem bagMatches_comm (c : Char) : bagMatches c S L = bagMatches c L S := by
  rw [bagMatches, bagMatches, Multiset.inter_comm]
  omega

theorem bagMatches_exact (c : Char) : bagMatches c (token ::ₘ S) (token ::ₘ L) =
    bagMatches c S L + if StartsWith c token then 1 else 0 := by
  rw [bagMatches, bagMatches, exact_bags.1, exact_bags.2, exact_bags.2, countP_cons]
  omega

theorem not_isWord_initial {c c' : Char} : ¬IsWord c [c'] := fun word => by simp [IsWord] at word

theorem not_isWord_of_other {c c' : Char} (word : IsWord c' token) (other : c' ≠ c) :
    ¬IsWord c token := fun word' => other (Option.some.inj (word.1.symm.trans word'.1))

theorem ne_initial_of_isWord {c c' : Char} (word : IsWord c' token) : [c] ≠ token := by
  rintro rfl
  exact not_isWord_initial word

/-- A token is matched with what is taken for it. -/
theorem bagMatches_taken (c : Char) (apart : token ∉ L) (kept : S.count taken ≤ L.count taken)
    (differ : token ≠ taken)
    (is : ∃ c, token = [c] ∧ IsWord c taken ∨ taken = [c] ∧ IsWord c token) :
    bagMatches c (token ::ₘ S) (taken ::ₘ L) =
      bagMatches c S L + if StartsWith c token then 1 else 0 := by
  have apart' : token ∉ taken ::ₘ L := by simp [apart, differ]
  obtain ⟨common, left, right⟩ := apart_bags (S := S) apart'
  obtain ⟨common', left', right'⟩ := taken_bags kept
  rw [bagMatches, bagMatches, common, left, right, common', left', right', countP_cons,
    count_cons, countP_cons, count_cons]
  obtain ⟨c', ⟨rfl, word⟩ | ⟨rfl, word⟩⟩ := is
  · rw [if_neg (ne_initial_of_isWord word), if_neg not_isWord_initial]
    by_cases same : c' = c
    · subst same
      rw [if_pos rfl, if_pos word, if_pos (show StartsWith c' [c'] from rfl)]
      omega
    · have starts : ¬StartsWith c [c'] := fun starts => same (Option.some.inj starts)
      have apart'' : ([c] : Token) ≠ [c'] := fun same' => same (List.cons.inj same').1.symm
      rw [if_neg apart'', if_neg (not_isWord_of_other word same), if_neg starts]
      omega
  · rw [if_neg (ne_initial_of_isWord word), if_neg not_isWord_initial]
    by_cases same : c' = c
    · subst same
      rw [if_pos rfl, if_pos word, if_pos word.1]
      omega
    · have starts : ¬StartsWith c token := fun starts =>
        same (Option.some.inj (word.1.symm.trans starts))
      have apart'' : ([c] : Token) ≠ [c'] := fun same' => same (List.cons.inj same').1.symm
      rw [if_neg apart'', if_neg (not_isWord_of_other word same), if_neg starts]
      omega

/-- A token nothing is taken for. -/
theorem bagMatches_unmatched (c : Char) (some_ : token ≠ []) (apart : token ∉ L)
    (none_ : ∀ other ∈ L, initialOf token other = false) :
    bagMatches c (token ::ₘ S) L = bagMatches c S L := by
  obtain ⟨common, left, right⟩ := apart_bags (S := S) apart
  have never {other : Token} (mem : other ∈ L - S) :
      ¬∃ c, token = [c] ∧ IsWord c other ∨ other = [c] ∧ IsWord c token := by
    have inL : other ∈ L := mem_of_le (Multiset.sub_le_self L S) mem
    intro is
    have differ : token ≠ other := fun same => apart (same ▸ inL)
    have found := (initialOf_iff some_ differ).mpr is
    rw [none_ other inL] at found
    cases found
  rw [bagMatches, bagMatches, common, left, right, countP_cons, count_cons]
  have words : token = [c] → (L - S).countP (IsWord c) = 0 := fun same =>
    countP_eq_zero.mpr fun other mem word => never mem ⟨c, .inl ⟨same, word⟩⟩
  have initials : IsWord c token → (L - S).count [c] = 0 := fun word =>
    count_eq_zero.mpr fun mem => never mem ⟨c, .inr ⟨rfl, word⟩⟩
  by_cases initial : token = [c]
  · have noWord : ¬IsWord c token := initial ▸ not_isWord_initial
    rw [words initial, if_neg noWord]
    omega
  · rw [if_neg (Ne.symm initial)]
    by_cases word : IsWord c token
    · rw [initials word]
      omega
    · rw [if_neg word]
      omega

end Bags

theorem count_coe (token : Token) (tokens : List Token) :
    (tokens : Multiset Token).count token = tokens.count token := by
  rw [Multiset.coe_count]
  exact List.countP_congr fun other _ => by simp

/-- Where no exact match is lost the bags tell how many tokens are matched. -/
theorem matchedFor_eq {tokens pool : List Token} (kept : ExactKept tokens pool)
    (some_ : ∀ token ∈ tokens, token ≠ []) (c : Char) :
    matchedFor c tokens pool = bagMatches c tokens pool := by
  induction tokens generalizing pool with
  | nil =>
    have none_ : (0 : Multiset Token) - pool = 0 := by
      ext token
      simp
    simp [matchedFor, bagMatches, none_]
  | cons token rest ih =>
    obtain ⟨first, others_⟩ := List.forall_mem_cons.mp some_
    rw [← Multiset.cons_coe]
    rcases token_cases token pool with exact | ⟨taken, others, takes⟩ | unmatched
    · have bag : (pool : Multiset Token) = token ::ₘ (pool.erase token : Multiset Token) :=
        Multiset.coe_eq_coe.mpr (List.perm_cons_erase exact)
      rw [matchedFor_exact exact, ih ((exactKept_exact exact).mp kept) others_, bag,
        bagMatches_exact]
    · obtain ⟨enough, kept⟩ := (exactKept_takes takes).mp kept
      have bag : (pool : Multiset Token) = taken ::ₘ (others : Multiset Token) :=
        Multiset.coe_eq_coe.mpr takes.perm
      have differ : token ≠ taken := by
        rintro rfl
        exact takes.apart (takes.perm.mem_iff.mpr List.mem_cons_self)
      have apart : token ∉ (others : Multiset Token) := fun mem =>
        takes.apart (takes.perm.mem_iff.mpr (List.mem_cons_of_mem _ mem))
      rw [matchedFor_takes takes, ih kept others_, bag,
        bagMatches_taken c apart (by simpa only [count_coe] using enough) differ ((initialOf_iff first differ).mp takes.is)]
    · rw [matchedFor_unmatched unmatched, ih ((exactKept_unmatched unmatched).mp kept) others_,
        bagMatches_unmatched c first unmatched.apart unmatched.none]

/-! ### Names whose comparison is a matter of their tokens -/

/-- For each initial of the shorter name: the longer one has an equal initial for each, and one more
for each word of that letter it lacks; or it lacks no such word or has no such initial, and of each
such word both have it has more than the shorter one, by at least the initials it lacks. -/
def Unambiguous (S L : Multiset Token) : Prop :=
  ∀ c, [c] ∈ S →
    S.count [c] + (S - L).countP (IsWord c) ≤ L.count [c] ∨
    ((S - L).countP (IsWord c) = 0 ∨ L.count [c] = 0) ∧
      ∀ word ∈ S, word ∈ L → IsWord c word →
        S.count [c] ≤ L.count [c] + (L.count word - S.count word)

section Preserved

open Multiset

variable {S L : Multiset Token} {token taken : Token}

theorem Unambiguous.exact (clear : Unambiguous (token ::ₘ S) (token ::ₘ L)) : Unambiguous S L := by
  intro c mem
  have at_ := clear c (mem_cons_of_mem mem)
  rw [exact_bags.2, count_cons, count_cons] at at_
  refine at_.imp (by omega) ?_
  rintro ⟨one, words⟩
  refine ⟨by omega, fun word inS inL is => ?_⟩
  have enough := words word (mem_cons_of_mem inS) (mem_cons_of_mem inL) is
  rw [count_cons, count_cons] at enough
  omega

theorem Unambiguous.unmatched (clear : Unambiguous (token ::ₘ S) L) (apart : token ∉ L) :
    Unambiguous S L := by
  intro c mem
  have at_ := clear c (mem_cons_of_mem mem)
  rw [(apart_bags apart).2.1, count_cons, countP_cons] at at_
  refine at_.imp (by omega) ?_
  rintro ⟨one, words⟩
  refine ⟨by omega, fun word inS inL is => ?_⟩
  have enough := words word (mem_cons_of_mem inS) inL is
  have differ : word ≠ token := fun same => apart (same ▸ inL)
  rw [count_cons_of_ne differ] at enough
  omega

/-- An initial that takes a word: the pool keeps enough of it. -/
theorem Unambiguous.initial {c : Char} (clear : Unambiguous ([c] ::ₘ S) (taken ::ₘ L))
    (apart : [c] ∉ taken ::ₘ L) (is : IsWord c taken) :
    S.count taken ≤ L.count taken ∧ Unambiguous S L := by
  have none_ := count_eq_zero.mpr apart
  have differ : taken ≠ [c] := (ne_initial_of_isWord is).symm
  have enough : S.count taken ≤ L.count taken := by
    by_cases inS : taken ∈ S
    · rcases clear c (mem_cons_self _ _) with few | ⟨-, words⟩
      · rw [none_, count_cons_self] at few
        omega
      · have more := words taken (mem_cons_of_mem inS) (mem_cons_self _ _) is
        rw [none_, count_cons_self, count_cons_self, count_cons_of_ne differ] at more
        omega
    · rw [count_eq_zero.mpr inS]
      exact Nat.zero_le _
  refine ⟨enough, fun c' mem => ?_⟩
  have at_ := clear c' (mem_cons_of_mem mem)
  have initials : (taken ::ₘ L).count [c'] = L.count [c'] :=
    count_cons_of_ne (ne_initial_of_isWord is) L
  rw [(apart_bags apart).2.1, (taken_bags enough).2.1, countP_cons, if_neg not_isWord_initial,
    initials, count_cons] at at_
  refine at_.imp (by omega) ?_
  rintro ⟨one, words⟩
  refine ⟨one, fun word inS inL isWord => ?_⟩
  have more := words word (mem_cons_of_mem inS) (mem_cons_of_mem inL) isWord
  rw [count_cons, count_cons_of_ne (ne_initial_of_isWord isWord).symm] at more
  by_cases same : c' = c
  · subst same
    simp only [if_true] at more
    split at more <;> omega
  · have other : word ≠ taken := by
      rintro rfl
      exact same (Option.some.inj (isWord.1.symm.trans is.1))
    rw [if_neg other] at more
    omega

/-- A word that takes an initial: the pool keeps enough of them. -/
theorem Unambiguous.word {c : Char} (clear : Unambiguous (token ::ₘ S) ([c] ::ₘ L))
    (apart : token ∉ [c] ::ₘ L) (is : IsWord c token) :
    S.count [c] ≤ L.count [c] ∧ Unambiguous S L := by
  have differ : [c] ≠ token := ne_initial_of_isWord is
  have lacks : ∀ c', ((token ::ₘ S) - ([c] ::ₘ L)).countP (IsWord c') =
      (S - ([c] ::ₘ L)).countP (IsWord c') + if IsWord c' token then 1 else 0 := fun c' => by
    rw [(apart_bags apart).2.1, countP_cons]
  have enough : S.count [c] ≤ L.count [c] := by
    by_cases inS : [c] ∈ S
    · have at_ := clear c (mem_cons_of_mem inS)
      rw [lacks, if_pos is, count_cons_of_ne differ, count_cons_self] at at_
      omega
    · rw [count_eq_zero.mpr inS]
      exact Nat.zero_le _
  refine ⟨enough, fun c' mem => ?_⟩
  have at_ := clear c' (mem_cons_of_mem mem)
  rw [lacks, (taken_bags enough).2.1, count_cons_of_ne (ne_initial_of_isWord is), count_cons] at at_
  by_cases same : c' = c
  · subst same
    rw [if_pos is, if_pos rfl] at at_
    refine .inl ?_
    omega
  · have other : ([c'] : Token) ≠ [c] := fun same' => same (List.cons.inj same').1
    rw [if_neg (not_isWord_of_other is (Ne.symm same)), if_neg other] at at_
    refine at_.imp (by omega) ?_
    rintro ⟨one, words⟩
    refine ⟨one, fun word inS inL isWord => ?_⟩
    have more := words word (mem_cons_of_mem inS) (mem_cons_of_mem inL) isWord
    have apart' : word ≠ token := fun same => apart (mem_cons_of_mem (same ▸ inL))
    rw [count_cons_of_ne (ne_initial_of_isWord isWord).symm, count_cons_of_ne apart'] at more
    omega

end Preserved

/-- No exact match is lost in any order of such names. -/
theorem exactKept_of_unambiguous {tokens pool : List Token}
    (clear : Unambiguous tokens pool) (some_ : ∀ token ∈ tokens, token ≠ []) :
    ExactKept tokens pool := by
  induction tokens generalizing pool with
  | nil => trivial
  | cons token rest ih =>
    obtain ⟨first, others_⟩ := List.forall_mem_cons.mp some_
    rw [← Multiset.cons_coe] at clear
    rcases token_cases token pool with exact | ⟨taken, others, takes⟩ | unmatched
    · have bag : (pool : Multiset Token) = token ::ₘ (pool.erase token : Multiset Token) :=
        Multiset.coe_eq_coe.mpr (List.perm_cons_erase exact)
      exact (exactKept_exact exact).mpr (ih (bag ▸ clear).exact others_)
    · have bag : (pool : Multiset Token) = taken ::ₘ (others : Multiset Token) :=
        Multiset.coe_eq_coe.mpr takes.perm
      have apart : token ∉ taken ::ₘ (others : Multiset Token) := fun mem =>
        takes.apart (takes.perm.mem_iff.mpr mem)
      have differ : token ≠ taken := fun same => apart (same ▸ Multiset.mem_cons_self _ _)
      rw [bag] at clear
      refine (exactKept_takes takes).mpr ?_
      rw [← count_coe, ← count_coe]
      obtain ⟨c, ⟨rfl, word⟩ | ⟨rfl, word⟩⟩ := (initialOf_iff first differ).mp takes.is
      · exact (clear.initial apart word).imp_right fun clear => ih clear others_
      · exact (clear.word apart word).imp_right fun clear => ih clear others_
    · exact (exactKept_unmatched unmatched).mpr (ih (clear.unmatched unmatched.apart) others_)

/-! ### Orders in which an exact match is lost -/

/-- The words of a letter first: each that the pool lacks takes an initial. -/
theorem initials_left {c : Char} {words rest pool : List Token}
    (kept : ExactKept (words ++ rest) pool) (are : ∀ word ∈ words, IsWord c word)
    (needed : [c] ∈ rest) (some_ : [c] ∈ pool) :
    Multiset.card ((words : Multiset Token) - (pool : Multiset Token)) = 0 ∨
      rest.count [c] + Multiset.card ((words : Multiset Token) - (pool : Multiset Token)) ≤
        pool.count [c] := by
  induction words generalizing pool with
  | nil =>
    refine .inl ?_
    rw [Multiset.card_eq_zero]
    ext token
    simp
  | cons word words ih =>
    obtain ⟨is, others_⟩ := List.forall_mem_cons.mp are
    rw [List.cons_append] at kept
    rw [← Multiset.cons_coe]
    rcases token_cases word pool with exact | ⟨taken, others, takes⟩ | unmatched
    · have bag : (pool : Multiset Token) = word ::ₘ (pool.erase word : Multiset Token) :=
        Multiset.coe_eq_coe.mpr (List.perm_cons_erase exact)
      have differ := ne_initial_of_isWord (c := c) is
      rw [bag, exact_bags.2, ← List.count_erase_of_ne (l := pool) differ]
      exact ih ((exactKept_exact exact).mp kept) others_ ((List.mem_erase_of_ne differ).mpr some_)
    · obtain ⟨enough, kept⟩ := (exactKept_takes takes).mp kept
      have differ : word ≠ taken := by
        rintro rfl
        exact takes.apart (takes.perm.mem_iff.mpr List.mem_cons_self)
      have initial : taken = [c] := by
        obtain ⟨c', ⟨rfl, -⟩ | ⟨rfl, is'⟩⟩ :=
          (initialOf_iff (by rintro rfl; cases is.1) differ).mp takes.is
        · exact (not_isWord_initial is).elim
        · rw [Option.some.inj (is'.1.symm.trans is.1)]
      subst initial
      have bag : (pool : Multiset Token) = [c] ::ₘ (others : Multiset Token) :=
        Multiset.coe_eq_coe.mpr takes.perm
      have apart : word ∉ [c] ::ₘ (others : Multiset Token) := fun mem =>
        takes.apart (takes.perm.mem_iff.mpr mem)
      have fewer : (words : Multiset Token).count [c] ≤ (others : Multiset Token).count [c] := by
        rw [Multiset.count_eq_zero.mpr fun mem => not_isWord_initial (others_ _ mem)]
        exact Nat.zero_le _
      rw [List.count_append] at enough
      have more := List.count_pos_iff.mpr needed
      have step := ih kept others_ (List.count_pos_iff.mp (by omega))
      rw [bag, (apart_bags apart).2.1, (taken_bags fewer).2.1, Multiset.card_cons,
        takes.perm.count_eq, List.count_cons_self]
      omega
    · have found := unmatched.none [c] some_
      have differ : word ≠ [c] := (ne_initial_of_isWord is).symm
      rw [(initialOf_iff (by rintro rfl; cases is.1) differ).mpr ⟨c, .inr ⟨rfl, is⟩⟩] at found
      cases found

/-- The initials of a letter first, in a pool that begins with a word of it: each that the pool
lacks takes the word. -/
theorem words_left {c : Char} {word : Token} (is : IsWord c word) {rest more : List Token}
    (needed : word ∈ rest) (none_ : word ∉ more) (a n : Nat)
    (kept : ExactKept (List.replicate a [c] ++ rest) (List.replicate n word ++ more))
    (some_ : 0 < n) : a ≤ more.count [c] + (n - rest.count word) := by
  have differ := ne_initial_of_isWord (c := c) is
  induction a generalizing n more with
  | zero => exact Nat.zero_le _
  | succ a ih =>
    rw [List.replicate_succ, List.cons_append] at kept
    by_cases initial : [c] ∈ more
    · have exact : [c] ∈ List.replicate n word ++ more := List.mem_append_right _ initial
      have apart : [c] ∉ List.replicate n word := fun mem => differ (List.eq_of_mem_replicate mem)
      rw [exactKept_exact exact, List.erase_append_right _ apart] at kept
      have step := ih (fun mem => none_ (List.mem_of_mem_erase mem)) n kept some_
      rw [List.count_erase_self] at step
      have some' := List.count_pos_iff.mpr initial
      omega
    · obtain ⟨n, rfl⟩ := Nat.exists_eq_succ_of_ne_zero (by omega : n ≠ 0)
      have begins : initialOf [c] word = true :=
        (initialOf_iff (by simp) differ).mpr ⟨c, .inl ⟨rfl, is⟩⟩
      have takes : TakesInitial [c] (List.replicate (n + 1) word ++ more) word
          (List.replicate n word ++ more) := by
        refine ⟨fun mem => ?_, ?_, begins, ?_, ?_⟩
        · rcases List.mem_append.mp mem with mem | mem
          · exact differ (List.eq_of_mem_replicate mem)
          · exact initial mem
        · rw [List.replicate_succ, List.cons_append, List.find?_cons_of_pos begins]
        · rw [List.replicate_succ, List.cons_append, List.eraseP_cons_of_pos begins]
        · rw [List.replicate_succ, List.cons_append]
      obtain ⟨enough, kept⟩ := (exactKept_takes takes).mp kept
      have needs := List.count_pos_iff.mpr needed
      rw [List.count_append, List.count_append, List.count_replicate_self,
        List.count_eq_zero.mpr none_] at enough
      have step := ih none_ n kept (by omega)
      omega

/-- Where some order of the names loses no exact match, whichever it is, they are unambiguous. -/
theorem unambiguous_of_exactKept {tokens pool : List Token}
    (kept : ∀ tokens' pool', tokens'.Perm tokens → pool'.Perm pool → ExactKept tokens' pool') :
    Unambiguous tokens pool := by
  intro c mem
  rw [Multiset.mem_coe] at mem
  by_contra broken
  rw [not_or] at broken
  obtain ⟨few, second⟩ := broken
  have lost : ¬((Multiset.countP (IsWord c) ((tokens : Multiset Token) - (pool : Multiset Token)) = 0) ∨
      Multiset.count [c] (pool : Multiset Token) = 0) → False := by
    intro both
    rw [not_or] at both
    have order : (tokens.filter (IsWord c) ++ tokens.filter fun token => !decide (IsWord c token)).Perm
        tokens := List.filter_append_perm _ _
    have words : ((tokens.filter (IsWord c) : List Token) : Multiset Token) - (pool : Multiset Token) =
        ((tokens : Multiset Token) - (pool : Multiset Token)).filter (IsWord c) := by
      rw [← Multiset.filter_coe]
      ext other
      rw [Multiset.count_sub, Multiset.count_filter, Multiset.count_filter, Multiset.count_sub]
      split <;> simp
    have initials : (tokens.filter fun token => !decide (IsWord c token)).count [c] =
        tokens.count [c] := List.count_filter (by simp [not_isWord_initial])
    have left := initials_left (kept _ _ order (List.Perm.refl _))
      (fun word mem => of_decide_eq_true (List.mem_filter.mp mem).2)
      (List.mem_filter.mpr ⟨mem, by simp [not_isWord_initial]⟩)
      (Multiset.count_ne_zero.mp both.2)
    rw [words, ← Multiset.countP_eq_card_filter, initials, ← count_coe, ← count_coe] at left
    rcases left with none_ | enough
    · exact both.1 none_
    · exact few enough
  refine second ⟨by_contra lost, fun word inS inL is => ?_⟩
  rw [Multiset.mem_coe] at inS inL
  have differ := ne_initial_of_isWord (c := c) is
  have split (token : Token) (l : List Token) :
      (List.replicate (l.count token) token ++ l.filter fun other => !decide (other = token)).Perm l := by
    have order := List.filter_append_perm (fun other => decide (other = token)) l
    rw [List.filter_eq] at order
    exact order
  have left := @words_left c word is (tokens.filter fun other => !decide (other = [c]))
    (pool.filter fun other => !decide (other = word))
    (List.mem_filter.mpr ⟨inS, by simp [Ne.symm differ]⟩) (by simp) (tokens.count [c])
    (pool.count word) (kept _ _ (split _ _) (split _ _)) (List.count_pos_iff.mpr inL)
  rw [List.count_filter (by simp [differ]), List.count_filter (by simp [Ne.symm differ])] at left
  rw [count_coe, count_coe, count_coe, count_coe]
  exact left

/-! ### Names of given tokens -/

abbrev isTokenChar (c : Char) : Prop := 'A' ≤ c ∧ c ≤ 'Z' ∨ '0' ≤ c ∧ c ≤ '9'

/-- What a name is made of: letters and digits, and no noise. -/
def Proper (token : Token) : Prop :=
  token ≠ [] ∧ token ∉ noiseTokens.map String.toList ∧ ∀ c ∈ token, isTokenChar c

theorem splitOnP_pieces {separates : Char → Bool} (text : List Char) :
    ∀ piece ∈ text.splitOnP separates, ∀ c ∈ piece, separates c = false := by
  induction text with
  | nil => simp
  | cons d rest ih =>
    rw [List.splitOnP_cons_eq_if_modifyHead]
    split
    · simpa using ih
    · rename_i plain
      cases pieces : rest.splitOnP separates with
      | nil => simp
      | cons head tail =>
        rw [pieces] at ih
        obtain ⟨first, others⟩ := List.forall_mem_cons.mp ih
        refine List.forall_mem_cons.mpr ⟨List.forall_mem_cons.mpr ⟨by simpa using plain, first⟩, ?_⟩
        exact others

theorem normaliseName_proper (name : String) : ∀ token ∈ normaliseName name, Proper token := by
  intro token mem
  obtain ⟨piece, is⟩ := List.mem_filter.mp mem
  obtain ⟨some_, noNoise⟩ := of_decide_eq_true is
  refine ⟨some_, noNoise, fun c inToken => ?_⟩
  exact not_not.mp (of_decide_eq_false (splitOnP_pieces _ token piece c inToken))

def nameOf (tokens : List Token) : String := String.ofList ([' '].intercalate tokens)

theorem toUpper_of_isTokenChar {c : Char} (is : isTokenChar c ∨ c = ' ') : c.toUpper = c := by
  have lower : ¬(97 ≤ c.toNat ∧ c.toNat ≤ 122) := by
    rcases is with (⟨-, high⟩ | ⟨-, high⟩) | rfl
    · have high : c.toNat ≤ 90 := high
      omega
    · have high : c.toNat ≤ 57 := high
      omega
    · decide
  rw [Char.toUpper, dif_neg]
  exact lower

theorem splitOnP_intercalate {separates : Char → Bool} (space : separates ' ' = true) {tokens : List Token}
    (some_ : tokens ≠ []) (plain : ∀ token ∈ tokens, ∀ c ∈ token, separates c = false) :
    ([' '].intercalate tokens).splitOnP separates = tokens := by
  induction tokens with
  | nil => exact (some_ rfl).elim
  | cons token rest ih =>
    obtain ⟨first, others⟩ := List.forall_mem_cons.mp plain
    cases rest with
    | nil => simpa [List.intercalate] using List.splitOnP_eq_singleton first
    | cons next rest =>
      have joined : [' '].intercalate (token :: next :: rest) =
          token ++ ' ' :: [' '].intercalate (next :: rest) := by
        simp [List.intercalate]
      rw [joined, List.splitOnP_append_cons_of_forall_mem first ' ' space, ih (by simp) others]

theorem mem_intercalate {c : Char} {tokens : List Token} (mem : c ∈ [' '].intercalate tokens) :
    c = ' ' ∨ ∃ token ∈ tokens, c ∈ token := by
  induction tokens with
  | nil => simp [List.intercalate] at mem
  | cons token rest ih =>
    cases rest with
    | nil => exact .inr ⟨token, List.mem_cons_self, by simpa [List.intercalate] using mem⟩
    | cons next rest =>
      have joined : [' '].intercalate (token :: next :: rest) =
          token ++ ' ' :: [' '].intercalate (next :: rest) := by
        simp [List.intercalate]
      rw [joined, List.mem_append, List.mem_cons] at mem
      rcases mem with mem | rfl | mem
      · exact .inr ⟨token, List.mem_cons_self, mem⟩
      · exact .inl rfl
      · exact (ih mem).imp_right fun ⟨other, inRest, is⟩ => ⟨other, List.mem_cons_of_mem _ inRest, is⟩

theorem normaliseName_nameOf {tokens : List Token} (proper : ∀ token ∈ tokens, Proper token) :
    normaliseName (nameOf tokens) = tokens := by
  have upper : ([' '].intercalate tokens).map Char.toUpper = [' '].intercalate tokens := by
    refine (List.map_congr_left fun c mem => toUpper_of_isTokenChar ?_).trans (List.map_id _)
    rcases mem_intercalate mem with space | ⟨token, inTokens, inToken⟩
    · exact .inr space
    · exact .inl ((proper token inTokens).2.2 c inToken)
  rw [normaliseName, nameOf, String.toList_ofList, upper]
  rcases eq_or_ne tokens [] with rfl | some_
  · rfl
  · rw [splitOnP_intercalate (by decide) some_]
    · refine List.filter_eq_self.mpr fun token mem => decide_eq_true ?_
      exact ⟨(proper token mem).1, (proper token mem).2.1⟩
    · intro token mem c inToken
      exact decide_eq_false (not_not.mpr ((proper token mem).2.2 c inToken))

/-! ### The comparison -/

def shorterOf (left right : List Token) : List Token :=
  if left.length ≤ right.length then left else right

def longerOf (left right : List Token) : List Token :=
  if left.length ≤ right.length then right else left

/-- The score of two names is that of any names with their tokens in other orders, in either order of
the two, and no exact match is lost in any of them. -/
def ComparedAsBags (a b : String) : Prop :=
  ∀ a' b' : String, (normaliseName a').Perm (normaliseName a) →
    (normaliseName b').Perm (normaliseName b) →
    compareNames a' b' = compareNames a b ∧ compareNames b' a' = compareNames a b ∧
      ExactKept (shorterOf (normaliseName a') (normaliseName b'))
        (longerOf (normaliseName a') (normaliseName b')) ∧
      ExactKept (shorterOf (normaliseName b') (normaliseName a'))
        (longerOf (normaliseName b') (normaliseName a'))

/-- The shorter name has no initial that could take the match of another token; with as many tokens
in both, neither has. -/
def NamesUnambiguous (a b : String) : Prop :=
  Unambiguous (shorterOf (normaliseName a) (normaliseName b))
      (longerOf (normaliseName a) (normaliseName b)) ∧
    Unambiguous (shorterOf (normaliseName b) (normaliseName a))
      (longerOf (normaliseName b) (normaliseName a))

section Scores

variable {left right left' right' : List Token}

def scoreOf (shorter longer : List Token) : Nat :=
  if shorter = [] then 0 else (200 * matchedTokens shorter longer + shorter.length) / (2 * shorter.length)

theorem compareNames_eq (a b : String) : compareNames a b =
    scoreOf (shorterOf (normaliseName a) (normaliseName b))
      (longerOf (normaliseName a) (normaliseName b)) := rfl

/-- Two runs on the same two bags match as many tokens. -/
theorem matchedTokens_eq (kept : ExactKept left right) (kept' : ExactKept left' right')
    (some_ : ∀ token ∈ left, token ≠ []) (some' : ∀ token ∈ left', token ≠ [])
    (same : ∀ c, bagMatches c left right = bagMatches c left' right') :
    matchedTokens left right = matchedTokens left' right' := by
  let letters : Finset Char := ((left ++ left').filterMap List.head?).toFinset
  have covers : ∀ token ∈ left ++ left', token ≠ [] → ∃ c ∈ letters, StartsWith c token := by
    intro token mem some_
    obtain ⟨c, rest, rfl⟩ := List.exists_cons_of_ne_nil some_
    exact ⟨c, List.mem_toFinset.mpr (List.mem_filterMap.mpr ⟨_, mem, rfl⟩), rfl⟩
  rw [matchedTokens_eq_sum fun token mem =>
      covers token (List.mem_append_left _ mem) (some_ token mem),
    matchedTokens_eq_sum fun token mem =>
      covers token (List.mem_append_right _ mem) (some' token mem)]
  refine Finset.sum_congr rfl fun c _ => ?_
  rw [matchedFor_eq kept some_, matchedFor_eq kept' some', same]

theorem scoreOf_eq (kept : ExactKept left right) (kept' : ExactKept left' right')
    (some_ : ∀ token ∈ left, token ≠ []) (some' : ∀ token ∈ left', token ≠ [])
    (lengths : left.length = left'.length)
    (same : ∀ c, bagMatches c left right = bagMatches c left' right') :
    scoreOf left right = scoreOf left' right' := by
  have nil : left = [] ↔ left' = [] := by
    rw [← List.length_eq_zero_iff, ← List.length_eq_zero_iff, lengths]
  rw [scoreOf, scoreOf, matchedTokens_eq kept kept' some_ some' same, lengths]
  simp only [nil]

variable (l : left'.Perm left) (r : right'.Perm right)

include l r

theorem shorterOf_perm : (shorterOf left' right').Perm (shorterOf left right) := by
  rw [shorterOf, shorterOf, l.length_eq, r.length_eq]
  split
  · exact l
  · exact r

theorem longerOf_perm : (longerOf left' right').Perm (longerOf left right) := by
  rw [longerOf, longerOf, l.length_eq, r.length_eq]
  split
  · exact r
  · exact l

end Scores

theorem shorterOf_swap (left right : List Token) :
    shorterOf right left = shorterOf left right ∧ longerOf right left = longerOf left right ∨
      left.length = right.length ∧ shorterOf right left = longerOf left right ∧
        longerOf right left = shorterOf left right := by
  rw [shorterOf, shorterOf, longerOf, longerOf]
  rcases Nat.lt_trichotomy left.length right.length with less | same | more
  · exact .inl (by simp [Nat.not_le.mpr less, Nat.le_of_lt less])
  · exact .inr (by simp [same])
  · exact .inl (by simp [Nat.not_le.mpr more, Nat.le_of_lt more])

theorem some_of_shorterOf {a b : String} :
    ∀ token ∈ shorterOf (normaliseName a) (normaliseName b), token ≠ [] := by
  intro token mem
  rw [shorterOf] at mem
  split at mem
  · exact (normaliseName_proper a token mem).1
  · exact (normaliseName_proper b token mem).1

theorem ComparedAsBags.symm {a b : String} (compared : ComparedAsBags a b) : ComparedAsBags b a := by
  intro b' a' permB permA
  obtain ⟨one, two, keptOne, keptTwo⟩ := compared a' b' permA permB
  have swapped := (compared a b (List.Perm.refl _) (List.Perm.refl _)).2.1
  exact ⟨two.trans swapped.symm, one.trans swapped.symm, keptTwo, keptOne⟩

theorem ComparedAsBags.unambiguous {a b : String} (compared : ComparedAsBags a b) :
    Unambiguous (shorterOf (normaliseName a) (normaliseName b))
      (longerOf (normaliseName a) (normaliseName b)) := by
  refine unambiguous_of_exactKept fun tokens pool permS permL => ?_
  have named {name : String} {tokens : List Token} (perm : tokens.Perm (normaliseName name)) :
      normaliseName (nameOf tokens) = tokens :=
    normaliseName_nameOf fun token mem => normaliseName_proper name token (perm.mem_iff.mp mem)
  by_cases order : (normaliseName a).length ≤ (normaliseName b).length
  · rw [shorterOf, if_pos order] at permS
    rw [longerOf, if_pos order] at permL
    have kept := (compared (nameOf tokens) (nameOf pool) ((named permS).symm ▸ permS)
      ((named permL).symm ▸ permL)).2.2.1
    rw [named permS, named permL, shorterOf, longerOf, if_pos, if_pos] at kept
    · exact kept
    all_goals rwa [permS.length_eq, permL.length_eq]
  · rw [shorterOf, if_neg order] at permS
    rw [longerOf, if_neg order] at permL
    have kept := (compared (nameOf pool) (nameOf tokens) ((named permL).symm ▸ permL)
      ((named permS).symm ▸ permS)).2.2.1
    rw [named permS, named permL, shorterOf, longerOf, if_neg, if_neg] at kept
    · exact kept
    all_goals rwa [permS.length_eq, permL.length_eq]

end InrSettle
