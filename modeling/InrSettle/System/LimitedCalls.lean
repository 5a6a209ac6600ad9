import InrSettle.Domain.RateLimit

/-!
# One caller's requests

The answers to requests that come one after the other, in the order of time. Each window
has a quota that its answers tell, so what is allowed in a window and in any interval as
long as one follows from the windows it meets.
-/

namespace InrSettle

variable (policy : RateLimitPolicy)

/-- The answers to requests at these times, each one's row stored for the next. -/
def answers : Option RateLimitRow → List Nat → List RateLimitDecision
  | _, [] => []
  | current, now :: later =>
    evaluateRateLimit policy now current ::
      answers (some (evaluateRateLimit policy now current).row) later

/-- How many of the requests in an interval are allowed. -/
def allowedIn (inside : Nat → Bool) (current : Option RateLimitRow) (times : List Nat) : Nat :=
  (times.zip (answers policy current times)).countP fun call => inside call.1 && call.2.allowed

variable {policy} {inside : Nat → Bool} {current : Option RateLimitRow} {times : List Nat}

@[simp] theorem length_answers (current : Option RateLimitRow) :
    (answers policy current times).length = times.length := by
  induction times generalizing current with
  | nil => rfl
  | cons now later ih => rw [answers, List.length_cons, List.length_cons, ih]

theorem allowedIn_nil : allowedIn policy inside current [] = 0 := rfl

theorem allowedIn_cons (now : Nat) (later : List Nat) :
    allowedIn policy inside current (now :: later) =
      allowedIn policy inside (some (evaluateRateLimit policy now current).row) later +
        if inside now && (evaluateRateLimit policy now current).allowed then 1 else 0 := by
  rw [allowedIn, answers, List.zip_cons_cons, List.countP_cons]
  rfl

theorem allowedIn_cons_of_outside {now : Nat} {later : List Nat} (outside : inside now = false) :
    allowedIn policy inside current (now :: later) =
      allowedIn policy inside (some (evaluateRateLimit policy now current).row) later := by
  rw [allowedIn_cons, outside]
  rfl

theorem allowedIn_le_of_imp {inside' : Nat → Bool}
    (more : ∀ now ∈ times, inside now = true → inside' now = true) :
    allowedIn policy inside current times ≤ allowedIn policy inside' current times := by
  refine List.countP_mono_left fun call mem counted => ?_
  simp only [Bool.and_eq_true] at counted ⊢
  exact ⟨more call.1 (List.of_mem_zip mem).1 counted.1, counted.2⟩

theorem allowedIn_eq_zero (outside : ∀ now ∈ times, inside now = false) :
    allowedIn policy inside current times = 0 := by
  refine List.countP_eq_zero.mpr fun call mem counted => ?_
  rw [outside call.1 (List.of_mem_zip mem).1] at counted
  cases counted

theorem allowedIn_or_le {first second : Nat → Bool} :
    allowedIn policy (fun now => first now || second now) current times ≤
      allowedIn policy first current times + allowedIn policy second current times := by
  induction times generalizing current with
  | nil => simp [allowedIn_nil]
  | cons now later ih =>
    have rest := @ih (some (evaluateRateLimit policy now current).row)
    simp only [allowedIn_cons]
    cases first now <;> cases second now <;> simp <;> omega

/-! ### One request -/

/-- A request opens a window or counts in the stored one. -/
theorem answer_cases (policy : RateLimitPolicy) (now : Nat) (current : Option RateLimitRow) :
    (opensWindow policy now current = true ∧
      (evaluateRateLimit policy now current).allowed = decide (0 < policy.limit) ∧
      (evaluateRateLimit policy now current).row =
        ⟨now, if 0 < policy.limit then 1 else 0⟩) ∨
    ∃ row, current = some row ∧ now < row.windowStart + policy.windowSeconds ∧
      (evaluateRateLimit policy now current).allowed = decide (row.count < policy.limit) ∧
      (evaluateRateLimit policy now current).row =
        ⟨row.windowStart, if row.count < policy.limit then row.count + 1 else row.count⟩ := by
  cases opens : opensWindow policy now current with
  | true => exact .inl ⟨rfl, evaluateRateLimit_opens opens⟩
  | false =>
    cases current with
    | none => cases opens
    | some row =>
      refine .inr ⟨row, rfl, ?_, evaluateRateLimit_counts opens⟩
      simpa [opensWindow] using opens

/-! ### The quota of a window -/

def within (first past time : Nat) : Bool := decide (first ≤ time ∧ time < past)

@[simp] theorem within_iff {first past time : Nat} :
    within first past time = true ↔ first ≤ time ∧ time < past := decide_eq_true_iff

theorem within_eq_false {first past time : Nat} (outside : time < first ∨ past ≤ time) :
    within first past time = false := by
  simp [within]
  omega

/-- The requests before the window's end use what is left of its quota. -/
theorem allowedIn_window (row : RateLimitRow) (sorted : times.Pairwise (· ≤ ·))
    (kept : row.count ≤ policy.limit) :
    allowedIn policy (within 0 (row.windowStart + policy.windowSeconds)) (some row) times ≤
      policy.limit - row.count := by
  induction times generalizing row with
  | nil => exact Nat.zero_le _
  | cons now later ih =>
    obtain ⟨first, sorted'⟩ := List.pairwise_cons.mp sorted
    rcases answer_cases policy now (some row) with ⟨opens, -, -⟩ | ⟨row', same, before, allowed, is⟩
    · have ended : row.windowStart + policy.windowSeconds ≤ now := by
        simpa [opensWindow] using opens
      rw [allowedIn_eq_zero]
      · exact Nat.zero_le _
      · refine List.forall_mem_cons.mpr ⟨within_eq_false (.inr ended), fun time mem => ?_⟩
        exact within_eq_false (.inr (Nat.le_trans ended (first time mem)))
    · cases same
      rw [allowedIn_cons, allowed, is, within_iff.mpr ⟨Nat.zero_le _, before⟩, Bool.true_and]
      by_cases more : row.count < policy.limit
      · have rest := ih ⟨row.windowStart, row.count + 1⟩ sorted' more
        simp only [more, if_true, decide_true] at rest ⊢
        omega
      · have rest := ih row sorted' kept
        simp only [more, if_false, decide_false, Bool.false_eq_true] at rest ⊢
        omega

/-- As many as the limit from a request that opens a window to the window's end. -/
theorem allowedIn_opened {now : Nat} {later : List Nat}
    (opens : opensWindow policy now current = true) (sorted : (now :: later).Pairwise (· ≤ ·)) :
    allowedIn policy (within 0 (now + policy.windowSeconds)) current (now :: later) ≤
      policy.limit := by
  obtain ⟨allowed, is⟩ := evaluateRateLimit_opens opens
  have rest := @allowedIn_window policy later ⟨now, if 0 < policy.limit then 1 else 0⟩
    (List.pairwise_cons.mp sorted).2 (by simp only; split <;> omega)
  rw [allowedIn_cons, allowed, is]
  by_cases some : 0 < policy.limit
  · simp only [some, if_true] at rest ⊢
    split <;> omega
  · simp only [some, if_false, decide_false, Bool.and_false, Bool.false_eq_true] at rest ⊢
    omega

/-- The window after the stored one has its own quota. -/
theorem allowedIn_next (row : RateLimitRow) (sorted : times.Pairwise (· ≤ ·)) :
    allowedIn policy (within (row.windowStart + policy.windowSeconds)
        (row.windowStart + policy.windowSeconds + policy.windowSeconds)) (some row) times ≤
      policy.limit := by
  induction times generalizing row with
  | nil => exact Nat.zero_le _
  | cons now later ih =>
    rcases answer_cases policy now (some row) with ⟨opens, -, -⟩ | ⟨row', same, before, -, is⟩
    · have ended : row.windowStart + policy.windowSeconds ≤ now := by
        simpa [opensWindow] using opens
      refine Nat.le_trans (allowedIn_le_of_imp fun time _ counted => ?_)
        (allowedIn_opened opens sorted)
      rw [within_iff] at counted ⊢
      omega
    · cases same
      rw [allowedIn_cons_of_outside (within_eq_false (.inl before)), is]
      exact ih ⟨row.windowStart, if row.count < policy.limit then row.count + 1 else row.count⟩
        (List.pairwise_cons.mp sorted).2

/-! ### Every window -/

/-- The window that starts then has been opened after the stored one, and keeps its quota. -/
def WindowOpened (policy : RateLimitPolicy) (current : Option RateLimitRow) (times : List Nat)
    (windowStart : Nat) : Prop :=
  (∀ row, current = some row → row.windowStart + policy.windowSeconds ≤ windowStart) ∧
    allowedIn policy (within windowStart (windowStart + policy.windowSeconds)) current times ≤
      policy.limit

theorem WindowOpened.of_opens {now : Nat} {later : List Nat}
    (opens : opensWindow policy now current = true) (sorted : (now :: later).Pairwise (· ≤ ·)) :
    WindowOpened policy current (now :: later) now := by
  refine ⟨?_, ?_⟩
  · rintro row rfl
    simpa [opensWindow] using opens
  · refine Nat.le_trans (allowedIn_le_of_imp fun time _ counted => ?_)
      (allowedIn_opened opens sorted)
    rw [within_iff] at counted ⊢
    omega

theorem WindowOpened.cons {now windowStart : Nat} {later : List Nat}
    (opened : WindowOpened policy (some (evaluateRateLimit policy now current).row) later windowStart) :
    WindowOpened policy current (now :: later) windowStart := by
  obtain ⟨after, kept⟩ := opened
  have after := after _ rfl
  have outside : within windowStart (windowStart + policy.windowSeconds) now = false ∧
      ∀ row, current = some row → row.windowStart + policy.windowSeconds ≤ windowStart := by
    rcases answer_cases policy now current with ⟨opens, -, is⟩ | ⟨row, rfl, before, -, is⟩
    · have after : now + policy.windowSeconds ≤ windowStart := by
        rw [is] at after
        exact after
      refine ⟨within_eq_false (by omega), ?_⟩
      rintro row rfl
      have ended : row.windowStart + policy.windowSeconds ≤ now := by
        simpa [opensWindow] using opens
      omega
    · have after : row.windowStart + policy.windowSeconds ≤ windowStart := by
        rw [is] at after
        exact after
      refine ⟨within_eq_false (.inl (Nat.lt_of_lt_of_le before after)), ?_⟩
      rintro row' same
      exact Option.some.inj same ▸ after
  refine ⟨outside.2, ?_⟩
  rw [allowedIn_cons_of_outside outside.1]
  exact kept

/-- A request is answered in the stored window or in one that is opened after it. -/
theorem opened_or_stored (sorted : times.Pairwise (· ≤ ·)) {answer : RateLimitDecision}
    (mem : answer ∈ answers policy current times) :
    (∃ row, current = some row ∧ answer.newWindowStartSeconds = row.windowStart) ∨
      WindowOpened policy current times answer.newWindowStartSeconds := by
  induction times generalizing current with
  | nil => cases mem
  | cons now later ih =>
    -- what the first request makes of its own window
    have first : ∀ windowStart, (evaluateRateLimit policy now current).row.windowStart = windowStart →
        (∃ row, current = some row ∧ windowStart = row.windowStart) ∨
          WindowOpened policy current (now :: later) windowStart := by
      rintro windowStart rfl
      rcases answer_cases policy now current with ⟨opens, -, is⟩ | ⟨row, rfl, -, -, is⟩
      · rw [is]
        exact .inr (.of_opens opens sorted)
      · rw [is]
        exact .inl ⟨row, rfl, rfl⟩
    rw [answers] at mem
    rcases List.mem_cons.mp mem with rfl | mem
    · exact first _ rfl
    · rcases ih (List.pairwise_cons.mp sorted).2 mem with ⟨row, same, starts⟩ | opened
      · cases same
        exact first _ starts.symm
      · exact .inr opened.cons

/-! ### Every interval -/

/-- No more than two quotas from the first request on. -/
theorem allowedIn_twice {first : Nat} (sorted : times.Pairwise (· ≤ ·))
    (after : ∀ now ∈ times, first ≤ now)
    (kept : ∀ row, current = some row → row.count ≤ policy.limit)
    (some_ : 0 < policy.windowSeconds) :
    allowedIn policy (within first (first + policy.windowSeconds + 1)) current times ≤
      2 * policy.limit := by
  cases times with
  | nil => exact Nat.zero_le _
  | cons now later =>
    have from_ := after now List.mem_cons_self
    -- the window of the first request ends after it, and one more ends after the interval
    have two : ∀ past, now < past →
        allowedIn policy (within 0 past) current (now :: later) ≤ policy.limit →
        allowedIn policy (within past (past + policy.windowSeconds)) current (now :: later) ≤
          policy.limit →
        allowedIn policy (within first (first + policy.windowSeconds + 1)) current (now :: later) ≤
          2 * policy.limit := by
      intro past later_ one other
      have both := @allowedIn_or_le policy current (now :: later) (within 0 past)
        (within past (past + policy.windowSeconds))
      refine Nat.le_trans (allowedIn_le_of_imp fun time _ counted => ?_)
        (Nat.le_trans both (by omega))
      rw [within_iff] at counted
      rw [Bool.or_eq_true, within_iff, within_iff]
      omega
    rcases answer_cases policy now current with ⟨opens, -, is⟩ | ⟨row, rfl, before, -, is⟩
    · refine two (now + policy.windowSeconds) (by omega) (allowedIn_opened opens sorted) ?_
      rw [allowedIn_cons_of_outside (within_eq_false (.inl (by omega))), is]
      exact allowedIn_next ⟨now, if 0 < policy.limit then 1 else 0⟩ (List.pairwise_cons.mp sorted).2
    · refine two _ before ?_ (allowedIn_next row sorted)
      exact Nat.le_trans (allowedIn_window row sorted (kept row rfl)) (Nat.sub_le _ _)

theorem count_row_le {now : Nat} (kept : ∀ row, current = some row → row.count ≤ policy.limit) :
    (evaluateRateLimit policy now current).row.count ≤ policy.limit := by
  rcases answer_cases policy now current with ⟨-, -, is⟩ | ⟨row, rfl, -, -, is⟩
  · rw [is]
    simp only
    split <;> omega
  · have kept := kept row rfl
    rw [is]
    simp only
    split <;> omega

theorem allowedIn_interval (first : Nat) (sorted : times.Pairwise (· ≤ ·))
    (kept : ∀ row, current = some row → row.count ≤ policy.limit)
    (some_ : 0 < policy.windowSeconds) :
    allowedIn policy (within first (first + policy.windowSeconds + 1)) current times ≤
      2 * policy.limit := by
  induction times generalizing current with
  | nil => exact Nat.zero_le _
  | cons now later ih =>
    by_cases before : now < first
    · rw [allowedIn_cons_of_outside (within_eq_false (.inl before))]
      exact ih (List.pairwise_cons.mp sorted).2 fun row is => Option.some.inj is ▸ count_row_le kept
    · refine allowedIn_twice sorted (List.forall_mem_cons.mpr ⟨by omega, fun time mem => ?_⟩) kept
        some_
      have next := (List.pairwise_cons.mp sorted).1 time mem
      omega

/-! ### What an answer reports -/

/-- What an answer reports holds of the requests after it: before the window's end the next
`remaining` are allowed and no other; where it refuses, none is allowed until `retryAfterSeconds`
are over, and the first one then, if any ever is. -/
def Reported (policy : RateLimitPolicy) (now : Nat) (answer : RateLimitDecision) (later : List Nat)
    (answered : List RateLimitDecision) : Prop :=
  ∀ (j time : Nat) (next : RateLimitDecision), later[j]? = some time → answered[j]? = some next →
    (time < answer.resetAtSeconds → (next.allowed = true ↔ j < answer.remaining)) ∧
    (answer.allowed = false →
      (time < now + answer.retryAfterSeconds → next.allowed = false) ∧
      (now + answer.retryAfterSeconds ≤ time →
        (∀ i < j, ∀ earlier, later[i]? = some earlier → earlier < now + answer.retryAfterSeconds) →
        (next.allowed = true ↔ 0 < policy.limit)))

/-- What is left of the stored window's quota is allowed, one request after the other. -/
theorem allowed_iff_left {later : List Nat} (row : RateLimitRow) (sorted : later.Pairwise (· ≤ ·))
    {j time : Nat} {next : RateLimitDecision} (at_ : later[j]? = some time)
    (is : (answers policy (some row) later)[j]? = some next)
    (before : time < row.windowStart + policy.windowSeconds) :
    next.allowed = true ↔ j < policy.limit - row.count := by
  induction later generalizing row j with
  | nil => cases at_
  | cons now later ih =>
    obtain ⟨first, sorted'⟩ := List.pairwise_cons.mp sorted
    have early : now ≤ time := by
      cases j with
      | zero => exact Nat.le_of_eq (Option.some.inj at_)
      | succ j => exact first time (List.mem_of_getElem? at_)
    rcases answer_cases policy now (some row) with ⟨opens, -, -⟩ | ⟨row', same, -, allowed, stored⟩
    · have ended : row.windowStart + policy.windowSeconds ≤ now := by
        simpa [opensWindow] using opens
      omega
    · cases same
      rw [answers] at is
      cases j with
      | zero =>
        rw [← Option.some.inj is, allowed, decide_eq_true_iff]
        omega
      | succ j =>
        rw [List.getElem?_cons_succ, stored] at is
        rw [ih _ sorted' at_ is before]
        simp only
        split <;> omega

/-- The first request after the stored window opens one. -/
theorem allowed_first_after {later : List Nat} (row : RateLimitRow) {j time : Nat}
    {next : RateLimitDecision} (at_ : later[j]? = some time)
    (is : (answers policy (some row) later)[j]? = some next)
    (after : row.windowStart + policy.windowSeconds ≤ time)
    (before : ∀ i < j, ∀ earlier, later[i]? = some earlier →
      earlier < row.windowStart + policy.windowSeconds) :
    next.allowed = true ↔ 0 < policy.limit := by
  induction later generalizing row j with
  | nil => cases at_
  | cons now later ih =>
    rw [answers] at is
    cases j with
    | zero =>
      have opens : opensWindow policy now (some row) = true := by
        rw [← Option.some.inj at_] at after
        simpa [opensWindow] using after
      rw [← Option.some.inj is, (evaluateRateLimit_opens opens).1, decide_eq_true_iff]
    | succ j =>
      have early := before 0 (Nat.succ_pos j) now rfl
      have counts : opensWindow policy now (some row) = false := by
        simpa [opensWindow] using early
      rw [List.getElem?_cons_succ, (evaluateRateLimit_counts counts).2] at is
      exact ih ⟨row.windowStart, _⟩ at_ is after fun i less earlier found =>
        before (i + 1) (Nat.succ_lt_succ less) earlier found

theorem not_allowed_of_limit_zero (none_ : policy.limit = 0) {answer : RateLimitDecision}
    (mem : answer ∈ answers policy current times) : answer.allowed = false := by
  induction times generalizing current with
  | nil => cases mem
  | cons now later ih =>
    rw [answers] at mem
    rcases List.mem_cons.mp mem with rfl | mem
    · simp [evaluateRateLimit, none_]
    · exact ih mem

theorem reported_first {now : Nat} {later : List Nat} (sorted : (now :: later).Pairwise (· ≤ ·)) :
    Reported policy now (evaluateRateLimit policy now current) later
      (answers policy (some (evaluateRateLimit policy now current).row) later) := by
  intro j time next at_ is
  refine ⟨fun before => ?_, fun refused => ?_⟩
  · exact allowed_iff_left _ (List.pairwise_cons.mp sorted).2 at_ is before
  · rcases answer_cases policy now current with ⟨-, allowed, -⟩ | ⟨row, rfl, before, allowed, stored⟩
    · have none_ : policy.limit = 0 := by simpa [allowed] using refused
      have never := not_allowed_of_limit_zero none_ (List.mem_of_getElem? is)
      simp [never, none_]
    · have full : ¬row.count < policy.limit := by simpa [allowed] using refused
      rw [if_neg full] at stored
      have retry : now + (evaluateRateLimit policy now (some row)).retryAfterSeconds =
          row.windowStart + policy.windowSeconds := by
        have reset : (evaluateRateLimit policy now (some row)).resetAtSeconds =
            (evaluateRateLimit policy now (some row)).row.windowStart + policy.windowSeconds := rfl
        have waits : (evaluateRateLimit policy now (some row)).retryAfterSeconds =
            max 1 ((evaluateRateLimit policy now (some row)).resetAtSeconds - now) := rfl
        rw [waits, reset, stored]
        simp only
        omega
      rw [retry]
      rw [stored] at is
      refine ⟨fun early => ?_, fun after earlier => allowed_first_after row at_ is after earlier⟩
      have left := allowed_iff_left row (List.pairwise_cons.mp sorted).2 at_ is early
      rw [← Bool.not_eq_true, left]
      omega

theorem reported (sorted : times.Pairwise (· ≤ ·)) {k now : Nat} {answer : RateLimitDecision}
    (at_ : times[k]? = some now) (is : (answers policy current times)[k]? = some answer) :
    Reported policy now answer (times.drop (k + 1)) ((answers policy current times).drop (k + 1)) := by
  induction times generalizing current k with
  | nil => cases at_
  | cons first later ih =>
    rw [answers] at is ⊢
    cases k with
    | zero =>
      rw [← Option.some.inj is, ← Option.some.inj at_]
      exact reported_first sorted
    | succ k => exact ih (List.pairwise_cons.mp sorted).2 at_ is

/-- For requests in the order of time: no window allows more than the limit, no interval of a
window's length more than twice as many, and what each answer reports holds of the requests after
it. -/
theorem limited_calls (policy : RateLimitPolicy) (times : List Nat)
    (sorted : times.Pairwise (· ≤ ·)) :
    (∀ answer ∈ answers policy none times,
      allowedIn policy (within answer.newWindowStartSeconds
        (answer.newWindowStartSeconds + policy.windowSeconds)) none times ≤ policy.limit) ∧
    (∀ first, allowedIn policy (within first (first + policy.windowSeconds)) none times ≤
      2 * policy.limit) ∧
    (0 < policy.windowSeconds → ∀ first,
      allowedIn policy (within first (first + policy.windowSeconds + 1)) none times ≤
        2 * policy.limit) ∧
    ∀ (k now : Nat) (answer : RateLimitDecision), times[k]? = some now →
      (answers policy none times)[k]? = some answer →
      Reported policy now answer (times.drop (k + 1)) ((answers policy none times).drop (k + 1)) := by
  have closed (some_ : 0 < policy.windowSeconds) (first : Nat) :=
    @allowedIn_interval policy none times first sorted (by simp) some_
  refine ⟨fun answer mem => ?_, fun first => ?_, closed, fun k now answer => reported sorted⟩
  · rcases opened_or_stored sorted mem with ⟨_, none_, -⟩ | opened
    · cases none_
    · exact opened.2
  · rcases Nat.eq_zero_or_pos policy.windowSeconds with none_ | some_
    · rw [allowedIn_eq_zero fun now _ => within_eq_false (by omega)]
      exact Nat.zero_le _
    · refine Nat.le_trans (allowedIn_le_of_imp fun now _ counted => ?_) (closed some_ first)
      rw [within_iff] at counted ⊢
      omega

theorem limited_calls_once :
    [100, 110, 159, 160, 161].Pairwise (· ≤ ·) ∧
      allowedIn ⟨2, 60⟩ (within 100 160) none [100, 110, 159, 160, 161] ≤ 2 :=
  ⟨by decide, (limited_calls ⟨2, 60⟩ [100, 110, 159, 160, 161] (by decide)).1
    (evaluateRateLimit ⟨2, 60⟩ 100 none) (by decide)⟩

end InrSettle
