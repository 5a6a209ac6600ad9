import InrSettle.Domain.RateLimit
import InrSettle.Library.Run
import InrSettle.Library.Table

/-!
# The rate limiter

Calls of one key and bucket in any order. A call selects its row for update and then
writes it; where there is no row yet nothing is locked, and its insert overwrites the row
another call has stored meanwhile.
-/

namespace InrSettle

open Run

/-! ### The state -/

inductive LimiterRun where
  /-- A call that has read the row, under its lock if there is one. -/
  | consuming (nowSeconds : Nat) (current : Option RateLimitRow)
  | ended
  deriving DecidableEq

structure LimiterWorld where
  row : Option RateLimitRow
  runs : List LimiterRun := []
  /-- The run that holds the row's lock. -/
  lock : Option Nat := none
  /-- The windows of the calls answered allowed. -/
  allowed : List Nat := []
  deriving DecidableEq

inductive LimiterOp where
  | select (nowSeconds : Nat)
  | upsert (runId : Nat)
  | lose (runId : Nat)
  deriving DecidableEq

/-- The next stored row counts on, or opens a window after the stored one is over. -/
def RateLimitRow.Continues (policy : RateLimitPolicy) (row next : RateLimitRow) : Prop :=
  next.windowStart = row.windowStart ∧ row.count ≤ next.count ∨
    row.windowStart + policy.windowSeconds ≤ next.windowStart ∧ row.windowStart < next.windowStart

namespace LimiterWorld

def start (stored : Option RateLimitRow) : LimiterWorld := ⟨stored, [], none, []⟩

/-- The run may write: no other one holds the lock. -/
def free (w : LimiterWorld) (runId : Nat) : Bool := w.lock.all fun holder => decide (holder = runId)

/-- The transaction is over, its lock released. -/
def finish (w : LimiterWorld) (runId : Nat) : LimiterWorld :=
  { w with
    runs := w.runs.set runId .ended
    lock := if w.lock = some runId then none else w.lock }

variable (policy : RateLimitPolicy)

def step (w : LimiterWorld) : LimiterOp → LimiterWorld
  | .select nowSeconds => match w.row, w.lock with
    | none, _ => { w with runs := w.runs ++ [.consuming nowSeconds none] }
    | some row, none => { w with
        runs := w.runs ++ [.consuming nowSeconds (some row)]
        lock := some w.runs.length }
    | some _, some _ => w
  | .upsert runId => match w.runs[runId]? with
    | some (.consuming nowSeconds current) =>
      if w.free runId then
        let decision := evaluateRateLimit policy nowSeconds current
        { w.finish runId with
          row := some decision.row
          allowed := if decision.allowed then decision.row.windowStart :: w.allowed
            else w.allowed }
      else w
    | _ => w
  | .lose runId => w.finish runId

/-- A call that opens a window over a stored one finds that over, by its clock, and begun before;
or it begins at the same second, with nothing counted. -/
def Unraced (w : LimiterWorld) : LimiterOp → Prop
  | .upsert runId => match w.runs[runId]?, w.row with
    | some (.consuming nowSeconds current), some row =>
      w.free runId = true → opensWindow policy nowSeconds current = true →
        row.windowStart + policy.windowSeconds ≤ nowSeconds ∧ row.windowStart < nowSeconds ∨
          nowSeconds = row.windowStart ∧ row.count = 0
    | _, _ => True
  | _ => True

instance (w : LimiterWorld) (op : LimiterOp) : Decidable (w.Unraced policy op) := by
  unfold Unraced
  split
  · split <;> infer_instance
  · infer_instance

/-- What a stored row has counted of a window before the calls. -/
def prior (stored : Option RateLimitRow) (windowStart : Nat) : Nat :=
  match stored with
  | some row => if row.windowStart = windowStart then row.count else 0
  | none => 0

/-! ### The lock -/

/-- A run that has read a row holds its lock, and the row is as it was read. -/
structure Locked (w : LimiterWorld) : Prop where
  held : ∀ runId, w.lock = some runId → ∃ nowSeconds row,
    w.runs[runId]? = some (.consuming nowSeconds (some row)) ∧ w.row = some row
  holds : ∀ runId nowSeconds row,
    w.runs[runId]? = some (.consuming nowSeconds (some row)) → w.lock = some runId

variable {policy : RateLimitPolicy} {w : LimiterWorld}

theorem free_iff {runId : Nat} : w.free runId = true ↔ ∀ holder, w.lock = some holder →
    holder = runId := by
  cases is : w.lock <;> simp [free, is]

theorem finish_lock {runId : Nat} (free : w.free runId = true) : (w.finish runId).lock = none := by
  unfold finish
  cases is : w.lock with
  | none => simp
  | some holder => simp [free_iff.mp free holder is]

theorem Locked.finish (locked : w.Locked) (runId : Nat) : (w.finish runId).Locked where
  held := fun holder is => by
    simp only [LimiterWorld.finish] at is
    split at is
    · cases is
    · rename_i other
      have apart : runId ≠ holder := fun same => other (same ▸ is)
      simpa only [LimiterWorld.finish, List.getElem?_set_ne apart] using locked.held holder is
  holds := fun id nowSeconds row found => by
    simp only [LimiterWorld.finish, List.getElem?_set] at found ⊢
    split at found
    · split at found <;> cases found
    · rename_i apart
      have lock := locked.holds id nowSeconds row found
      rw [if_neg fun same => apart (Option.some.inj (same.symm.trans lock))]
      exact lock

/-- What a call writes over. -/
structure Writes (w : LimiterWorld) (op : LimiterOp) (nowSeconds : Nat)
    (current : Option RateLimitRow) : Prop where
  upsert : ∃ runId, op = .upsert runId ∧ w.free runId = true ∧
    w.runs[runId]? = some (.consuming nowSeconds current)

theorem step_cases (policy : RateLimitPolicy) (w : LimiterWorld) (op : LimiterOp) :
    ((w.step policy op).row = w.row ∧ (w.step policy op).allowed = w.allowed) ∨
      ∃ nowSeconds current, w.Writes op nowSeconds current ∧
        (w.step policy op).row = some (evaluateRateLimit policy nowSeconds current).row ∧
        (w.step policy op).allowed =
          if (evaluateRateLimit policy nowSeconds current).allowed then
            (evaluateRateLimit policy nowSeconds current).row.windowStart :: w.allowed
          else w.allowed := by
  cases op with
  | select nowSeconds =>
    refine .inl ?_
    simp only [step]
    split <;> exact ⟨rfl, rfl⟩
  | upsert runId =>
    simp only [step]
    split
    · rename_i nowSeconds current found
      split
      · rename_i free
        exact .inr ⟨nowSeconds, current, ⟨runId, rfl, free, found⟩, rfl, rfl⟩
      · exact .inl ⟨rfl, rfl⟩
    · exact .inl ⟨rfl, rfl⟩
  | lose runId => exact .inl ⟨rfl, rfl⟩

/-- A call that has read a row writes over that row. -/
theorem Locked.current (locked : w.Locked) {op : LimiterOp} {nowSeconds : Nat} {row : RateLimitRow}
    (writes : w.Writes op nowSeconds (some row)) : w.row = some row := by
  obtain ⟨runId, -, free, found⟩ := writes
  obtain ⟨_, row', found', is⟩ := locked.held runId (locked.holds runId _ _ found)
  obtain ⟨-, same⟩ := LimiterRun.consuming.inj (Option.some.inj (found'.symm.trans found))
  rw [is, same]

theorem Locked.step (locked : w.Locked) (op : LimiterOp) : (w.step policy op).Locked := by
  cases op with
  | select nowSeconds =>
    simp only [LimiterWorld.step]
    split
    · refine ⟨fun holder is => ?_, fun id _ row found => ?_⟩
      · obtain ⟨now, row, found, there⟩ := locked.held holder is
        exact ⟨now, row, List.getElem?_append_left (List.getElem?_eq_some_iff.mp found).1 ▸ found,
          there⟩
      · rcases Table.getElem?_concat_some.mp found with old | ⟨-, new⟩
        · exact locked.holds id _ row old
        · cases new
    · rename_i row there unlocked
      refine ⟨fun holder is => ?_, fun id _ row' found => ?_⟩
      · obtain rfl := Option.some.inj is
        exact ⟨nowSeconds, row, List.getElem?_concat_length, there⟩
      · rcases Table.getElem?_concat_some.mp found with old | ⟨rfl, -⟩
        · cases unlocked.symm.trans (locked.holds id _ row' old)
        · rfl
    · exact locked
  | upsert runId =>
    simp only [LimiterWorld.step]
    split
    · split
      · rename_i free
        have finished := locked.finish runId
        refine ⟨fun holder is => ?_, finished.holds⟩
        cases (finish_lock free).symm.trans is
      · exact locked
    · exact locked
  | lose runId => exact locked.finish runId

/-! ### The counts -/

/-- The stored row counts the calls allowed in its window, which began last. -/
structure Counted (policy : RateLimitPolicy) (stored : Option RateLimitRow) (w : LimiterWorld) :
    Prop where
  empty : w.row = none → w.allowed = [] ∧ stored = none
  counted : ∀ row, w.row = some row →
    prior stored row.windowStart + w.allowed.count row.windowStart = row.count
  within : ∀ windowStart, w.allowed.count windowStart = 0 ∨
    prior stored windowStart + w.allowed.count windowStart ≤ policy.limit
  last : ∀ row, w.row = some row → (∀ windowStart ∈ w.allowed, windowStart ≤ row.windowStart) ∧
    ∀ first, stored = some first → first.windowStart ≤ row.windowStart

theorem prior_eq_zero {stored : Option RateLimitRow} {windowStart : Nat}
    (other : ∀ row, stored = some row → row.windowStart ≠ windowStart) :
    prior stored windowStart = 0 := by
  unfold prior
  split
  · rename_i row
    exact if_neg (other row rfl)
  · rfl

variable {stored : Option RateLimitRow}

/-- A window that opens as `Unraced` says has counted nothing. -/
theorem Counted.fresh (counted : Counted policy stored w) {nowSeconds : Nat}
    (past : ∀ row, w.row = some row →
      row.windowStart + policy.windowSeconds ≤ nowSeconds ∧ row.windowStart < nowSeconds ∨
        nowSeconds = row.windowStart ∧ row.count = 0) :
    prior stored nowSeconds + w.allowed.count nowSeconds = 0 := by
  cases is : w.row with
  | none =>
    obtain ⟨none, first⟩ := counted.empty is
    simp [none, first, prior]
  | some row =>
    obtain ⟨allowed, first⟩ := counted.last row is
    rcases past row is with ⟨-, before⟩ | ⟨rfl, zero⟩
    · rw [prior_eq_zero fun row' is' same => ?_, List.count_eq_zero.mpr fun mem => ?_]
      · exact Nat.not_lt.mpr (allowed _ mem) before
      · exact Nat.not_lt.mpr (first row' is') (same ▸ before)
    · rw [counted.counted row is, zero]

theorem Counted.start (stored : Option RateLimitRow) : Counted policy stored (start stored) where
  empty := fun none => ⟨rfl, none⟩
  counted := fun row is => by
    have is : stored = some row := is
    simp [LimiterWorld.start, prior, is]
  within := fun _ => .inl rfl
  last := fun row is => ⟨fun _ mem => (List.not_mem_nil mem).elim, fun first is' => by
    obtain rfl := Option.some.inj (is'.symm.trans is)
    exact Nat.le_refl _⟩

/-- One more call in a window of which all is counted. -/
theorem Counted.write {w' : LimiterWorld} {windowStart used : Nat}
    (counted : Counted policy stored w)
    (all : prior stored windowStart + w.allowed.count windowStart = used)
    (last : (∀ other ∈ w.allowed, other ≤ windowStart) ∧
      ∀ first, stored = some first → first.windowStart ≤ windowStart)
    (row : w'.row = some ⟨windowStart, if used < policy.limit then used + 1 else used⟩)
    (allowed : w'.allowed = if used < policy.limit then windowStart :: w.allowed else w.allowed) :
    Counted policy stored w' := by
  by_cases room : used < policy.limit
  · rw [if_pos room] at row allowed
    refine ⟨fun none => (by cases row.symm.trans none), fun row' is => ?_, fun other => ?_,
      fun row' is => ?_⟩
    · obtain rfl := Option.some.inj (row.symm.trans is)
      rw [allowed, List.count_cons_self, ← Nat.add_assoc, all]
    · rw [allowed]
      by_cases same : other = windowStart
      · rw [same, List.count_cons_self, ← Nat.add_assoc, all]
        exact .inr room
      · rw [List.count_cons_of_ne (Ne.symm same)]
        exact counted.within other
    · obtain rfl := Option.some.inj (row.symm.trans is)
      rw [allowed]
      exact ⟨List.forall_mem_cons.mpr ⟨le_rfl, last.1⟩, last.2⟩
  · rw [if_neg room] at row allowed
    refine ⟨fun none => (by cases row.symm.trans none), fun row' is => ?_, fun other => ?_,
      fun row' is => ?_⟩
    · obtain rfl := Option.some.inj (row.symm.trans is)
      rw [allowed, all]
    · rw [allowed]
      exact counted.within other
    · obtain rfl := Option.some.inj (row.symm.trans is)
      rw [allowed]
      exact last

/-- What a write stores: a window opened, or one more call in the stored one. -/
theorem Locked.written (policy : RateLimitPolicy) (locked : w.Locked) {op : LimiterOp} {nowSeconds : Nat}
    {current : Option RateLimitRow} (writes : w.Writes op nowSeconds current) :
    (opensWindow policy nowSeconds current = true ∧
        (evaluateRateLimit policy nowSeconds current).allowed = decide (0 < policy.limit) ∧
        (evaluateRateLimit policy nowSeconds current).row =
          ⟨nowSeconds, if 0 < policy.limit then 0 + 1 else 0⟩) ∨
      ∃ row, w.row = some row ∧
        (evaluateRateLimit policy nowSeconds current).allowed = decide (row.count < policy.limit) ∧
        (evaluateRateLimit policy nowSeconds current).row =
          ⟨row.windowStart, if row.count < policy.limit then row.count + 1 else row.count⟩ := by
  cases opens : opensWindow policy nowSeconds current with
  | true => exact .inl ⟨rfl, evaluateRateLimit_opens opens⟩
  | false =>
    cases current with
    | none => cases opens
    | some row => exact .inr ⟨row, locked.current writes, evaluateRateLimit_counts opens⟩

theorem unraced_iff {op : LimiterOp} :
    w.Unraced policy op ↔ ∀ nowSeconds current row, w.Writes op nowSeconds current →
      w.row = some row → opensWindow policy nowSeconds current = true →
        row.windowStart + policy.windowSeconds ≤ nowSeconds ∧ row.windowStart < nowSeconds ∨
          nowSeconds = row.windowStart ∧ row.count = 0 := by
  constructor
  · rintro unraced nowSeconds current row ⟨runId, rfl, free, found⟩ is opens
    simp only [Unraced, found, is] at unraced
    exact unraced free opens
  · intro past
    cases op with
    | upsert runId =>
      simp only [Unraced]
      split
      · rename_i nowSeconds current row found is
        exact fun free => past nowSeconds current row ⟨runId, rfl, free, found⟩ is
      · trivial
    | _ => exact trivial

theorem Counted.step (counted : Counted policy stored w) (locked : w.Locked) {op : LimiterOp}
    (unraced : w.Unraced policy op) : Counted policy stored (w.step policy op) := by
  rcases step_cases policy w op with ⟨row, allowed⟩ | ⟨nowSeconds, current, writes, row, allowed⟩
  · exact ⟨by rw [row, allowed]; exact counted.empty, by rw [row, allowed]; exact counted.counted,
      by rw [allowed]; exact counted.within, by rw [row, allowed]; exact counted.last⟩
  · rcases locked.written policy writes with
      ⟨opens, answer, new⟩ | ⟨stored', is, answer, new⟩
    · have past := fun row is => unraced_iff.mp unraced _ _ row writes is opens
      refine counted.write (counted.fresh past) ?_ (new ▸ row) ?_
      · cases is : w.row with
        | none =>
          obtain ⟨none, first⟩ := counted.empty is
          exact ⟨by simp [none], by simp [first]⟩
        | some row =>
          obtain ⟨allowed, first⟩ := counted.last row is
          have le : row.windowStart ≤ nowSeconds := by
            rcases past row is with ⟨-, before⟩ | ⟨same, -⟩
            · exact before.le
            · exact same.ge
          exact ⟨fun other mem => (allowed other mem).trans le,
            fun row' is' => (first row' is').trans le⟩
      · simpa only [answer, new, decide_eq_true_eq] using allowed
    · refine counted.write (counted.counted stored' is) (counted.last stored' is) (new ▸ row) ?_
      simpa only [answer, new, decide_eq_true_eq] using allowed

theorem Locked.continues (locked : w.Locked) {op : LimiterOp} (unraced : w.Unraced policy op)
    {row next : RateLimitRow} (is : w.row = some row)
    (next_is : (w.step policy op).row = some next) : RateLimitRow.Continues policy row next := by
  rcases step_cases policy w op with ⟨same, -⟩ | ⟨nowSeconds, current, writes, stores, -⟩
  · obtain rfl := Option.some.inj ((is.symm.trans same.symm).trans next_is)
    exact .inl ⟨rfl, le_rfl⟩
  · obtain rfl := Option.some.inj (stores.symm.trans next_is)
    rcases locked.written policy writes with ⟨opens, -, new⟩ | ⟨row', is', -, new⟩
    · rw [new]
      rcases unraced_iff.mp unraced _ _ row writes is opens with past | ⟨same, none⟩
      · exact .inr past
      · refine .inl ⟨same, ?_⟩
        rw [none]
        exact Nat.zero_le _
    · obtain rfl := Option.some.inj (is.symm.trans is')
      rw [new]
      refine .inl ⟨rfl, ?_⟩
      dsimp only
      split
      · exact Nat.le_succ _
      · exact le_rfl

/-- A window opened over one that is not over breaks it off, or loses what it has counted. -/
theorem Counted.raced (counted : Counted policy stored w) {op : LimiterOp}
    (raced : ¬w.Unraced policy op) :
    ∃ row next, w.row = some row ∧ (w.step policy op).row = some next ∧
      (RateLimitRow.Continues policy row next →
        prior stored next.windowStart + (w.step policy op).allowed.count next.windowStart ≠
          next.count) := by
  simp only [unraced_iff, not_forall] at raced
  obtain ⟨nowSeconds, current, row, ⟨runId, rfl, free, found⟩, is, opens, apart⟩ := raced
  obtain ⟨answer, new⟩ := evaluateRateLimit_opens opens
  have next : (w.step policy (.upsert runId)).row =
      some ⟨nowSeconds, if 0 < policy.limit then 1 else 0⟩ := by
    simp only [LimiterWorld.step, found, free, if_true, new]
  have allowed : (w.step policy (.upsert runId)).allowed =
      if 0 < policy.limit then nowSeconds :: w.allowed else w.allowed := by
    simp only [LimiterWorld.step, found, free, if_true, new, answer, decide_eq_true_eq]
  refine ⟨row, _, is, next, fun continues lost => ?_⟩
  rcases continues with ⟨same, kept⟩ | past
  · have before := counted.counted row is
    have some' : row.count ≠ 0 := fun zero => apart (.inr ⟨same, zero⟩)
    dsimp only at same kept lost
    rw [allowed] at lost
    by_cases room : 0 < policy.limit
    · rw [if_pos room] at kept
      rw [if_pos room, if_pos room, same, List.count_cons_self] at lost
      omega
    · rw [if_neg room] at kept
      exact some' (Nat.le_zero.mp kept)
  · exact apart (.inl past)

theorem sound_run (counted : Counted policy stored w) (locked : w.Locked) {ops : List LimiterOp}
    (unraced : Along (step policy) (Unraced policy) w ops) :
    Counted policy stored (run (step policy) w ops) ∧ (run (step policy) w ops).Locked :=
  Along.invariant (I := fun w => Counted policy stored w ∧ w.Locked)
    (fun _ op held unraced => ⟨held.1.step held.2 unraced, held.2.step op⟩) ⟨counted, locked⟩ unraced

/-- Where each step of a run keeps the counts, no call of it is raced. -/
theorem unraced_of_kept (counted : Counted policy stored w) (locked : w.Locked)
    (ops : List LimiterOp)
    (counts : ∀ before rest, ops = before ++ rest → ∀ row,
      (run (step policy) w before).row = some row →
      prior stored row.windowStart +
        (run (step policy) w before).allowed.count row.windowStart = row.count)
    (continues : ∀ before op rest, ops = before ++ op :: rest → ∀ row next,
      (run (step policy) w before).row = some row →
      (run (step policy) w (before ++ [op])).row = some next →
      RateLimitRow.Continues policy row next) :
    Along (step policy) (Unraced policy) w ops := by
  induction ops generalizing w with
  | nil => exact trivial
  | cons op ops ih =>
    have unraced : w.Unraced policy op := by
      by_contra raced
      obtain ⟨row, next, is, next_is, lost⟩ := counted.raced raced
      exact lost (continues [] op ops rfl row next is next_is) (counts [op] ops rfl next next_is)
    exact ⟨unraced, ih (counted.step locked unraced) (locked.step op)
      (fun before rest is => counts (op :: before) rest (congrArg (op :: ·) is))
      fun before op' rest is => continues (op :: before) op' rest (congrArg (op :: ·) is)⟩

theorem locked_start (stored : Option RateLimitRow) : (start stored).Locked :=
  ⟨fun _ is => (by cases is), fun _ _ _ found => (by cases found)⟩

end LimiterWorld

/-! ### The limit -/

section Claim

variable (policy : RateLimitPolicy) (stored : Option RateLimitRow)

def limiterAfter (ops : List LimiterOp) : LimiterWorld :=
  run (LimiterWorld.step policy) (LimiterWorld.start stored) ops

/-- No window allows more calls than the limit, and none of their counts is lost. -/
structure LimitKept (ops : List LimiterOp) : Prop where
  within : ∀ before rest, ops = before ++ rest → ∀ windowStart,
    (limiterAfter policy stored before).allowed.count windowStart ≤ policy.limit
  counted : ∀ before rest, ops = before ++ rest → ∀ row,
    (limiterAfter policy stored before).row = some row →
    LimiterWorld.prior stored row.windowStart +
      (limiterAfter policy stored before).allowed.count row.windowStart = row.count
  continues : ∀ before op rest, ops = before ++ op :: rest → ∀ row next,
    (limiterAfter policy stored before).row = some row →
    (limiterAfter policy stored (before ++ [op])).row = some next → RateLimitRow.Continues policy row next

end Claim

variable {policy : RateLimitPolicy} {stored : Option RateLimitRow} {ops : List LimiterOp}

theorem limitKept_of_unraced (unraced : Along (LimiterWorld.step policy)
    (LimiterWorld.Unraced policy) (LimiterWorld.start stored) ops) :
    LimitKept policy stored ops := by
  have sound : ∀ before rest, ops = before ++ rest →
      LimiterWorld.Counted policy stored (limiterAfter policy stored before) ∧
        (limiterAfter policy stored before).Locked := fun before rest is =>
    LimiterWorld.sound_run (.start stored) (LimiterWorld.locked_start stored)
      (along_append.mp (is ▸ unraced)).1
  refine ⟨fun before rest is windowStart => ?_, fun before rest is => (sound before rest is).1.counted,
    fun before op rest is row next is' next_is => ?_⟩
  · rcases (sound before rest is).1.within windowStart with none | within
    · exact none ▸ Nat.zero_le _
    · exact (Nat.le_add_left _ _).trans within
  · subst is
    rw [limiterAfter, run_append] at next_is
    exact (sound before (op :: rest) rfl).2.continues (along_append.mp unraced).2.1 is' next_is

/-- The limit is kept along a run exactly if each call that opens a window over a stored one finds
that one over. -/
theorem rateLimit_kept (policy : RateLimitPolicy) (stored : Option RateLimitRow)
    (ops : List LimiterOp) :
    LimitKept policy stored ops ↔ Along (LimiterWorld.step policy) (LimiterWorld.Unraced policy)
      (LimiterWorld.start stored) ops :=
  ⟨fun kept => LimiterWorld.unraced_of_kept (.start stored) (LimiterWorld.locked_start stored) ops
    kept.counted kept.continues, limitKept_of_unraced⟩

/-- The first two calls of a key, neither of which finds a row. -/
def firstAtOnce : List LimiterOp := [.select 100, .select 100, .upsert 0, .upsert 1]

/-- Both are answered allowed, under a limit of one. -/
theorem first_calls_both_allowed : ¬LimitKept ⟨1, 60⟩ none firstAtOnce := by
  intro kept
  have both : (limiterAfter ⟨1, 60⟩ none firstAtOnce).allowed.count 100 = 2 := by decide +kernel
  have within := kept.within firstAtOnce [] rfl 100
  rw [both] at within
  exact absurd within (by decide)

/-! ### A key that has a row -/

/-- Every call under way has read a row. -/
def LimiterWorld.Established (w : LimiterWorld) : Prop :=
  w.row.isSome = true ∧ ∀ nowSeconds, .consuming nowSeconds none ∉ w.runs

theorem LimiterWorld.Established.step {w : LimiterWorld} (established : w.Established)
    (op : LimiterOp) : (w.step policy op).Established := by
  obtain ⟨stored, read⟩ := established
  have ended : ∀ runId nowSeconds, .consuming nowSeconds none ∉ w.runs.set runId .ended :=
    fun runId nowSeconds mem => by
      rcases List.mem_or_eq_of_mem_set mem with old | no
      · exact read nowSeconds old
      · cases no
  cases op with
  | select nowSeconds =>
    obtain ⟨row, is⟩ := Option.isSome_iff_exists.mp stored
    simp only [LimiterWorld.step, is]
    split
    · contradiction
    · refine ⟨rfl, fun now mem => ?_⟩
      rcases List.mem_append.mp mem with old | new
      · exact read now old
      · cases List.mem_singleton.mp new
    · exact ⟨stored, read⟩
  | upsert runId =>
    simp only [LimiterWorld.step]
    split
    · split
      · exact ⟨rfl, ended runId⟩
      · exact ⟨stored, read⟩
    · exact ⟨stored, read⟩
  | lose runId => exact ⟨stored, ended runId⟩

/-- A call that has read the row opens no window over one that is not over. -/
theorem LimiterWorld.Established.unraced {w : LimiterWorld} (established : w.Established)
    (locked : w.Locked) (positive : 0 < policy.windowSeconds) (op : LimiterOp) :
    w.Unraced policy op := by
  refine unraced_iff.mpr fun nowSeconds current row writes is opens => ?_
  cases current with
  | none =>
    obtain ⟨runId, -, -, found⟩ := writes
    exact (established.2 nowSeconds (List.mem_of_getElem? found)).elim
  | some row' =>
    obtain rfl := Option.some.inj (is.symm.trans (locked.current writes))
    have past : row.windowStart + policy.windowSeconds ≤ nowSeconds := of_decide_eq_true opens
    exact .inl ⟨past, by omega⟩

/-- Once a key has a row, its calls are limited whatever their order and their clocks. -/
theorem limitKept_of_stored (positive : 0 < policy.windowSeconds) (row : RateLimitRow)
    (ops : List LimiterOp) : LimitKept policy (some row) ops :=
  limitKept_of_unraced (along_of_invariant
    (I := fun w : LimiterWorld => w.Established ∧ w.Locked)
    (fun _ op held => ⟨held.1.step op, held.2.step op⟩)
    (fun _ op held => held.1.unraced held.2 positive op)
    ⟨⟨rfl, fun _ mem => (by cases mem)⟩, LimiterWorld.locked_start _⟩ ops)

end InrSettle
