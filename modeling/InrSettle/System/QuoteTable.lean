import InrSettle.System.Market

/-!
# The table of quotes

What every transaction keeps of the quotes: their prices, their consumers, and the
statuses they have left. The services only add to what is known of who consumed one.
-/

namespace InrSettle

open Transaction

/-- What a quote may be later: its price and its consumer are kept, and it does not become ACTIVE
or VOID. -/
structure QuoteRow.Later (old new : QuoteRow) : Prop where
  id : new.id = old.id
  price : new.price = old.price
  left : new.status = .active → old.status = .active
  unvoided : new.status = .void → old.status = .void
  consumer : ∀ settlementId, old.consumedBySettlementId = some settlementId →
    new.consumedBySettlementId = some settlementId

theorem QuoteRow.Later.refl (q : QuoteRow) : q.Later q :=
  ⟨rfl, rfl, fun is => is, fun is => is, fun _ is => is⟩

theorem QuoteRow.Later.trans {q₁ q₂ q₃ : QuoteRow} (first : q₁.Later q₂) (second : q₂.Later q₃) :
    q₁.Later q₃ where
  id := second.id.trans first.id
  price := second.price.trans first.price
  left := first.left ∘ second.left
  unvoided := first.unvoided ∘ second.unvoided
  consumer settlementId is := second.consumer settlementId (first.consumer settlementId is)

/-- No quote goes away. -/
def QuotesLater (qs qs' : List QuoteRow) : Prop := ∀ old ∈ qs, ∃ new ∈ qs', old.Later new

instance : Std.Refl QuotesLater := ⟨fun _ q mem => ⟨q, mem, .refl q⟩⟩

instance : IsTrans (List QuoteRow) QuotesLater where
  trans qs₁ qs₂ qs₃ first second q mem := by
    obtain ⟨q', mem', later⟩ := first q mem
    obtain ⟨q'', mem'', later'⟩ := second q' mem'
    exact ⟨q'', mem'', later.trans later'⟩

/-- What holds of the quotes in every state; `Consumer` is what is known of a settlement that
consumed one. -/
structure TableInOrder (Consumer : String → Prop) (past : List (List QuoteRow))
    (qs : List QuoteRow) : Prop where
  distinct : (qs.map (·.id)).Nodup
  indexed : Table.Unique (·.consumedBySettlementId) qs
  unvoided : ∀ q ∈ qs, q.status ≠ .void
  later : ∀ earlier ∈ past, QuotesLater earlier qs
  consumers : ∀ q ∈ qs, q.status = .consumed →
    ∃ settlementId, q.consumedBySettlementId = some settlementId ∧ Consumer settlementId

section Table

variable {Consumer : String → Prop} {past : List (List QuoteRow)} {qs qs' : List QuoteRow}

theorem TableInOrder.nil : TableInOrder Consumer [] [] where
  distinct := List.nodup_nil
  indexed := List.Pairwise.nil
  unvoided := by simp
  later := by simp
  consumers := by simp

theorem TableInOrder.mono {Consumer' : String → Prop} (held : TableInOrder Consumer past qs)
    (still : ∀ settlementId, Consumer settlementId → Consumer' settlementId) :
    TableInOrder Consumer' past qs where
  distinct := held.distinct
  indexed := held.indexed
  unvoided := held.unvoided
  later := held.later
  consumers q mem is :=
    (held.consumers q mem is).imp fun _ known => ⟨known.1, still _ known.2⟩

/-- A table whose rows are later ones of the earlier table. -/
theorem TableInOrder.next (held : TableInOrder Consumer past qs) (later : QuotesLater qs qs')
    (distinct : (qs'.map (·.id)).Nodup) (indexed : Table.Unique (·.consumedBySettlementId) qs')
    (unvoided : ∀ q ∈ qs', q.status ≠ .void)
    (consumers : ∀ q ∈ qs', q.status = .consumed → ∃ settlementId,
      q.consumedBySettlementId = some settlementId ∧ Consumer settlementId) :
    TableInOrder Consumer (qs :: past) qs' where
  distinct := distinct
  indexed := indexed
  unvoided := unvoided
  later := by
    refine List.forall_mem_cons.mpr ⟨later, fun earlier mem => ?_⟩
    exact trans_of QuotesLater (held.later earlier mem) later
  consumers := consumers

theorem TableInOrder.still (held : TableInOrder Consumer past qs) :
    TableInOrder Consumer (qs :: past) qs :=
  held.next (refl qs) held.distinct held.indexed held.unvoided held.consumers

theorem TableInOrder.created {quoteId : String} {price : QuotePrice} {r : PUnit}
    (held : TableInOrder Consumer past qs) (h : Commits (createQuote quoteId price) qs r qs') :
    TableInOrder Consumer (qs :: past) qs' := by
  simp only [createQuote, commits_get_bind, commits_require_bind, commits_modify] at h
  obtain ⟨fresh, -, rfl⟩ := h
  refine held.next (fun q mem => ⟨q, by simp [mem], .refl q⟩) ?_ ?_ ?_ ?_
  · rw [List.map_append, List.nodup_append]
    exact ⟨held.distinct, by simp, by simpa [List.mem_map] using fun q mem => fresh q mem⟩
  · exact held.indexed.append (by simp [Table.admits])
  · exact List.forall_mem_append.mpr ⟨held.unvoided, by simp⟩
  · exact List.forall_mem_append.mpr ⟨held.consumers, by simp⟩

theorem isDue_status {now : Instant} {q : QuoteRow} (due : isDue now q = true) :
    q.status = .active ∨ q.status = .locked := by
  simp only [isDue, Bool.and_eq_true, Bool.or_eq_true, beq_iff_eq] at due
  exact due.1

theorem TableInOrder.swept {now : Instant} {r : PUnit} (held : TableInOrder Consumer past qs)
    (h : Commits (expireDueQuotes now) qs r qs') : TableInOrder Consumer (qs :: past) qs' := by
  obtain rfl := commits_modify.mp h
  refine held.next (fun q mem => ?_) ?_ ?_ ?_ ?_
  · by_cases due : isDue now q = true
    · refine ⟨{ q with status := .expired }, Table.mem_setWhere.mpr (.inl ⟨q, mem, due, rfl⟩), ?_⟩
      exact ⟨rfl, rfl, nofun, nofun, fun _ is => is⟩
    · exact ⟨q, Table.mem_setWhere.mpr (.inr ⟨mem, by simpa using due⟩), .refl q⟩
  · rw [Table.map_setWhere]
    · exact held.distinct
    · exact fun _ _ _ => rfl
  · exact held.indexed.of_map_eq (Table.map_setWhere fun _ _ _ => rfl)
  · intro q mem
    rcases Table.mem_setWhere.mp mem with ⟨old, -, -, rfl⟩ | ⟨mem, -⟩
    · nofun
    · exact held.unvoided q mem
  · intro q mem is
    rcases Table.mem_setWhere.mp mem with ⟨old, -, -, rfl⟩ | ⟨mem, -⟩
    · cases is
    · exact held.consumers q mem is

theorem quoteMachine_target {trigger : QuoteTrigger} {status : QuoteStatus}
    {row : QuoteTransition} (evaluated : quoteMachine.evaluate (some status) trigger = some row) :
    row.target ≠ .active ∧ (row.target = .void → trigger = .void) ∧
      (row.target = .consumed → trigger = .consume) := by
  obtain ⟨mem, answers, source⟩ := Machine.evaluate_some evaluated
  have listed : ∀ row ∈ quoteMachine.rows, ∀ status ∈ row.source, row.target ≠ .active ∧
      (row.target = .void → row.trigger = .void) ∧
      (row.target = .consumed → row.trigger = .consume) := by
    decide
  have reads : row.trigger = trigger := answers
  exact reads ▸ listed row mem status source

/-- A transition asked for by one of the services; a consumption is by the settlement it names. -/
theorem TableInOrder.transitioned {args : QuoteArgs} {r : Except QuoteRefusal QuoteStatus}
    (held : TableInOrder Consumer past qs) (h : Commits (transitionQuote args) qs r qs')
    (keeps : args.trigger ≠ .void)
    (consumer : args.trigger = .consume → ∃ settlementId,
      args.consumedBySettlementId = some settlementId ∧ Consumer settlementId) :
    TableInOrder Consumer (qs :: past) qs' := by
  rcases transitionQuote_spec h with
    ⟨rfl, -⟩ | ⟨old, row, mem, -, evaluated, mayBecome, admitted, rfl⟩
  · exact held.still
  obtain ⟨left, voids, consumes⟩ := quoteMachine_target evaluated
  have status : (args.moved row.target old).status = row.target := rfl
  have later : old.Later (args.moved row.target old) := by
    refine ⟨rfl, rfl, fun is => (left is).elim, fun is => (keeps (voids is)).elim, ?_⟩
    intro settlementId is
    -- The trigger keeps a consumer that is there.
    simp only [quoteMayBecome, is, Bool.and_eq_true, Bool.or_eq_true, Option.isNone_some,
      Bool.false_eq_true, false_or, beq_iff_eq] at mayBecome
    exact mayBecome.2
  have found : ∀ q ∈ qs, q.id = old.id → q = old := fun q is same =>
    Table.eq_of_key held.distinct is mem same
  refine held.next (fun q is => ?_) ?_ (held.indexed.setWhere held.distinct admitted) ?_ ?_
  · by_cases same : q.id = old.id
    · obtain rfl := found q is same
      exact ⟨_, Table.mem_setWhere.mpr (.inl ⟨q, is, by simp, rfl⟩), later⟩
    · exact ⟨q, Table.mem_setWhere.mpr (.inr ⟨is, by simpa using same⟩), .refl q⟩
  · rw [Table.map_setWhere]
    · exact held.distinct
    · exact fun q _ same => (of_decide_eq_true same).symm
  · intro q is
    rcases Table.mem_setWhere.mp is with ⟨-, -, -, rfl⟩ | ⟨is, -⟩
    · exact fun is => keeps (voids is)
    · exact held.unvoided q is
  · intro q is consumed
    rcases Table.mem_setWhere.mp is with ⟨-, -, -, rfl⟩ | ⟨is, -⟩
    · obtain ⟨settlementId, names, known⟩ := consumer (consumes consumed)
      refine ⟨settlementId, ?_, known⟩
      have target : row.target = .consumed := consumed
      simp [QuoteArgs.moved, target, names]
    · exact held.consumers q is consumed

/-- A quote whose lock was asked for is not ACTIVE, whether or not the lock was refused. -/
theorem locked_left {args : QuoteArgs} {r : Except QuoteRefusal QuoteStatus}
    (distinct : (qs.map (·.id)).Nodup) (h : Commits (transitionQuote args) qs r qs')
    (trigger : args.trigger = .lock) : ∀ q ∈ qs', q.id = args.quoteId → q.status ≠ .active := by
  intro q mem asked active
  rcases transitionQuote_spec h with ⟨rfl, refused⟩ | ⟨old, row, -, same, evaluated, -, -, rfl⟩
  · cases found : qs'.find? fun q => decide (q.id = args.quoteId) with
    | none => simpa [asked] using List.find?_eq_none.mp found q mem
    | some first =>
      have key : first.id = args.quoteId := by simpa using List.find?_some found
      have is : first = q := Table.eq_of_key distinct (List.mem_of_find?_eq_some found) mem
        (key.trans asked.symm)
      subst is
      have target := refused first found ⟨.q02, [.active], .lock, .locked⟩ (by
        rw [active, trigger]
        rfl)
      cases target
  · rcases Table.mem_setWhere.mp mem with ⟨-, -, -, rfl⟩ | ⟨-, other⟩
    · exact (quoteMachine_target evaluated).1 active
    · simp [asked, same] at other

end Table

end InrSettle
