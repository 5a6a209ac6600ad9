import InrSettle.Domain.MappingTable
import InrSettle.Library.JsWhole
import Mathlib

/-!
# Files of mapping tables

What a table's file has to be, independent of how it is read. What an entry says is converted or
dropped before it is checked, so that the checks may find nothing wrong with an entry that is, and
an entry that cannot be converted stops the loader.
-/

namespace InrSettle.Mapping

open Js

variable {N : Type}

/-! ### What a file has to be -/

/-- A member that may be left out, or be `null`. -/
inductive Optionally : Value N → Option Text → Prop where
  | absent : Optionally .undefined none
  | null : Optionally .null none
  | given (text : Text) : Optionally (.string text) (some text)

/-- An entry as it has to be written. -/
structure EntryWritten (raw : Value N) (entry : Entry N) : Prop where
  record : ∃ members, raw = .object members ∧
    member members "provider_code" = .string entry.providerCode ∧
    member members "outcome" = entry.outcome ∧
    member members "note" = .string entry.note ∧
    Optionally (member members "exception_code")
      (entry.exceptionCode.map fun code => ofString code.wire) ∧
    Optionally (member members "return_reason")
      (entry.returnReason.map fun reason => ofString (returnReasonWire reason))
  named : entry.providerCode ≠ []
  outcome : ∃ outcome : ProviderOutcome, entry.outcome = .string (ofString outcome.wire)
  rejection : entry.hasOutcome .rejected = true → entry.exceptionCode ≠ none
  reason : entry.returnReason ≠ none → entry.hasOutcome .returned = true
  noted : 10 ≤ (Js.trim entry.note).length

/-- A table as it has to be written. -/
structure Written (raw : Value N) (table : Table N) : Prop where
  record : ∃ members, raw = .object members ∧
    member members "version" = .string table.version ∧
    member members "provider_id" = .string table.providerId ∧
    member members "source" = .string (ofString table.source.wire) ∧
    (∃ description, member members "description" = .string description ∧
      20 ≤ (Js.trim description).length) ∧
    ∃ items, member members "codes" = .array items ∧ List.Forall₂ EntryWritten items table.codes
  version : Js.trim table.version ≠ []
  providerId : Js.trim table.providerId ≠ []
  once : (table.codes.map (·.providerCode)).Nodup

/-! ### The closed sets -/

theorem wire_of_found {α : Type} {wire : α → String} {all : List α} {name : Text} {a : α}
    (found : all.find? (fun a => decide (ofString (wire a) = name)) = some a) :
    name = ofString (wire a) :=
  (of_decide_eq_true (List.find?_some found :)).symm

theorem exceptionCodeOf_eq_some {name : Text} {code : ExceptionCode} :
    exceptionCodeOf name = some code ↔ name = ofString code.wire := by
  refine ⟨wire_of_found, ?_⟩
  rintro rfl
  cases code <;> decide

theorem returnReasonOf_eq_some {name : Text} {reason : ReturnReasonCode} :
    returnReasonOf name = some reason ↔ name = ofString (returnReasonWire reason) := by
  refine ⟨wire_of_found, ?_⟩
  rintro rfl
  cases reason <;> decide

theorem sourceOf_eq_some {name : Text} {source : Source} :
    sourceOf name = some source ↔ name = ofString source.wire := by
  refine ⟨wire_of_found, ?_⟩
  rintro rfl
  cases source <;> decide

theorem textOf_eq_some {value : Value N} {text : Text} :
    textOf value = some text ↔ value = .string text := by
  cases value <;> simp [textOf]

/-! ### The header -/

theorem statesText_iff {value : Value N} :
    statesText value = true ↔ ∃ text, value = .string text ∧ Js.trim text ≠ [] := by
  cases value <;> simp [statesText, textOf]

/-- What the loader requires of a table apart from its entries. -/
structure HeaderRead (members : List (Text × Value N)) (providerId version : Text)
    (source : Source) (items : List (Value N)) : Prop where
  isVersion : member members "version" = .string version
  versionStated : Js.trim version ≠ []
  isProvider : member members "provider_id" = .string providerId
  providerStated : Js.trim providerId ≠ []
  isSource : member members "source" = .string (ofString source.wire)
  description : ∃ description, member members "description" = .string description ∧
    20 ≤ (Js.trim description).length
  codes : member members "codes" = .array items

theorem headerProblems_eq_nil {members : List (Text × Value N)} :
    headerProblems members = [] ↔
      ∃ providerId version source items, HeaderRead members providerId version source items := by
  have holds : ∀ {p : Prop} [Decidable p] {problem : Text},
      (if p then [] else [problem]) = ([] : List Text) ↔ p := by
    intro p _ problem
    split <;> simp [*]
  simp only [headerProblems, List.append_eq_nil_iff, holds, statesText_iff]
  constructor
  · rintro ⟨⟨⟨⟨⟨version, isVersion, stated⟩, providerId, isProvider, provided⟩, named⟩,
      described⟩, listed⟩
    cases source : member members "source" with
    | string name =>
      simp only [source, textOf, Option.any_some, Option.isSome_iff_exists] at named
      obtain ⟨known, is⟩ := named
      cases description : member members "description" with
      | string text =>
        simp only [description, textOf, Option.any_some, decide_eq_true_eq] at described
        cases codes : member members "codes" with
        | array items =>
          exact ⟨providerId, version, known, items, isVersion, stated, isProvider, provided,
            sourceOf_eq_some.mp is ▸ source, ⟨text, description, described⟩, codes⟩
        | _ => simp [codes] at listed
      | _ => simp [description, textOf] at described
    | _ => simp [source, textOf] at named
  · rintro ⟨providerId, version, source, items, read⟩
    obtain ⟨description, isDescription, long⟩ := read.description
    have known := sourceOf_eq_some.mpr (rfl : ofString source.wire = ofString source.wire)
    refine ⟨⟨⟨⟨⟨version, read.isVersion, read.versionStated⟩, providerId, read.isProvider,
      read.providerStated⟩, ?_⟩, ?_⟩, ?_⟩
    · simp [read.isSource, textOf, known]
    · simp [isDescription, textOf, long]
    · simp [read.codes]

section Entries

variable [Js.NumberFormat N]

/-! ### Reading an entry -/

def isNullish : Value N → Bool
  | .undefined | .null => true
  | .bool _ | .number _ | .bigint _ | .string _ | .array _ | .object _ => false

/-- The member of this name, of whatever stands in the list. -/
def field (raw : Value N) (name : String) : Value N := member (membersOf raw) name

def codeGiven (raw : Value N) : Option ExceptionCode :=
  (textOf (field raw "exception_code")).bind exceptionCodeOf

def reasonGiven (raw : Value N) : Option ReturnReasonCode :=
  (textOf (field raw "return_reason")).bind returnReasonOf

/-- What an entry is read as. -/
structure EntryRead (raw : Value N) (entry : Entry N) : Prop where
  present : isNullish raw = false
  providerCode : stringOrEmpty (field raw "provider_code") = some entry.providerCode
  outcome : entry.outcome = field raw "outcome"
  note : stringOrEmpty (field raw "note") = some entry.note
  exceptionCode : entry.exceptionCode = codeGiven raw
  returnReason : entry.returnReason = reasonGiven raw

omit [Js.NumberFormat N] in
theorem property_eq {raw : Value N} (present : isNullish raw = false) (name : String) :
    property raw name = some (field raw name) := by
  cases raw <;> first | rfl | cases present

theorem parseEntry_eq_some {raw : Value N} {entry : Entry N} :
    parseEntry raw = some entry ↔ EntryRead raw entry := by
  by_cases nullish : isNullish raw = true
  · have none_ : parseEntry raw = none := by cases raw <;> first | rfl | cases nullish
    rw [none_]
    exact ⟨fun is => (nomatch is), fun read => by simp [read.present] at nullish⟩
  · have present : isNullish raw = false := by simpa using nullish
    simp only [parseEntry, property_eq present, Option.bind_eq_bind, Option.bind_some,
      Option.bind_eq_some_iff, Option.pure_def, Option.some.injEq]
    constructor
    · rintro ⟨providerCode, isCode, note, isNote, rfl⟩
      exact ⟨present, isCode, rfl, isNote, rfl, rfl⟩
    · rintro ⟨-, isCode, isOutcome, isNote, isException, isReason⟩
      refine ⟨entry.providerCode, isCode, entry.note, isNote, ?_⟩
      rw [← isOutcome, ← codeGiven, ← reasonGiven, ← isException, ← isReason]

theorem parseEntries_eq_some {items : List (Value N)} {entries : List (Entry N)} :
    parseEntries items = some entries ↔ List.Forall₂ EntryRead items entries := by
  induction items generalizing entries with
  | nil => simp [parseEntries, eq_comm]
  | cons raw rest ih =>
    simp only [parseEntries, Option.bind_eq_bind, Option.bind_eq_some_iff, Option.pure_def,
      Option.some.injEq]
    constructor
    · rintro ⟨entry, first, others, after, rfl⟩
      exact .cons (parseEntry_eq_some.mp first) (ih.mp after)
    · intro each
      cases each with
      | cons read others => exact ⟨_, parseEntry_eq_some.mpr read, _, ih.mpr others, rfl⟩

/-! ### Checking entries -/

/-- The check finds nothing wrong with the entry by itself. -/
structure Sound (entry : Entry N) : Prop where
  rejection : entry.hasOutcome .rejected = true → entry.exceptionCode ≠ none
  reason : entry.returnReason ≠ none → entry.hasOutcome .returned = true
  noted : 10 ≤ (Js.trim entry.note).length

/-- Its outcome can be written into a message, should the check have to. -/
def Mentionable (entry : Entry N) : Prop :=
  entry.returnReason ≠ none → entry.hasOutcome .returned = false →
    (stringOf entry.outcome).isSome = true

theorem inspectEntry_isSome (seen : List Text) {entry : Entry N} :
    (inspectEntry seen entry).isSome = true ↔ Mentionable entry := by
  rw [inspectEntry, Option.isSome_map, inspectReason, Mentionable]
  split
  · rename_i misplaced
    rw [Option.isSome_map]
    exact ⟨fun is _ _ => is, fun is => is misplaced.1 (Bool.eq_false_iff.mpr misplaced.2)⟩
  · rename_i placed
    exact ⟨fun _ given other => (placed ⟨given, Bool.eq_false_iff.mp other⟩).elim, fun _ => rfl⟩

theorem inspectReason_eq_nil {entry : Entry N} : inspectReason entry = some [] ↔
    (entry.returnReason ≠ none → entry.hasOutcome .returned = true) := by
  unfold inspectReason
  split
  · rename_i misplaced
    simp only [Option.map_eq_some_iff, List.cons_ne_nil, and_false, exists_false, false_iff]
    exact fun placed => misplaced.2 (placed misplaced.1)
  · rename_i placed
    exact ⟨fun _ given => by_contra fun other => placed ⟨given, other⟩, fun _ => rfl⟩

theorem inspectEntry_eq_nil {seen : List Text} {entry : Entry N} :
    inspectEntry seen entry = some [] ↔ Sound entry ∧ entry.providerCode ∉ seen := by
  have omitted : ∀ {p : Prop} [Decidable p] {problem : Text},
      (if p then [problem] else []) = ([] : List Text) ↔ ¬ p := by
    intro p _ problem
    split <;> simp [*]
  simp only [inspectEntry, Option.map_eq_some_iff, List.append_eq_nil_iff, omitted, Nat.not_lt]
  constructor
  · rintro ⟨problems, reason, ⟨⟨once, rejection⟩, rfl⟩, noted⟩
    exact ⟨⟨fun is absent => rejection ⟨is, absent⟩, inspectReason_eq_nil.mp reason, noted⟩, once⟩
  · rintro ⟨sound, once⟩
    exact ⟨[], inspectReason_eq_nil.mpr sound.reason,
      ⟨⟨once, fun is => sound.rejection is.1 is.2⟩, rfl⟩, sound.noted⟩

theorem inspectFrom_isSome (seen : List Text) {entries : List (Entry N)} :
    (inspectFrom seen entries).isSome = true ↔ ∀ entry ∈ entries, Mentionable entry := by
  induction entries generalizing seen with
  | nil => simp [inspectFrom]
  | cons entry rest ih =>
    rw [List.forall_mem_cons, ← inspectEntry_isSome seen,
      ← ih (entry.providerCode :: seen), inspectFrom]
    cases inspectEntry seen entry <;>
      cases inspectFrom (entry.providerCode :: seen) rest <;> simp

theorem inspectFrom_eq_nil {seen : List Text} {entries : List (Entry N)} :
    inspectFrom seen entries = some [] ↔ (∀ entry ∈ entries, Sound entry) ∧
      (entries.map (·.providerCode)).Nodup ∧ ∀ entry ∈ entries, entry.providerCode ∉ seen := by
  induction entries generalizing seen with
  | nil => simp [inspectFrom]
  | cons entry rest ih =>
    have both : inspectFrom seen (entry :: rest) = some [] ↔
        inspectEntry seen entry = some [] ∧
          inspectFrom (entry.providerCode :: seen) rest = some [] := by
      simp only [inspectFrom, Option.bind_eq_bind, Option.bind_eq_some_iff, Option.pure_def,
        Option.some.injEq, List.append_eq_nil_iff]
      constructor
      · rintro ⟨problems, first, others, after, rfl, rfl⟩
        exact ⟨first, after⟩
      · rintro ⟨first, after⟩
        exact ⟨[], first, [], after, rfl, rfl⟩
    rw [both, inspectEntry_eq_nil, ih, List.forall_mem_cons, List.forall_mem_cons, List.map_cons,
      List.nodup_cons]
    constructor
    · rintro ⟨⟨sound, fresh⟩, others, distinct, apart⟩
      refine ⟨⟨sound, others⟩, ⟨fun mem => ?_, distinct⟩, fresh, fun other mem seen =>
        apart other mem (List.mem_cons_of_mem _ seen)⟩
      obtain ⟨other, mem, same⟩ := List.mem_map.mp mem
      exact apart other mem (same ▸ List.mem_cons_self)
    · rintro ⟨⟨sound, others⟩, ⟨once, distinct⟩, fresh, apart⟩
      refine ⟨⟨sound, fresh⟩, others, distinct, fun other mem twice => ?_⟩
      rcases List.mem_cons.mp twice with same | seen
      · exact once (List.mem_map.mpr ⟨other, mem, same⟩)
      · exact apart other mem seen

/-! ### What the check notices, and what it does not -/

omit [Js.NumberFormat N] in
theorem hasOutcome_iff {entry : Entry N} {outcome : ProviderOutcome} :
    entry.hasOutcome outcome = true ↔ entry.outcome = .string (ofString outcome.wire) := by
  unfold Entry.hasOutcome
  cases entry.outcome <;> simp

/-- An entry can be read, and a message can mention its outcome. -/
structure Convertible (raw : Value N) : Prop where
  present : isNullish raw = false
  providerCode : (stringOrEmpty (field raw "provider_code")).isSome = true
  note : (stringOrEmpty (field raw "note")).isSome = true
  outcome : reasonGiven raw ≠ none →
    field raw "outcome" ≠ .string (ofString ProviderOutcome.returned.wire) →
    (stringOf (field raw "outcome")).isSome = true

/-- An entry whose members are texts, and in the sets they have to be in: nothing is converted and
nothing dropped. -/
structure SaidAsRead (raw : Value N) : Prop where
  providerCode : ∃ text, field raw "provider_code" = .string text ∧ text ≠ []
  outcome : ∃ outcome : ProviderOutcome, field raw "outcome" = .string (ofString outcome.wire)
  note : ∃ text, field raw "note" = .string text
  exceptionCode : ∃ code : Option ExceptionCode,
    Optionally (field raw "exception_code") (code.map fun code => ofString code.wire)
  returnReason : ∃ reason : Option ReturnReasonCode,
    Optionally (field raw "return_reason") (reason.map fun reason => ofString (returnReasonWire reason))

/-- The check names a problem of the entry. -/
inductive Noticed (raw : Value N) : Prop where
  | rejection : field raw "outcome" = .string (ofString ProviderOutcome.rejected.wire) →
    codeGiven raw = none → Noticed raw
  | reason : reasonGiven raw ≠ none →
    field raw "outcome" ≠ .string (ofString ProviderOutcome.returned.wire) → Noticed raw
  | note (text : Text) : stringOrEmpty (field raw "note") = some text →
    (Js.trim text).length < 10 → Noticed raw

/-- Two of the entries have one provider code. -/
def Repeated (items : List (Value N)) : Prop :=
  ¬ (items.map fun raw => stringOrEmpty (field raw "provider_code")).Nodup

/-- No entry stops the loader, and a problem of one of them is named or there is none. -/
def Careful (items : List (Value N)) : Prop :=
  (∀ raw ∈ items, Convertible raw) ∧
    ((∃ raw ∈ items, Noticed raw) ∨ Repeated items ∨ ∀ raw ∈ items, SaidAsRead raw)

theorem sound_iff {raw : Value N} {entry : Entry N} (read : EntryRead raw entry) :
    Sound entry ↔ ¬ Noticed raw := by
  constructor
  · intro sound noticed
    cases noticed with
    | rejection is absent =>
      exact sound.rejection (hasOutcome_iff.mpr (read.outcome.trans is))
        (read.exceptionCode.trans absent)
    | reason given other =>
      rw [← read.returnReason] at given
      exact other (read.outcome.symm.trans (hasOutcome_iff.mp (sound.reason given)))
    | note text is short =>
      cases read.note.symm.trans is
      exact absurd sound.noted (Nat.not_le.mpr short)
  · intro unnoticed
    refine ⟨fun is absent => ?_, fun given => ?_, ?_⟩
    · exact unnoticed (.rejection (read.outcome.symm.trans (hasOutcome_iff.mp is))
        (read.exceptionCode.symm.trans absent))
    · by_contra other
      refine unnoticed (.reason (read.returnReason ▸ given) fun is => other ?_)
      exact hasOutcome_iff.mpr (read.outcome.trans is)
    · by_contra short
      exact unnoticed (.note entry.note read.note (Nat.lt_of_not_le short))

theorem convertible_iff {raw : Value N} :
    Convertible raw ↔ ∃ entry, EntryRead raw entry ∧ Mentionable entry := by
  constructor
  · intro convertible
    obtain ⟨providerCode, isCode⟩ := Option.isSome_iff_exists.mp convertible.providerCode
    obtain ⟨note, isNote⟩ := Option.isSome_iff_exists.mp convertible.note
    refine ⟨⟨providerCode, field raw "outcome", note, codeGiven raw, reasonGiven raw⟩,
      ⟨convertible.present, isCode, rfl, isNote, rfl, rfl⟩, fun given other => ?_⟩
    refine convertible.outcome given fun is => ?_
    rw [hasOutcome_iff.mpr is] at other
    cases other
  · rintro ⟨entry, read, mentionable⟩
    refine ⟨read.present, by simp [read.providerCode], by simp [read.note], fun given other => ?_⟩
    rw [← read.outcome] at other ⊢
    exact mentionable (read.returnReason ▸ given) (Bool.eq_false_iff.mpr fun is =>
      other (hasOutcome_iff.mp is))

omit [Js.NumberFormat N] in
theorem optionally_code {value : Value N} {code : Option ExceptionCode}
    (is : Optionally value (code.map fun code => ofString code.wire)) :
    (textOf value).bind exceptionCodeOf = code := by
  cases code with
  | none => cases is <;> rfl
  | some code =>
    cases is
    exact exceptionCodeOf_eq_some.mpr rfl

omit [Js.NumberFormat N] in
theorem optionally_reason {value : Value N} {reason : Option ReturnReasonCode}
    (is : Optionally value (reason.map fun reason => ofString (returnReasonWire reason))) :
    (textOf value).bind returnReasonOf = reason := by
  cases reason with
  | none => cases is <;> rfl
  | some reason =>
    cases is
    exact returnReasonOf_eq_some.mpr rfl

/-- An entry is as it has to be if it is read, nothing wrong with it is noticed and nothing wrong
with it goes unnoticed. -/
theorem entryWritten_iff {raw : Value N} {entry : Entry N} :
    EntryWritten raw entry ↔ EntryRead raw entry ∧ Sound entry ∧ SaidAsRead raw := by
  constructor
  · intro written
    obtain ⟨members, rfl, isCode, isOutcome, isNote, isException, isReason⟩ := written.record
    obtain ⟨outcome, isKnown⟩ := written.outcome
    refine ⟨⟨rfl, ?_, isOutcome.symm, ?_, (optionally_code isException).symm,
      (optionally_reason isReason).symm⟩, ⟨written.rejection, written.reason, written.noted⟩,
      ⟨⟨_, isCode, written.named⟩, ⟨outcome, isOutcome.trans isKnown⟩, ⟨_, isNote⟩,
        ⟨_, isException⟩, ⟨_, isReason⟩⟩⟩
    · rw [show field (.object members) "provider_code" = _ from isCode]
      rfl
    · rw [show field (.object members) "note" = _ from isNote]
      rfl
  · rintro ⟨read, sound, said⟩
    obtain ⟨providerCode, isCode, named⟩ := said.providerCode
    obtain ⟨outcome, isOutcome⟩ := said.outcome
    obtain ⟨note, isNote⟩ := said.note
    obtain ⟨code, isException⟩ := said.exceptionCode
    obtain ⟨reason, isReason⟩ := said.returnReason
    have codes := read.providerCode
    rw [isCode] at codes
    cases codes
    have notes := read.note
    rw [isNote] at notes
    cases notes
    have exceptions := read.exceptionCode.trans (optionally_code isException)
    have reasons := read.returnReason.trans (optionally_reason isReason)
    cases raw with
    | object members =>
      exact ⟨⟨members, rfl, isCode, read.outcome.symm, isNote, exceptions ▸ isException,
        reasons ▸ isReason⟩, named, ⟨outcome, read.outcome.trans isOutcome⟩, sound.rejection,
        sound.reason, sound.noted⟩
    | _ => cases isNote

/-! ### The loader -/

theorem forall₂_written_iff {items : List (Value N)} {entries : List (Entry N)} :
    List.Forall₂ EntryWritten items entries ↔ List.Forall₂ EntryRead items entries ∧
      (∀ entry ∈ entries, Sound entry) ∧ ∀ raw ∈ items, SaidAsRead raw := by
  induction items generalizing entries with
  | nil => simp +contextual
  | cons raw rest ih =>
    cases entries with
    | nil => simp
    | cons entry others =>
      simp only [List.forall₂_cons, entryWritten_iff, ih, List.forall_mem_cons]
      tauto

/-- What the loader makes of a value with a good header. -/
theorem parse_of_header {raw : Value N} {file providerId version : Text} {source : Source}
    {items : List (Value N)} (read : HeaderRead (membersOf raw) providerId version source items) :
    parseMappingTable raw file = (parseEntries items).bind fun codes =>
      (inspectFrom [] codes).map fun problems =>
        if problems ≠ [] then .error ⟨file, problems⟩
        else .ok ⟨providerId, version, source, codes⟩ := by
  have good := headerProblems_eq_nil.mpr ⟨_, _, _, _, read⟩
  have known := sourceOf_eq_some.mpr (rfl : ofString source.wire = ofString source.wire)
  simp only [parseMappingTable, good, read.isVersion, read.isProvider, read.isSource, read.codes,
    textOf, Option.bind_some, known, validateMappingTable, if_neg read.versionStated,
    List.nil_append, Option.bind_eq_bind]
  cases parseEntries items with
  | none => rfl
  | some codes =>
    simp only [Option.bind_some]
    cases inspectFrom [] codes with
    | none => rfl
    | some problems => by_cases some_ : problems = [] <;> simp [some_]

/-- What the loader makes of a value whose header is not good. -/
theorem parse_of_problems (file : Text) {raw : Value N}
    (problems : headerProblems (membersOf raw) ≠ []) :
    parseMappingTable raw file = some (.error ⟨file, headerProblems (membersOf raw)⟩) := by
  unfold parseMappingTable
  dsimp only
  split
  · exact absurd ‹_› problems
  · rfl

omit [Js.NumberFormat N] in
theorem header_of_written {raw : Value N} {table : Table N} (written : Written raw table) :
    ∃ items, HeaderRead (membersOf raw) table.providerId table.version table.source items ∧
      List.Forall₂ EntryWritten items table.codes := by
  obtain ⟨members, rfl, isVersion, isProvider, isSource, description, items, codes, each⟩ :=
    written.record
  exact ⟨items, ⟨isVersion, written.version, isProvider, written.providerId, isSource, description,
    codes⟩, each⟩

omit [Js.NumberFormat N] in
theorem header_unique {members : List (Text × Value N)} {p v p' v' : Text} {s s' : Source}
    {items items' : List (Value N)} (first : HeaderRead members p v s items)
    (second : HeaderRead members p' v' s' items') : p' = p ∧ v' = v ∧ s' = s ∧ items' = items := by
  have version := first.isVersion.symm.trans second.isVersion
  have provider := first.isProvider.symm.trans second.isProvider
  have source := first.isSource.symm.trans second.isSource
  have codes := first.codes.symm.trans second.codes
  simp only [Value.string.injEq, Value.array.injEq] at version provider source codes
  have same := (sourceOf_eq_some.mpr source).symm.trans (sourceOf_eq_some.mpr rfl)
  exact ⟨provider.symm, version.symm, Option.some.inj same, codes.symm⟩

theorem written_iff {raw : Value N} {providerId version : Text} {source : Source}
    {items : List (Value N)} (read : HeaderRead (membersOf raw) providerId version source items)
    {table : Table N} :
    Written raw table ↔ (∃ codes, table = ⟨providerId, version, source, codes⟩ ∧
      parseEntries items = some codes ∧ inspectFrom [] codes = some []) ∧
        ∀ raw ∈ items, SaidAsRead raw := by
  constructor
  · intro written
    obtain ⟨items', read', each⟩ := header_of_written written
    obtain ⟨isProvider, isVersion, isSource, rfl⟩ := header_unique read read'
    obtain ⟨reads, sound, said⟩ := forall₂_written_iff.mp each
    refine ⟨⟨table.codes, by rw [← isProvider, ← isVersion, ← isSource],
      parseEntries_eq_some.mpr reads, inspectFrom_eq_nil.mpr ⟨sound, written.once, ?_⟩⟩, said⟩
    exact fun _ _ => List.not_mem_nil
  · rintro ⟨⟨codes, rfl, reads, none_⟩, said⟩
    obtain ⟨sound, once, -⟩ := inspectFrom_eq_nil.mp none_
    have each := forall₂_written_iff.mpr ⟨parseEntries_eq_some.mp reads, sound, said⟩
    cases raw with
    | object members =>
      exact ⟨⟨members, rfl, read.isVersion, read.isProvider, read.isSource, read.description, items,
        read.codes, each⟩, read.versionStated, read.providerStated, once⟩
    | _ => exact nomatch read.codes

/-- No entry stops the loader. -/
theorem forall_convertible_iff {items : List (Value N)} :
    (∀ raw ∈ items, Convertible raw) ↔
      ∃ codes problems, parseEntries items = some codes ∧ inspectFrom [] codes = some problems := by
  have inspected : ∀ codes : List (Entry N), (∃ problems, inspectFrom [] codes = some problems) ↔
      ∀ entry ∈ codes, Mentionable entry := fun codes => by
    rw [← inspectFrom_isSome [], Option.isSome_iff_exists]
  simp only [exists_and_left, inspected, parseEntries_eq_some, convertible_iff]
  induction items with
  | nil => simp
  | cons raw rest ih =>
    rw [List.forall_mem_cons]
    constructor
    · rintro ⟨⟨entry, read, mentionable⟩, rest⟩
      obtain ⟨codes, reads, others⟩ := ih.mp rest
      exact ⟨entry :: codes, .cons read reads, List.forall_mem_cons.mpr ⟨mentionable, others⟩⟩
    · rintro ⟨codes, reads, mentionable⟩
      cases reads with
      | cons read reads =>
        obtain ⟨first, others⟩ := List.forall_mem_cons.mp mentionable
        exact ⟨⟨_, read, first⟩, ih.mpr ⟨_, reads, others⟩⟩

/-- The check names a problem exactly if one is noticed or a code repeated. -/
theorem inspectFrom_eq_nil_iff {items : List (Value N)} {codes : List (Entry N)}
    (reads : List.Forall₂ EntryRead items codes) :
    inspectFrom [] codes = some [] ↔ ¬ ((∃ raw ∈ items, Noticed raw) ∨ Repeated items) := by
  have texts : items.map (fun raw => stringOrEmpty (field raw "provider_code")) =
      (codes.map (·.providerCode)).map some := by
    induction reads with
    | nil => rfl
    | cons read _ ih => rw [List.map_cons, List.map_cons, List.map_cons, ih, read.providerCode]
  have sound : (∀ entry ∈ codes, Sound entry) ↔ ∀ raw ∈ items, ¬ Noticed raw := by
    clear texts
    induction reads with
    | nil => simp
    | cons read _ ih => rw [List.forall_mem_cons, List.forall_mem_cons, ih, sound_iff read]
  rw [inspectFrom_eq_nil, sound, Repeated, texts,
    List.nodup_map_iff (Option.some_injective Text)]
  simp only [List.not_mem_nil, not_false_iff, implies_true, and_true, not_or, not_exists, not_and,
    not_not]

/-- The loader answers with the table that is written, or names a problem where none is. -/
structure AsPromised (raw : Value N) (file : Text) : Prop where
  accepts : ∀ table, parseMappingTable raw file = some (.ok table) ↔ Written raw table
  refuses : (¬ ∃ table, Written raw table) → ∃ problem problems,
    parseMappingTable raw file = some (.error ⟨file, problem :: problems⟩)

end Entries

section Promise

variable [Js.NumberFormat N] {raw : Value N} {file providerId version : Text} {source : Source}
  {items : List (Value N)} {codes : List (Entry N)} {problems : List Text}

/-- A loader that keeps its promise is not stopped by an entry. -/
theorem inspected_of_promised (promised : AsPromised raw file)
    (read : HeaderRead (membersOf raw) providerId version source items) :
    ∃ codes problems, parseEntries items = some codes ∧ inspectFrom [] codes = some problems := by
  by_cases written : ∃ table, Written raw table
  · obtain ⟨table, written⟩ := written
    obtain ⟨⟨codes, -, reads, none_⟩, -⟩ := (written_iff read).mp written
    exact ⟨codes, [], reads, none_⟩
  · obtain ⟨problem, rest, parsed⟩ := promised.refuses written
    rw [parse_of_header read, Option.bind_eq_some_iff] at parsed
    obtain ⟨codes, reads, parsed⟩ := parsed
    obtain ⟨problems, inspected, -⟩ := Option.map_eq_some_iff.mp parsed
    exact ⟨codes, problems, reads, inspected⟩

theorem parse_of_inspected (file : Text) (read : HeaderRead (membersOf raw) providerId version source items)
    (reads : parseEntries items = some codes) (inspected : inspectFrom [] codes = some problems) :
    parseMappingTable raw file = some (if problems ≠ [] then .error ⟨file, problems⟩
      else .ok ⟨providerId, version, source, codes⟩) := by
  rw [parse_of_header read, reads, Option.bind_some, inspected, Option.map_some]

theorem careful_of_promised (promised : AsPromised raw file)
    (read : HeaderRead (membersOf raw) providerId version source items) : Careful items := by
  obtain ⟨codes, problems, reads, inspected⟩ := inspected_of_promised promised read
  refine ⟨forall_convertible_iff.mpr ⟨codes, problems, reads, inspected⟩, ?_⟩
  by_cases none_ : problems = []
  · subst none_
    have parsed := parse_of_inspected file read reads inspected
    rw [if_neg (not_not.mpr rfl)] at parsed
    exact .inr (.inr ((written_iff read).mp ((promised.accepts _).mp parsed)).2)
  · rw [← or_assoc]
    refine .inl (by_contra fun unnoticed => none_ ?_)
    exact Option.some.inj (inspected.symm.trans
      ((inspectFrom_eq_nil_iff (parseEntries_eq_some.mp reads)).mpr unnoticed))

theorem promised_of_careful (read : HeaderRead (membersOf raw) providerId version source items)
    (careful : Careful items) : AsPromised raw file := by
  obtain ⟨convertible, noticed⟩ := careful
  obtain ⟨codes, problems, reads, inspected⟩ := forall_convertible_iff.mp convertible
  have parsed := parse_of_inspected file read reads inspected
  cases problems with
  | nil =>
    rw [if_neg (not_not.mpr rfl)] at parsed
    have unnoticed := (inspectFrom_eq_nil_iff (parseEntries_eq_some.mp reads)).mp inspected
    have said := (or_assoc.mpr noticed).resolve_left unnoticed
    have written := (written_iff read).mpr ⟨⟨codes, rfl, reads, inspected⟩, said⟩
    refine ⟨fun table => ⟨fun accepted => ?_, fun also => ?_⟩, fun none_ =>
      (none_ ⟨_, written⟩).elim⟩
    · cases parsed.symm.trans accepted
      exact written
    · obtain ⟨⟨codes', rfl, reads', -⟩, -⟩ := (written_iff read).mp also
      cases reads.symm.trans reads'
      exact parsed
  | cons problem rest =>
    rw [if_pos (List.cons_ne_nil problem rest)] at parsed
    refine ⟨fun table => ⟨fun accepted => ?_, fun written => ?_⟩, fun _ => ⟨problem, rest, parsed⟩⟩
    · cases parsed.symm.trans accepted
    · obtain ⟨⟨codes', -, reads', none_⟩, -⟩ := (written_iff read).mp written
      cases reads.symm.trans reads'
      cases inspected.symm.trans none_

end Promise

/-- The loader does what it promises exactly if, the header being good, no entry stops it and each
problem of the entries is noticed where any is there. -/
theorem asPromised_iff [Js.NumberFormat N] (raw : Value N) (file : Text) :
    AsPromised raw file ↔ ∀ providerId version source items,
      HeaderRead (membersOf raw) providerId version source items → Careful items := by
  by_cases header : headerProblems (membersOf raw) = []
  · obtain ⟨providerId, version, source, items, read⟩ := headerProblems_eq_nil.mp header
    exact ⟨fun promised _ _ _ _ read => careful_of_promised promised read,
      fun careful => promised_of_careful read (careful _ _ _ _ read)⟩
  · have parsed := parse_of_problems file header
    have unwritten : ∀ table, ¬ Written raw table := fun table written => by
      obtain ⟨items, read, -⟩ := header_of_written written
      exact header (headerProblems_eq_nil.mpr ⟨_, _, _, _, read⟩)
    obtain ⟨problem, problems, is⟩ := List.exists_cons_of_ne_nil header
    refine ⟨fun _ p v s items read => (header (headerProblems_eq_nil.mpr ⟨_, _, _, _, read⟩)).elim,
      fun _ => ⟨fun table => ⟨fun accepted => ?_, fun written => (unwritten table written).elim⟩,
        fun _ => ⟨problem, problems, by rw [parsed, is]⟩⟩⟩
    cases parsed.symm.trans accepted

/-- A table of one entry. -/
def tableOf (entry : Value Whole) : Value Whole :=
  let text := fun name value => (ofString name, Value.string (ofString value))
  .object [text "version" "1", text "provider_id" "p", text "source" "sandbox_fixture",
    text "description" "A table of one entry.", (ofString "codes", .array [entry])]

/-- A return whose reason is misspelt. -/
def misspelt : Value Whole :=
  let text := fun name value => (ofString name, Value.string (ofString value))
  .object [text "provider_code" "R", text "outcome" "returned", text "return_reason" "RAIL_REVERSL",
    text "note" "The rail sent it back."]

/-- The table is accepted without the reason. -/
theorem not_always_promised : ¬ ∀ (raw : Value Whole) (file : Text), AsPromised raw file := by
  intro always
  have read : HeaderRead (membersOf (tableOf misspelt)) (ofString "p") (ofString "1")
      .sandboxFixture [misspelt] :=
    ⟨rfl, by decide, rfl, by decide, rfl, ⟨_, rfl, by decide⟩, rfl⟩
  obtain ⟨-, noticed⟩ := careful_of_promised (always (tableOf misspelt) []) read
  have reason : field misspelt "return_reason" = .string (ofString "RAIL_REVERSL") := rfl
  have dropped : reasonGiven misspelt = none := by decide
  rcases noticed with ⟨raw, mem, noticed⟩ | repeated | said
  · cases List.mem_singleton.mp mem
    cases noticed with
    | rejection is =>
      have outcome : field misspelt "outcome" = .string (ofString "returned") := rfl
      have same := ofString_injective (Value.string.inj (outcome.symm.trans is))
      exact absurd same (by decide)
    | reason given => exact given dropped
    | note text is short =>
      have note : stringOrEmpty (field misspelt "note") =
        some (ofString "The rail sent it back.") := rfl
      cases note.symm.trans is
      exact absurd short (by decide)
  · exact repeated (List.nodup_singleton _)
  · obtain ⟨read, is⟩ := (said misspelt List.mem_cons_self).returnReason
    cases (optionally_reason is).symm.trans dropped
    rw [reason] at is
    cases is

end InrSettle.Mapping
