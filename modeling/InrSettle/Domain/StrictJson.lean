import InrSettle.Library.JsReader

/-!
# Request bodies

The strict reader of JSON texts, which refuses two members of one name, and what it
accepts.
-/

namespace InrSettle

open Js

structure JsonParseError where
  message : Text
  offset : Nat
  kind : FailureKind
  deriving DecidableEq

section StrictJson

variable {N : Type} [Js.NumberFormat N]

/-- Where in the text its reader stopped. -/
def jsonParseError (text : Text) (failure : Failure) : JsonParseError where
  message := failure.message
  offset := text.length - failure.rest.length
  kind := failure.kind

/-- The reader that goes no deeper than this. -/
def parseStrictJsonWithin (depth : Nat) (text : Text) : Except JsonParseError (Value N) :=
  (readDocument true depth text).mapError (jsonParseError text)

def parseStrictJson (text : Text) : Except JsonParseError (Value N) :=
  parseStrictJsonWithin (fuelFor text) text

theorem parseStrictJson_eq_ok {text : Text} {v : Value N} :
    parseStrictJson text = .ok v ↔ Document text v ∧ v.distinct = true := by
  have enough : text.length ≤ fuelFor text := by
    unfold fuelFor
    omega
  have read : readDocument true (fuelFor text) text = .ok v ↔ _ := readDocument_eq_ok enough
  have ok : parseStrictJson text = .ok v ↔ readDocument true (fuelFor text) text = .ok v := by
    unfold parseStrictJson parseStrictJsonWithin
    cases readDocument (N := N) true (fuelFor text) text <;> simp [Except.mapError]
  rw [ok, read]
  constructor
  · rintro ⟨written, document, rfl, distinct⟩
    rw [merged_of_distinct written (distinct rfl)]
    exact ⟨document, distinct rfl⟩
  · rintro ⟨document, distinct⟩
    exact ⟨v, document, merged_of_distinct v distinct, fun _ => distinct⟩

/-- The reader accepts the texts of the grammar whose objects have no two members of one name, as
the value `JSON.parse` makes of them, and is done with every text at a depth that its length
bounds. -/
theorem parseStrictJson_grammar (text : Text) :
    (∀ v : Value N, parseStrictJson text = .ok v ↔ Document text v ∧ v.distinct = true) ∧
      (∀ v : Value N, parseStrictJson text = .ok v → parseJson text = some v) ∧
      ∀ depth, fuelFor text ≤ depth →
        parseStrictJsonWithin (N := N) depth text = parseStrictJson text := by
  refine ⟨fun v => parseStrictJson_eq_ok, fun v accepted => ?_, fun depth enough => ?_⟩
  · obtain ⟨document, distinct⟩ := parseStrictJson_eq_ok.mp accepted
    exact parseJson_eq_some.mpr ⟨v, document, merged_of_distinct v distinct⟩
  · rw [parseStrictJson, parseStrictJsonWithin, parseStrictJsonWithin, readDocument_settled enough]

end StrictJson

end InrSettle
