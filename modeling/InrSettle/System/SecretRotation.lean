import InrSettle.Library.Run
import InrSettle.Library.Table
import InrSettle.Service.WebhookSecret

/-!
# Rotating a webhook secret

Rotations of one endpoint in any order. A rotation reads the row without a lock and then
writes it, so another one may commit between its read and its write.
-/

namespace InrSettle

open Run

/-! ### The state -/

inductive RotationRun where
  | writing (rotation : Rotation)
  | ended
  deriving DecidableEq

/-- A secret given to a caller, by its draw, with the end of the overlap it leaves the one before;
the first one is that of the endpoint's creation. -/
structure IssuedSecret where
  draw : Nat
  previousExpiresAt : Option Instant := none
  deriving DecidableEq

structure SecretWorld where
  row : EndpointSecrets
  runs : List RotationRun := []
  /-- In the order of their commits, the last one first. -/
  issued : List IssuedSecret
  drawn : Nat
  deriving DecidableEq

inductive SecretOp where
  | rotateWebhookSecret (actorCapabilities : List String) (now : Instant)
  | commitRotation (runId : Nat)
  | lose (runId : Nat)
  deriving DecidableEq

namespace SecretWorld

variable (cipher : FieldCipher) (scope : TenantScope) (randomBytes : Nat → String)

/-- The ciphertext of the secret of a draw. -/
def sealed (draw : Nat) : String :=
  cipher.encrypt draw (newSecret randomBytes draw) (secretField scope)

/-- The endpoint as it is created. -/
def start : SecretWorld where
  row := { secretCiphertext := sealed cipher scope randomBytes 0 }
  issued := [⟨0, none⟩]
  drawn := 1

def step (w : SecretWorld) : SecretOp → SecretWorld
  | .rotateWebhookSecret actorCapabilities now =>
    if "apikey:manage" ∈ actorCapabilities then
      { w with runs := w.runs ++ [.writing ⟨w.row, w.drawn, now⟩], drawn := w.drawn + 1 }
    else w
  | .commitRotation runId => match w.runs[runId]? with
    | some (.writing rotation) => { w with
        row := rotation.row cipher scope randomBytes
        runs := w.runs.set runId .ended
        issued := ⟨rotation.draw, some rotation.previousExpiresAt⟩ :: w.issued }
    | _ => w
  | .lose runId => { w with runs := w.runs.set runId .ended }

/-- The secret verifies a delivery. -/
def Live (w : SecretWorld) (now : Instant) (secret : String) : Prop :=
  ∃ secrets, liveSecretsFor cipher scope w.row now = some secrets ∧ secret ∈ secrets

end SecretWorld

/-! ### What is promised -/

/-- The overlap the secret leaves the one before it is open. -/
def IssuedSecret.overlaps (issued : IssuedSecret) (now : Instant) : Bool :=
  issued.previousExpiresAt.any fun expiresAt => decide (now < expiresAt)

/-- The draws of the secrets in force: the last one issued, and the one before it until the overlap
returned with the last one expires. -/
def inForce : List IssuedSecret → Instant → List Nat
  | [], _ => []
  | [last], _ => [last.draw]
  | last :: before :: _, now =>
    if last.overlaps now then [last.draw, before.draw] else [last.draw]

theorem inForce_cons_cons (last before : IssuedSecret) (rest : List IssuedSecret) (now : Instant) :
    inForce (last :: before :: rest) now =
      if last.overlaps now then [last.draw, before.draw] else [last.draw] := rfl

theorem inForce_length (issued : List IssuedSecret) (now : Instant) :
    (inForce issued now).length ≤ 2 := by
  match issued with
  | [] => exact Nat.zero_le 2
  | [_] => exact Nat.le_succ 1
  | last :: before :: _ =>
    rw [inForce_cons_cons]
    split
    · exact Nat.le_refl 2
    · exact Nat.le_succ 1

theorem overlaps_earlier {issued : IssuedSecret} {now later : Instant} (le : now ≤ later)
    (overlaps : issued.overlaps later = true) : issued.overlaps now = true := by
  unfold IssuedSecret.overlaps at overlaps ⊢
  cases expires : issued.previousExpiresAt with
  | none => simp [expires] at overlaps
  | some expiresAt =>
    simp only [expires, Option.any_some, decide_eq_true_eq] at overlaps ⊢
    exact Nat.lt_of_le_of_lt le overlaps

/-- What is in force is the last secret, or the one before it while the overlap is open. -/
theorem mem_inForce {issued : List IssuedSecret} {now : Instant} {draw : Nat} :
    draw ∈ inForce issued now ↔ (issued.map (·.draw))[0]? = some draw ∨
      (issued.map (·.draw))[1]? = some draw ∧ issued.head?.any (·.overlaps now) = true := by
  match issued with
  | [] => simp [inForce]
  | [last] => simpa [inForce] using eq_comm
  | last :: before :: _ =>
    rw [inForce_cons_cons]
    split
    · rename_i open'
      simp [open', eq_comm]
    · rename_i closed
      simp [closed, eq_comm]

/-! ### Sound worlds -/

def runDraw : RotationRun → Option Nat
  | .writing rotation => some rotation.draw
  | .ended => none

namespace SecretWorld

variable (cipher : FieldCipher) (scope : TenantScope) (randomBytes : Nat → String)

/-- The row holds the last secret issued, and the one before. -/
def Holds (w : SecretWorld) : Prop :=
  match w.issued with
  | [] => False
  | [last] => w.row = { secretCiphertext := sealed cipher scope randomBytes last.draw }
  | last :: before :: _ => w.row =
      { secretCiphertext := sealed cipher scope randomBytes last.draw
        previousSecretCiphertext := some (sealed cipher scope randomBytes before.draw)
        previousSecretExpiresAt := last.previousExpiresAt }

/-- Each secret is drawn once, and each rotation has read one that was issued. -/
structure Sound (w : SecretWorld) : Prop where
  holds : w.Holds cipher scope randomBytes
  distinct : (w.issued.map (·.draw)).Nodup
  issued : ∀ issued ∈ w.issued, issued.draw < w.drawn
  runs : ∀ rotation, .writing rotation ∈ w.runs → rotation.draw < w.drawn ∧
    (∀ issued ∈ w.issued, issued.draw ≠ rotation.draw) ∧
      ∃ issued ∈ w.issued, rotation.read.secretCiphertext =
        sealed cipher scope randomBytes issued.draw
  apart : Table.Unique runDraw w.runs

/-- A rotation commits while the secret it has read is the endpoint's. -/
def Unraced (w : SecretWorld) : SecretOp → Prop
  | .commitRotation runId => match w.runs[runId]? with
    | some (.writing rotation) => rotation.read.secretCiphertext = w.row.secretCiphertext
    | _ => True
  | _ => True

instance (w : SecretWorld) (op : SecretOp) : Decidable (w.Unraced op) := by
  unfold Unraced
  split
  · split <;> infer_instance
  · infer_instance

variable {cipher scope randomBytes} {w : SecretWorld}

theorem decrypt_sealed (draw : Nat) :
    cipher.decrypt (sealed cipher scope randomBytes draw) (secretField scope) =
      some (newSecret randomBytes draw) :=
  cipher.decrypt_encrypt ..

/-- The live secrets are those in force. -/
theorem Holds.live (holds : w.Holds cipher scope randomBytes) (now : Instant) :
    liveSecretsFor cipher scope w.row now =
      some ((inForce w.issued now).map (newSecret randomBytes)) := by
  unfold Holds at holds
  match is : w.issued with
  | [] => simp [is] at holds
  | [last] =>
    simp only [is] at holds
    simp [liveSecretsFor, holds, decrypt_sealed, inForce]
  | last :: before :: _ =>
    simp only [is] at holds
    cases expires : last.previousExpiresAt with
    | none =>
      simp [liveSecretsFor, holds, decrypt_sealed, inForce_cons_cons, IssuedSecret.overlaps, expires]
    | some expiresAt =>
      by_cases open' : now < expiresAt <;>
        simp [liveSecretsFor, holds, decrypt_sealed, inForce_cons_cons, IssuedSecret.overlaps,
          expires, open']

theorem Holds.current (holds : w.Holds cipher scope randomBytes) :
    ∃ last rest, w.issued = last :: rest ∧
      w.row.secretCiphertext = sealed cipher scope randomBytes last.draw := by
  unfold Holds at holds
  match is : w.issued with
  | [] => simp [is] at holds
  | [last] => exact ⟨last, [], rfl, by simp only [is] at holds; rw [holds]⟩
  | last :: before :: rest =>
    exact ⟨last, before :: rest, rfl, by simp only [is] at holds; rw [holds]⟩

theorem sound_start : (start cipher scope randomBytes).Sound cipher scope randomBytes where
  holds := rfl
  distinct := by simp [start]
  issued := by simp [start]
  runs := by simp [start]
  apart := List.Pairwise.nil

theorem Sound.step (sound : w.Sound cipher scope randomBytes) (op : SecretOp)
    (unraced : w.Unraced op) :
    (w.step cipher scope randomBytes op).Sound cipher scope randomBytes := by
  cases op with
  | rotateWebhookSecret actorCapabilities now =>
    simp only [SecretWorld.step]
    split
    · obtain ⟨last, rest, is, current⟩ := sound.holds.current
      refine ⟨sound.holds, sound.distinct, fun issued mem => ?_, fun rotation mem => ?_,
        sound.apart.append (Table.admits_iff.mpr fun draw new r mem same => ?_)⟩
      · exact Nat.lt_succ_of_lt (sound.issued issued mem)
      · rcases List.mem_append.mp mem with old | new
        · obtain ⟨drawn, fresh, read⟩ := sound.runs rotation old
          exact ⟨Nat.lt_succ_of_lt drawn, fresh, read⟩
        · obtain rfl := RotationRun.writing.inj (List.mem_singleton.mp new)
          exact ⟨Nat.lt_succ_self _, fun issued mem => (sound.issued issued mem).ne,
            last, by simp [is], current⟩
      · obtain rfl := Option.some.inj new
        cases r with
        | writing rotation =>
          exact absurd (Option.some.inj same) (sound.runs rotation mem).1.ne
        | ended => cases same
    · exact sound
  | commitRotation runId =>
    simp only [SecretWorld.step]
    split
    · rename_i rotation found
      obtain ⟨drawn, fresh, -⟩ := sound.runs rotation (List.mem_of_getElem? found)
      simp only [Unraced, found] at unraced
      obtain ⟨last, rest, is, current⟩ := sound.holds.current
      refine ⟨?_, ?_, ?_, ?_, sound.apart.set nofun⟩
      · simp only [Holds, is, Rotation.row, unraced, current]
        rfl
      · refine List.nodup_cons.mpr ⟨fun mem => ?_, sound.distinct⟩
        obtain ⟨issued, mem, same⟩ := List.mem_map.mp mem
        exact fresh issued mem same
      · intro issued mem
        rcases List.mem_cons.mp mem with rfl | mem
        · exact drawn
        · exact sound.issued issued mem
      · intro other mem
        rcases List.mem_or_eq_of_mem_set mem with old | no
        · obtain ⟨drawn', fresh', issued, mem', read⟩ := sound.runs other old
          refine ⟨drawn', fun issued mem' => ?_, issued, List.mem_cons_of_mem _ mem', read⟩
          rcases List.mem_cons.mp mem' with rfl | mem'
          · intro same
            exact sound.apart.given_up found rfl (by simp [runDraw]) _ mem (congrArg some same.symm)
          · exact fresh' issued mem'
        · cases no
    · exact sound
  | lose runId =>
    refine ⟨sound.holds, sound.distinct, sound.issued, fun rotation mem => ?_,
      sound.apart.set nofun⟩
    rcases List.mem_or_eq_of_mem_set mem with old | no
    · exact sound.runs rotation old
    · cases no

/-- What a rotation leaves live as it commits. -/
theorem live_rotated {rotation : Rotation} {draw : Nat}
    (is : rotation.read.secretCiphertext = sealed cipher scope randomBytes draw) :
    liveSecretsFor cipher scope (rotation.row cipher scope randomBytes) rotation.now =
      some [newSecret randomBytes rotation.draw, newSecret randomBytes draw] := by
  rw [liveSecretsFor, Rotation.row, is]
  simp only [cipher.decrypt_encrypt, decrypt_sealed, if_pos rotation.now_lt_previousExpiresAt,
    Option.bind_eq_bind, Option.bind_some]
  rfl

/-- A rotation that commits over another one's secret ends its overlap at once. -/
theorem Sound.raced (fresh : Function.Injective randomBytes)
    (sound : w.Sound cipher scope randomBytes) {op : SecretOp} (raced : ¬w.Unraced op) :
    ∃ now, ∃ draw ∈ inForce (w.step cipher scope randomBytes op).issued now,
      ¬(w.step cipher scope randomBytes op).Live cipher scope now (newSecret randomBytes draw) := by
  have injective : ∀ {a b}, newSecret randomBytes a = newSecret randomBytes b → a = b :=
    fun same => fresh (String.append_right_inj _ |>.mp same)
  cases op with
  | commitRotation runId =>
    cases found : w.runs[runId]? with
    | none => simp [Unraced, found] at raced
    | some r => cases r with
      | ended => simp [Unraced, found] at raced
      | writing rotation =>
        simp only [Unraced, found] at raced
        obtain ⟨-, own, read, mem, is⟩ := sound.runs _ (List.mem_of_getElem? found)
        obtain ⟨last, rest, issued, current⟩ := sound.holds.current
        have other : read.draw ≠ last.draw := fun same => raced (by rw [is, current, same])
        have open' := rotation.now_lt_previousExpiresAt
        have overlaps : IssuedSecret.overlaps ⟨rotation.draw, some rotation.previousExpiresAt⟩
            rotation.now = true := by
          rw [IssuedSecret.overlaps, Option.any_some, decide_eq_true open']
        have next : w.step cipher scope randomBytes (.commitRotation runId) = { w with
            row := rotation.row cipher scope randomBytes
            runs := w.runs.set runId .ended
            issued := ⟨rotation.draw, some rotation.previousExpiresAt⟩ :: w.issued } := by
          rw [SecretWorld.step, found]
        rw [next]
        refine ⟨rotation.now, last.draw, ?_, ?_⟩
        · rw [issued, inForce_cons_cons, if_pos overlaps]
          exact List.mem_cons_of_mem _ List.mem_cons_self
        · rintro ⟨secrets, live, mem⟩
          rw [live_rotated is, Option.some.injEq] at live
          rw [← live] at mem
          rcases List.mem_cons.mp mem with same | mem
          · exact own last (by simp [issued]) (injective same)
          · exact other (injective (List.mem_singleton.mp mem)).symm
  | _ => exact (raced trivial).elim

/-! ### Along a run -/

theorem step_issued (w : SecretWorld) (op : SecretOp) :
    w.issued <:+ (w.step cipher scope randomBytes op).issued := by
  cases op with
  | rotateWebhookSecret actorCapabilities now =>
    simp only [SecretWorld.step]
    split <;> exact List.suffix_refl _
  | commitRotation runId =>
    simp only [SecretWorld.step]
    split
    · exact List.suffix_cons _ _
    · exact List.suffix_refl _
  | lose runId => exact List.suffix_refl _

theorem run_issued (w : SecretWorld) (ops : List SecretOp) :
    w.issued <:+ (run (SecretWorld.step cipher scope randomBytes) w ops).issued := by
  induction ops generalizing w with
  | nil => exact List.suffix_refl _
  | cons op ops ih => exact (step_issued w op).trans (ih _)

/-- A secret that is in force, is not, and is again, would be at two places of the secrets issued. -/
theorem not_inForce_again {first second third : List IssuedSecret} {now now' now'' : Instant}
    {draw : Nat} (grows : first <:+ second) (grows' : second <:+ third)
    (distinct : (third.map (·.draw)).Nodup) (le : now' ≤ now'')
    (was : draw ∈ inForce first now) (ended : draw ∉ inForce second now') :
    draw ∉ inForce third now'' := by
  intro again
  obtain ⟨more, rfl⟩ := grows
  obtain ⟨more', rfl⟩ := grows'
  have place : ∃ i, i ≤ 1 ∧ (first.map (·.draw))[i]? = some draw := by
    rcases mem_inForce.mp was with last | ⟨before, -⟩
    · exact ⟨0, Nat.zero_le 1, last⟩
    · exact ⟨1, le_rfl, before⟩
  obtain ⟨i, -, here⟩ := place
  have second : ((more ++ first).map (·.draw))[more.length + i]? = some draw := by
    rw [List.map_append, List.getElem?_append_right (by simp), List.length_map,
      Nat.add_sub_cancel_left, here]
  have third : ((more' ++ (more ++ first)).map (·.draw))[more'.length + (more.length + i)]? =
      some draw := by
    rw [List.map_append, List.getElem?_append_right (by simp), List.length_map,
      Nat.add_sub_cancel_left, second]
  have unique : ∀ {j}, ((more' ++ (more ++ first)).map (·.draw))[j]? = some draw →
      j = more'.length + (more.length + i) := fun {j} found =>
    (List.getElem?_inj (List.getElem?_eq_some_iff.mp found).1 distinct).mp (found.trans third.symm)
  rw [mem_inForce, not_or, not_and] at ended
  rcases mem_inForce.mp again with last | ⟨before, overlaps⟩
  · have zero := unique last
    obtain rfl : i = 0 := by omega
    obtain none : more.length = 0 := by omega
    exact ended.1 (by simpa [none] using second)
  · have one := unique before
    rcases Nat.eq_zero_or_pos (more.length + i) with zero | pos
    · exact ended.1 (by simpa [zero] using second)
    · have is : more.length + i = 1 := by omega
      have none : more' = [] := List.length_eq_zero_iff.mp (by omega)
      subst none
      refine ended.2 (by simpa [is] using second) ?_
      obtain ⟨last, found, open'⟩ := (Option.any_eq_true _ _).mp overlaps
      exact (Option.any_eq_true _ _).mpr ⟨last, found, overlaps_earlier le open'⟩

end SecretWorld

section Claim

variable (cipher : FieldCipher) (scope : TenantScope) (randomBytes : Nat → String)

def secretsAfter (ops : List SecretOp) : SecretWorld :=
  run (SecretWorld.step cipher scope randomBytes) (SecretWorld.start cipher scope randomBytes) ops

/-- A secret returned is live from the commit of its rotation until the next one commits, and from
then until the overlap expires or the one after commits; no more than two are live, and none
becomes live again. -/
structure SecretsKept (ops : List SecretOp) : Prop where
  promised : ∀ before rest, ops = before ++ rest → ∀ now,
    ∀ draw ∈ inForce (secretsAfter cipher scope randomBytes before).issued now,
      (secretsAfter cipher scope randomBytes before).Live cipher scope now
        (newSecret randomBytes draw)
  two : ∀ before rest, ops = before ++ rest → ∀ now secrets,
    liveSecretsFor cipher scope (secretsAfter cipher scope randomBytes before).row now =
      some secrets → secrets.length ≤ 2
  gone : ∀ before middle later rest, ops = before ++ middle ++ later ++ rest →
    ∀ now now' now'', now ≤ now' → now' ≤ now'' → ∀ secret,
      (secretsAfter cipher scope randomBytes before).Live cipher scope now secret →
      ¬(secretsAfter cipher scope randomBytes (before ++ middle)).Live cipher scope now' secret →
      ¬(secretsAfter cipher scope randomBytes (before ++ middle ++ later)).Live cipher scope now''
        secret

end Claim

namespace SecretWorld

variable {cipher : FieldCipher} {scope : TenantScope} {randomBytes : Nat → String}

theorem Holds.live_iff {w : SecretWorld} (holds : w.Holds cipher scope randomBytes) {now : Instant}
    {secret : String} : w.Live cipher scope now secret ↔
      ∃ draw ∈ inForce w.issued now, newSecret randomBytes draw = secret := by
  rw [Live, holds.live]
  simp

theorem sound_run {w : SecretWorld} (sound : w.Sound cipher scope randomBytes)
    {ops : List SecretOp} (unraced : Along (SecretWorld.step cipher scope randomBytes) Unraced w ops) :
    (run (SecretWorld.step cipher scope randomBytes) w ops).Sound cipher scope randomBytes :=
  Along.invariant (fun _ op sound unraced => sound.step op unraced) sound unraced

/-- Where each state of a run keeps the promise, no rotation of it was raced. -/
theorem unraced_of_promised (fresh : Function.Injective randomBytes) {w : SecretWorld}
    (sound : w.Sound cipher scope randomBytes) (ops : List SecretOp)
    (promised : ∀ before rest, ops = before ++ rest → ∀ now,
      ∀ draw ∈ inForce (run (SecretWorld.step cipher scope randomBytes) w before).issued now,
        (run (SecretWorld.step cipher scope randomBytes) w before).Live cipher scope now
          (newSecret randomBytes draw)) :
    Along (SecretWorld.step cipher scope randomBytes) Unraced w ops := by
  induction ops generalizing w with
  | nil => exact trivial
  | cons op ops ih =>
    have unraced : w.Unraced op := by
      by_contra raced
      obtain ⟨now, draw, mem, dead⟩ := sound.raced fresh raced
      exact dead (promised [op] ops rfl now draw mem)
    exact ⟨unraced, ih (sound.step op unraced) fun before rest is =>
      promised (op :: before) rest (congrArg (op :: ·) is)⟩

end SecretWorld

/-- The secrets of an endpoint are live as promised along a run exactly if no rotation of it commits
over a secret it has not read. -/
theorem webhookSecrets_kept (cipher : FieldCipher) (scope : TenantScope)
    (randomBytes : Nat → String) (fresh : Function.Injective randomBytes) (ops : List SecretOp) :
    SecretsKept cipher scope randomBytes ops ↔
      Along (SecretWorld.step cipher scope randomBytes) SecretWorld.Unraced
        (SecretWorld.start cipher scope randomBytes) ops := by
  constructor
  · exact fun kept => SecretWorld.unraced_of_promised fresh SecretWorld.sound_start ops kept.promised
  · intro unraced
    have sound : ∀ before rest, ops = before ++ rest →
        (secretsAfter cipher scope randomBytes before).Sound cipher scope randomBytes :=
      fun before rest is => SecretWorld.sound_run SecretWorld.sound_start
        (along_append.mp (is ▸ unraced)).1
    refine ⟨fun before rest is now draw mem => ?_, fun before rest is now secrets live => ?_, ?_⟩
    · exact (sound before rest is).holds.live_iff.mpr ⟨draw, mem, rfl⟩
    · rw [(sound before rest is).holds.live, Option.some.injEq] at live
      rw [← live, List.length_map]
      exact inForce_length _ now
    · intro before middle later rest is now now' now'' _ le secret was ended again
      have first := sound before (middle ++ (later ++ rest)) (by simp [is])
      have second := sound (before ++ middle) (later ++ rest) (by simp [is])
      have third := sound (before ++ middle ++ later) rest is
      obtain ⟨draw, mem, rfl⟩ := first.holds.live_iff.mp was
      obtain ⟨draw', mem', same⟩ := third.holds.live_iff.mp again
      obtain rfl := fresh ((String.append_right_inj _).mp same)
      have grows : ∀ a b, (secretsAfter cipher scope randomBytes a).issued <:+
          (secretsAfter cipher scope randomBytes (a ++ b)).issued := fun a b => by
        rw [secretsAfter, secretsAfter, run_append]
        exact SecretWorld.run_issued _ _
      exact SecretWorld.not_inForce_again (grows _ _) (grows _ _) third.distinct le mem
        (fun inForce => ended (second.holds.live_iff.mpr ⟨_, inForce, rfl⟩)) mem'

/-- Two rotations in turn, and two of which the second commits over the first one's secret. -/
def inTurn : List SecretOp :=
  [.rotateWebhookSecret ["apikey:manage"] 10, .commitRotation 0,
    .rotateWebhookSecret ["apikey:manage"] 20, .commitRotation 1]

def atOnce : List SecretOp :=
  [.rotateWebhookSecret ["apikey:manage"] 10, .rotateWebhookSecret ["apikey:manage"] 20,
    .commitRotation 0, .commitRotation 1]

/-- A cipher that hides nothing. -/
def openCipher : FieldCipher := ⟨fun _ plaintext _ => plaintext, fun ciphertext _ => some ciphertext,
  fun _ _ _ => rfl⟩

def tally (draw : Nat) : String := String.ofList (List.replicate draw 'A')

theorem tally_injective : Function.Injective tally := fun a b same => by
  simpa using congrArg List.length (String.ofList_injective same)

theorem webhookSecrets_kept_inTurn :
    SecretsKept openCipher ⟨"ws", "live"⟩ tally inTurn :=
  (webhookSecrets_kept openCipher ⟨"ws", "live"⟩ tally tally_injective inTurn).mpr
    (by decide +kernel)

/-- The secret of the rotation that committed first is dropped as the second one commits. -/
theorem rotated_secret_lost : ¬SecretsKept openCipher ⟨"ws", "live"⟩ tally atOnce := by
  intro kept
  obtain ⟨secrets, live, mem⟩ := kept.promised atOnce [] rfl 20 1 (by decide +kernel)
  have are : liveSecretsFor openCipher ⟨"ws", "live"⟩
      (secretsAfter openCipher ⟨"ws", "live"⟩ tally atOnce).row 20 =
        some ["whsec_AA", "whsec_"] := by decide +kernel
  obtain rfl := Option.some.inj (are.symm.trans live)
  revert mem
  decide +kernel

end InrSettle
