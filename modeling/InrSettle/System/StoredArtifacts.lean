import InrSettle.Library.Run
import InrSettle.Library.Table
import InrSettle.Service.ArtifactStore

/-!
# Artifacts written once

Every accepted key of a run leads beneath the prefix, what is read is what the one put that created
the file was given, and the job run again leaves the whole printing stored, where no put ends
between creating its file and writing all of it, no normalised key leaves the prefix and no key's
path is on the way to another's.
-/

namespace InrSettle.ArtifactStore

open Js Js.NumberFormat Files Run

variable {N : Type} [Js.NumberFormat N]

/-! ### Keys -/

/-- The prefix as the first name of a path. -/
def receipts : Text := ofString "receipts"

/-- The normalised key goes on after the prefix. -/
def Kept (key : Text) : Prop := ∃ rest, rest ≠ [] ∧ normalized key = ⟨0, receipts :: rest⟩

/-- The key has the prefix, and its path lies within the root. -/
def Accepted (root : Path Text) (key : Text) : Prop :=
  Within root ((normalized key).below root) ∧ artifactPrefix <+: key

def placeOf (root : Path Text) (key : Text) : Path Bytes := located ((normalized key).below root)

theorem pathFor_eq_ok {root path : Path Text} {key : Text} :
    pathFor root key = .ok path ↔ Accepted root key ∧ path = (normalized key).below root := by
  rw [pathFor, Accepted]
  by_cases within : Within root ((normalized key).below root)
  · by_cases isPrefix : artifactPrefix <+: key
    · simp only [within, isPrefix, not_true_eq_false, if_false, true_and, Except.ok.injEq]
      exact eq_comm
    · simp [within, isPrefix]
  · simp [within]

/-- A key that is accepted leads where its segments do from the root, one after another. -/
theorem pathFor_follow {root path : Path Text} {key : Text} (found : pathFor root key = .ok path) :
    path = follow root (segmentsOf key) := by
  obtain ⟨⟨-, isPrefix⟩, rfl⟩ := pathFor_eq_ok.mp found
  have relative : key.head? ≠ some (unit '/') := by
    obtain ⟨rest, rfl⟩ := isPrefix
    exact of_decide_eq_false rfl
  rw [normalized, if_neg relative, below_normalize]

theorem below_of_zero {root names : Path Text} {key : Text} (is : normalized key = ⟨0, names⟩) :
    (normalized key).below root = root ++ names := by
  simp [is, Relative.below]

theorem Kept.below {root : Path Text} {key : Text} (kept : Kept key) :
    (normalized key).below root = root ++ (normalized key).names := by
  obtain ⟨rest, -, is⟩ := kept
  rw [below_of_zero is, is]

theorem Kept.placeOf {root : Path Text} {key : Text} (kept : Kept key) :
    placeOf root key = located root ++ located (normalized key).names := by
  rw [ArtifactStore.placeOf, kept.below, located, List.map_append]
  rfl

theorem Kept.names_ne_nil {key : Text} (kept : Kept key) : (normalized key).names ≠ [] := by
  obtain ⟨rest, -, is⟩ := kept
  rw [is]
  exact List.cons_ne_nil _ _

theorem Kept.accepted {root : Path Text} {key : Text} (some : root ≠ []) (kept : Kept key)
    (isPrefix : artifactPrefix <+: key) : Accepted root key :=
  ⟨.inr ⟨some, kept.below ▸ List.prefix_append _ _⟩, isPrefix⟩

/-! ### The keys artifacts are given -/

theorem segmentsOf_append {name rest : Text} (plain : unit '/' ∉ name) :
    segmentsOf (name ++ unit '/' :: rest) = segmentOf name :: segmentsOf rest := by
  rw [segmentsOf, List.splitOn_append_cons_self_of_not_mem plain]
  rfl

theorem segmentsOf_plain {name : Text} (plain : unit '/' ∉ name) :
    segmentsOf name = [segmentOf name] := by
  rw [segmentsOf, List.splitOn_eq_singleton plain]
  rfl

theorem segmentOf_pdf (id : Text) : segmentOf (id ++ ofString ".pdf") =
    .name (id ++ ofString ".pdf") := by
  have long : 4 ≤ (id ++ ofString ".pdf").length := by
    rw [List.length_append, show (ofString ".pdf").length = 4 by decide]
    omega
  have differs : ∀ t : Text, t.length < 4 → id ++ ofString ".pdf" ≠ t := fun t short same =>
    absurd (congrArg List.length same) (by omega)
  rw [segmentOf, if_neg, if_neg (differs _ (by decide))]
  exact not_or.mpr ⟨differs _ (by decide), differs _ (by decide)⟩

theorem normalized_artifactObjectKey (kind : ArtifactKind) {id : Text} (plain : unit '/' ∉ id) :
    normalized (artifactObjectKey kind id) =
      ⟨0, [receipts, ofString kind.wire, id ++ ofString ".pdf"]⟩ := by
  have shape : artifactObjectKey kind id =
      receipts ++ unit '/' :: (ofString kind.wire ++ unit '/' :: (id ++ ofString ".pdf")) := by
    rw [artifactObjectKey, show artifactPrefix = receipts ++ [unit '/'] by decide]
    simp
  have file : unit '/' ∉ id ++ ofString ".pdf" := by
    rw [List.mem_append, not_or]
    exact ⟨plain, by decide⟩
  have kinds : unit '/' ∉ ofString kind.wire ∧
      segmentOf (ofString kind.wire) = .name (ofString kind.wire) := by
    cases kind <;> decide
  have relative : ¬(artifactObjectKey kind id).head? = some (unit '/') := by
    rw [shape]
    exact of_decide_eq_false rfl
  rw [normalized, if_neg relative, shape, segmentsOf_append (by decide), segmentsOf_append kinds.1,
    segmentsOf_plain file, segmentOf_pdf, kinds.2, show segmentOf receipts = .name receipts by decide]
  rfl

theorem kept_artifactObjectKey (kind : ArtifactKind) {id : Text} (plain : unit '/' ∉ id) :
    Kept (artifactObjectKey kind id) :=
  ⟨_, List.cons_ne_nil _ _, normalized_artifactObjectKey kind plain⟩

theorem prefix_artifactObjectKey (kind : ArtifactKind) (id : Text) :
    artifactPrefix <+: artifactObjectKey kind id := by
  rw [artifactObjectKey, List.append_assoc, List.append_assoc]
  exact List.prefix_append _ _

section Runs

variable (sha256 : Text → Text) (render : CanonicalArtifact N → Text → Nat → Bytes)
  (root : Path Text) (table : ArtifactTable)

/-! ### What a run is asked -/

def Call.keys : Call → List Text
  | .put object _ => [object.key]
  | .get key => [key]
  | .generate artifactId _ _ => ((table.row artifactId).map (·.pdfObjectKey)).toList

def keysOf (calls : List Call) : List Text := calls.flatMap (Call.keys table)

/-- What is printed of a row at a moment. -/
def printing (r : PrintedRow) (moment : Nat) : Option Bytes :=
  (parseJson r.canonicalBytes : Option (Value N)).map fun document =>
    render ⟨r.kind, document⟩ r.contentHash moment

/-- What a call puts, if it comes to that. -/
def Call.Offers (object : StoredObject) (course : Course) : Call → Prop
  | .put object' course' => object' = object ∧ course' = course
  | .get _ => False
  | .generate artifactId moment course' => ∃ r bytes, table.row artifactId = some r ∧
    printing render r moment = some bytes ∧ object = ⟨r.pdfObjectKey, bytes, pdf⟩ ∧
      course' = course

/-- A put that finds its place free writes all its bytes once it has created the file. -/
def Unbroken (s : Store) (call : Call) : Prop :=
  ∀ object count stops, call.Offers render table object (.bytes count stops) →
    s.disk.file (placeOf root object.key) = none → object.bytes.length ≤ count

/-- The keys of a run: a key with the prefix whose path is within the root is still beneath the
prefix once it is normalised, no key's path is on the way to another's, and what stands under an
artifact's key is left to the job. -/
structure Separate (calls : List Call) : Prop where
  rooted : root ≠ []
  kept : ∀ key ∈ keysOf table calls, Accepted root key → Kept key
  apart : ∀ key ∈ keysOf table calls, ∀ key' ∈ keysOf table calls, Kept key → Kept key' →
    located (normalized key).names <+: located (normalized key').names → key = key'
  reserved : ∀ object course, .put object course ∈ calls →
    ∀ id r, table.row id = some r → r.pdfObjectKey ≠ object.key

/-- A printing of the artifact. -/
def Printed (r : PrintedRow) (bytes : Bytes) : Prop :=
  ∃ moment, printing render r moment = some bytes

variable (N) in
/-- The stored bytes of the artifact have its stored hash. -/
def Intact (r : PrintedRow) : Prop :=
  ∃ document : Value N, parseJson r.canonicalBytes = some document ∧
    verifyContentHash sha256 ⟨r.kind, document⟩ r.contentHash = .ok true

/-! ### What a put does -/

/-- A place of the run: the path of a key that is accepted. -/
def Place (calls : List Call) (p : Path Bytes) : Prop :=
  ∃ key ∈ keysOf table calls, Accepted root key ∧ p = placeOf root key

variable {sha256 render root table} {calls : List Call}

theorem Separate.places (separate : Separate root table calls) :
    Disk.Apart (located root) (Place root table calls) where
  each := by
    rintro _ _ ⟨key, mem, accepted, rfl⟩ ⟨key', mem', accepted', rfl⟩ before
    have kept := separate.kept key mem accepted
    have kept' := separate.kept key' mem' accepted'
    rw [kept.placeOf, kept'.placeOf, List.prefix_append_right_inj] at before
    rw [separate.apart key mem key' mem' kept kept' before]
  base := by
    rintro _ ⟨key, mem, accepted, rfl⟩ before
    have kept := separate.kept key mem accepted
    have shorter := before.length_le
    have positive := List.length_pos_iff.mpr kept.names_ne_nil
    rw [kept.placeOf, List.length_append, located, located, List.length_map, List.length_map]
      at shorter
    omega

theorem Separate.key_eq (separate : Separate root table calls) {key key' : Text}
    (mem : key ∈ keysOf table calls) (mem' : key' ∈ keysOf table calls)
    (accepted : Accepted root key) (accepted' : Accepted root key')
    (same : placeOf root key = placeOf root key') : key = key' := by
  have kept := separate.kept key mem accepted
  have kept' := separate.kept key' mem' accepted'
  refine separate.apart key mem key' mem' kept kept' ?_
  rw [kept.placeOf, kept'.placeOf, List.append_cancel_left_eq] at same
  exact same ▸ List.prefix_rfl

/-- What a put answers and leaves: the files as they were, or its own file with what it has
written. -/
inductive Left (root : Path Text) (object : StoredObject) (course : Course) (s : Store) :
    Answer PutResult × Store → Prop where
  | same {a : Answer PutResult} {s' : Store} (file : s'.disk.file = s.disk.file)
    (created : s'.created = s.created)
    (held : ∀ count stops, course = .bytes count stops →
      s.disk.file (placeOf root object.key) ≠ none) : Left root object course s (a, s')
  | made {s' : Store} (count : Nat) (stops : Bool) (came : course = .bytes count stops)
    (free : s.disk.file (placeOf root object.key) = none)
    (file : s'.disk.file = Function.update s.disk.file (placeOf root object.key)
      (some (object.bytes.take count)))
    (created : s'.created = (object.key, object.bytes) :: s.created) :
    Left root object course s
      (if stops then .stopped else .returned (.ok object.key object.bytes.length), s')

/-- A put of a key that is accepted creates its file, finds one or stops, and fits the places. -/
theorem putIfAbsent_left (separate : Separate root table calls) {object : StoredObject}
    (mem : object.key ∈ keysOf table calls) (accepted : Accepted root object.key) (course : Course)
    {s : Store} (fits : Disk.Fits (located root) (Place root table calls) s.disk) :
    Disk.Fits (located root) (Place root table calls) (putIfAbsent root object course s).2.disk ∧
      Left root object course s (putIfAbsent root object course s) := by
  have found : pathFor root object.key = .ok ((normalized object.key).below root) :=
    pathFor_eq_ok.mpr ⟨accepted, rfl⟩
  have place : Place root table calls (placeOf root object.key) := ⟨_, mem, accepted, rfl⟩
  have some_ : placeOf root object.key ≠ [] := fun none =>
    separate.places.base place (none ▸ List.nil_prefix)
  have ways : ∀ p ∈ (placeOf root object.key).dropLast.inits,
      Disk.OnTheWay (located root) (Place root table calls) p :=
    fun p mem => Disk.onTheWay_of_mem place some_ mem
  unfold putIfAbsent
  rw [found]
  dsimp only
  rw [← placeOf]
  cases course with
  | directories made =>
    obtain ⟨-, file, fits'⟩ := Disk.Fits.makeDirectories separate.places
      (fun p mem => ways p (List.mem_of_mem_take mem)) fits
    exact ⟨fits', .same file rfl fun count stops came => by cases came⟩
  | bytes count stops =>
    obtain ⟨done, file, fits'⟩ := Disk.Fits.makeDirectories separate.places ways fits
    dsimp only
    rw [if_neg (by simp [done])]
    have directory := fits'.no_directory separate.places place
    by_cases free : s.disk.file (placeOf root object.key) = none
    · rw [if_neg (by simp [Disk.occupied, file, free, directory])]
      have wrote := (fits'.write place []).write place (object.bytes.take count)
      have files : (((s.disk.makeDirectories (placeOf root object.key).dropLast.inits).1.write
          (placeOf root object.key) []).write (placeOf root object.key)
            (object.bytes.take count)).file =
          Function.update s.disk.file (placeOf root object.key)
            (some (object.bytes.take count)) := by
        simp only [Disk.write, file, Function.update_idem]
      cases stops with
      | false => exact ⟨wrote, .made count false rfl free files rfl⟩
      | true => exact ⟨wrote, .made count true rfl free files rfl⟩
    · rw [if_pos (by simp [Disk.occupied, file, Option.isSome_iff_ne_none.mpr free])]
      exact ⟨fits', .same file rfl fun _ _ _ => free⟩

theorem putIfAbsent_refused {object : StoredObject} (refused : ¬Accepted root object.key)
    (course : Course) (s : Store) : (putIfAbsent root object course s).2 = s := by
  unfold putIfAbsent
  cases found : pathFor root object.key with
  | error error => rfl
  | ok names => exact (refused (pathFor_eq_ok.mp found).1).elim

/-- The job leaves the store alone or puts what it offers. -/
theorem runReceiptGenerate_leaves (id : Text) (moment : Nat) (course : Course) (s : Store) :
    (runReceiptGenerate sha256 render root table id moment course s).2 = s ∨
      ∃ object, (Call.generate id moment course).Offers render table object course ∧
        (runReceiptGenerate sha256 render root table id moment course s).2 =
          (putIfAbsent root object course s).2 := by
  unfold runReceiptGenerate
  split
  · exact .inl rfl
  · rename_i r known
    split
    · exact .inl rfl
    · exact .inl rfl
    · split
      · exact .inl rfl
      · rename_i document parsed
        dsimp only
        split
        · exact .inl rfl
        · exact .inl rfl
        · refine .inr ⟨⟨r.pdfObjectKey, render ⟨r.kind, document⟩ r.contentHash moment, pdf⟩,
            ⟨r, _, known, ?_, rfl, rfl⟩, ?_⟩
          · rw [printing, parsed]
            rfl
          · split <;> rename_i put <;> rw [put]

/-! ### What is stored -/

/-- The disk and the puts that have created their files agree. -/
structure Sound (render : CanonicalArtifact N → Text → Nat → Bytes) (root : Path Text)
    (table : ArtifactTable) (calls : List Call) (s : Store) : Prop where
  fits : Disk.Fits (located root) (Place root table calls) s.disk
  stored : ∀ {key bytes}, (key, bytes) ∈ s.created → s.disk.file (placeOf root key) = some bytes
  once : (s.created.map Prod.fst).Nodup
  known : ∀ {key}, key ∈ keysOf table calls → Accepted root key →
    s.disk.file (placeOf root key) ≠ none → key ∈ s.created.map Prod.fst
  printed : ∀ {key bytes}, (key, bytes) ∈ s.created → ∀ id r, table.row id = some r →
    r.pdfObjectKey = key → Printed render r bytes

theorem sound_new : Sound render root table calls (Store.new root) where
  fits := ⟨fun file => (by cases file), fun directory => .inl (List.isPrefixOf_iff_prefix.mp directory)⟩
  stored := fun mem => by cases mem
  once := List.nodup_nil
  known := fun _ _ file => (file rfl).elim
  printed := fun mem => by cases mem

theorem Sound.left {s : Store} (separate : Separate root table calls)
    (sound : Sound render root table calls s) {object : StoredObject} {course : Course}
    (mem : object.key ∈ keysOf table calls) (accepted : Accepted root object.key)
    (whole : ∀ count stops, course = .bytes count stops →
      s.disk.file (placeOf root object.key) = none → object.bytes.length ≤ count)
    (printing : ∀ id r, table.row id = some r → r.pdfObjectKey = object.key →
      Printed render r object.bytes) :
    Sound render root table calls (putIfAbsent root object course s).2 := by
  obtain ⟨fits, left⟩ := putIfAbsent_left separate mem accepted course sound.fits
  generalize putIfAbsent root object course s = put at fits left ⊢
  cases left with
  | same file created _ =>
    refine ⟨fits, ?_, ?_, ?_, ?_⟩
    · rw [file, created]
      exact sound.stored
    · rw [created]
      exact sound.once
    · rw [file, created]
      exact sound.known
    · rw [created]
      exact sound.printed
  | made count stops came free file created =>
    have fresh : ∀ {key bytes}, (key, bytes) ∈ s.created →
        placeOf root key ≠ placeOf root object.key := fun before same => by
      have held := sound.stored before
      rw [same, free] at held
      cases held
    refine ⟨fits, ?_, ?_, ?_, ?_⟩
    · rw [file, created]
      intro key bytes either
      rcases List.mem_cons.mp either with same | before
      · cases same
        rw [Function.update_self, List.take_of_length_le (whole count stops came free)]
      · rw [Function.update_of_ne (fresh before)]
        exact sound.stored before
    · rw [created, List.map_cons]
      refine List.nodup_cons.mpr ⟨fun again => ?_, sound.once⟩
      obtain ⟨⟨key, bytes⟩, before, same⟩ := List.mem_map.mp again
      exact fresh before (congrArg (placeOf root) same)
    · rw [file, created]
      intro key mem' accepted' held
      rw [List.map_cons, List.mem_cons]
      by_cases same : placeOf root key = placeOf root object.key
      · exact .inl (separate.key_eq mem' mem accepted' accepted same)
      · rw [Function.update_of_ne same] at held
        exact .inr (sound.known mem' accepted' held)
    · rw [created]
      intro key bytes either
      rcases List.mem_cons.mp either with same | before
      · cases same
        exact printing
      · exact sound.printed before

theorem mem_keysOf {call : Call} (mem : call ∈ calls) {key : Text} (is : key ∈ call.keys table) :
    key ∈ keysOf table calls :=
  List.mem_flatMap.mpr ⟨call, mem, is⟩

/-- Every step of a run keeps the disk and the puts agreed. -/
theorem Sound.step {s : Store} (separate : Separate root table calls)
    (sound : Sound render root table calls s) {call : Call} (mem : call ∈ calls)
    (unbroken : Unbroken render root table s call) :
    Sound render root table calls (step sha256 render root table s call) := by
  cases call with
  | put object course =>
    by_cases accepted : Accepted root object.key
    · refine sound.left separate (mem_keysOf mem (List.mem_singleton_self _)) accepted ?_ ?_
      · rintro count stops rfl
        exact unbroken object count stops ⟨rfl, rfl⟩
      · intro id r known same
        exact (separate.reserved object course mem id r known same).elim
    · rw [ArtifactStore.step, putIfAbsent_refused accepted]
      exact sound
  | get key => exact sound
  | generate id moment course =>
    rw [ArtifactStore.step]
    rcases @runReceiptGenerate_leaves _ _ sha256 render root table id moment course s with
      same | ⟨object, offers, same⟩
    · rw [same]
      exact sound
    · rw [same]
      obtain ⟨r, bytes, known, prints, rfl, -⟩ := offers
      by_cases accepted : Accepted root r.pdfObjectKey
      · refine sound.left separate (mem_keysOf mem ?_) accepted ?_ ?_
        · simp [Call.keys, known]
        · rintro count stops rfl
          exact unbroken _ count stops ⟨r, bytes, known, prints, rfl, rfl⟩
        · intro id' r' known' same
          rw [table.unique known' known same]
          exact ⟨moment, prints⟩
      · rw [putIfAbsent_refused accepted]
        exact sound

theorem sound_run (separate : Separate root table calls) {later : List Call} {s : Store}
    (inside : ∀ call ∈ later, call ∈ calls) (sound : Sound render root table calls s)
    (unbroken : Along (step sha256 render root table) (Unbroken render root table) s later) :
    Sound render root table calls (run (step sha256 render root table) s later) := by
  induction later generalizing s with
  | nil => exact sound
  | cons call rest ih =>
    exact ih (fun call mem => inside call (List.mem_cons_of_mem _ mem))
      (sound.step separate (inside call List.mem_cons_self) unbroken.1) unbroken.2

/-! ### What is read -/

theorem Sound.get_eq {s : Store} (separate : Separate root table calls)
    (sound : Sound render root table calls s) {key : Text} (mem : key ∈ keysOf table calls)
    (accepted : Accepted root key) :
    get root key s = .ok ((s.disk.file (placeOf root key)).map fun bytes =>
      ⟨key, bytes, (s.written.lookup key).getD pdf⟩) := by
  have place : Place root table calls (placeOf root key) := ⟨key, mem, accepted, rfl⟩
  rw [get, pathFor_eq_ok.mpr ⟨accepted, rfl⟩]
  dsimp only
  rw [← placeOf, sound.fits.read_place separate.places place]
  cases s.disk.file (placeOf root key) <;> rfl

theorem Sound.created_of_file {s : Store} (sound : Sound render root table calls s) {key : Text}
    (mem : key ∈ keysOf table calls) (accepted : Accepted root key) {bytes : Bytes}
    (file : s.disk.file (placeOf root key) = some bytes) : (key, bytes) ∈ s.created := by
  have known := sound.known mem accepted (by rw [file]; exact Option.some_ne_none _)
  obtain ⟨⟨key', bytes'⟩, before, rfl⟩ := List.mem_map.mp known
  have same := (sound.stored before).symm.trans file
  exact Option.some.inj same ▸ before

/-- The store is crash-safe for the keys of the run: what is accepted lies beneath the prefix, what
is read is nothing or what the one put that created the file was given, and the job run again
without a stop leaves a whole printing of the artifact. -/
structure CrashSafe (sha256 : Text → Text) (render : CanonicalArtifact N → Text → Nat → Bytes)
    (root : Path Text) (table : ArtifactTable) (calls : List Call) (s : Store) : Prop where
  beneath : ∀ key ∈ keysOf table calls, ∀ path, pathFor root key = .ok path →
    ∃ rest, rest ≠ [] ∧ path = root ++ receipts :: rest
  exact : ∀ key ∈ keysOf table calls, ∀ path, pathFor root key = .ok path →
    get root key s = .ok none ∨ ∃ bytes contentType,
      get root key s = .ok (some ⟨key, bytes, contentType⟩) ∧
        s.created.filter (fun put => put.1 = key) = [(key, bytes)]
  complete : ∀ id r, table.row id = some r → Intact N sha256 r →
    (∃ moment course, .generate id moment course ∈ calls) →
    ∀ moment count, (∀ bytes, printing render r moment = some bytes → bytes.length ≤ count) →
      ∃ rendered s' bytes contentType,
        runReceiptGenerate sha256 render root table id moment (.bytes count false) s =
            (.returned (.ok r.id r.pdfObjectKey rendered), s') ∧
          get root r.pdfObjectKey s' = .ok (some ⟨r.pdfObjectKey, bytes, contentType⟩) ∧
          Printed render r bytes

theorem Separate.beneath (separate : Separate root table calls) {key : Text}
    (mem : key ∈ keysOf table calls) {path : Path Text} (found : pathFor root key = .ok path) :
    ∃ rest, rest ≠ [] ∧ path = root ++ receipts :: rest := by
  obtain ⟨accepted, rfl⟩ := pathFor_eq_ok.mp found
  obtain ⟨rest, some_, is⟩ := separate.kept key mem accepted
  exact ⟨rest, some_, below_of_zero is⟩

theorem Sound.exact {s : Store} (separate : Separate root table calls)
    (sound : Sound render root table calls s) {key : Text} (mem : key ∈ keysOf table calls)
    (accepted : Accepted root key) :
    get root key s = .ok none ∨ ∃ bytes contentType,
      get root key s = .ok (some ⟨key, bytes, contentType⟩) ∧
        s.created.filter (fun put => put.1 = key) = [(key, bytes)] := by
  rw [sound.get_eq separate mem accepted]
  cases file : s.disk.file (placeOf root key) with
  | none => exact .inl rfl
  | some bytes =>
    refine .inr ⟨bytes, _, rfl, ?_⟩
    exact Table.filter_key_eq_singleton sound.once (sound.created_of_file mem accepted file)

/-- The job run again without a stop leaves a whole printing. -/
theorem Sound.complete {s : Store} (separate : Separate root table calls)
    (sound : Sound render root table calls s) {id : Text} {r : PrintedRow}
    (known : table.row id = some r) (intact : Intact N sha256 r)
    (mem : r.pdfObjectKey ∈ keysOf table calls) {moment count : Nat}
    (whole : ∀ bytes, printing render r moment = some bytes → bytes.length ≤ count) :
    ∃ rendered s' bytes contentType,
      runReceiptGenerate sha256 render root table id moment (.bytes count false) s =
          (.returned (.ok r.id r.pdfObjectKey rendered), s') ∧
        get root r.pdfObjectKey s' = .ok (some ⟨r.pdfObjectKey, bytes, contentType⟩) ∧
        Printed render r bytes := by
  have accepted : Accepted root r.pdfObjectKey := by
    rw [(table.named known).2]
    exact (kept_artifactObjectKey _ (table.plain known)).accepted separate.rooted
      (prefix_artifactObjectKey _ _)
  have read := sound.get_eq separate mem accepted
  unfold runReceiptGenerate
  rw [known]
  dsimp only
  cases file : s.disk.file (placeOf root r.pdfObjectKey) with
  | some bytes =>
    rw [file] at read
    refine ⟨false, s, bytes, _, ?_, read, ?_⟩
    · rw [read]
      rfl
    · exact sound.printed (sound.created_of_file mem accepted file) id r known rfl
  | none =>
    obtain ⟨document, parsed, verified⟩ := intact
    rw [file] at read
    rw [read, parsed]
    dsimp only [Option.map_none]
    rw [verified]
    dsimp only
    have prints : printing render r moment =
        some (render ⟨r.kind, document⟩ r.contentHash moment) := by
      rw [printing, parsed]
      rfl
    have after : Sound render root table calls (putIfAbsent root ⟨r.pdfObjectKey, _, pdf⟩
        (.bytes count false) s).2 := sound.left separate mem accepted
      (fun _ _ came _ => by cases came; exact whole _ prints)
      (fun id' r' known' same => by rw [table.unique known' known same]; exact ⟨moment, prints⟩)
    have left : Left root ⟨r.pdfObjectKey, render ⟨r.kind, document⟩ r.contentHash moment, pdf⟩
        (.bytes count false) s _ := (putIfAbsent_left separate mem accepted _ sound.fits).2
    revert after left
    generalize putIfAbsent root ⟨r.pdfObjectKey, render ⟨r.kind, document⟩ r.contentHash moment,
      pdf⟩ (.bytes count false) s = put
    intro after left
    cases left with
    | same file' created held => exact (held count false rfl file).elim
    | made count' stops came free file' created =>
      cases came
      have now := after.get_eq separate mem accepted
      have stored := after.stored (created ▸ List.mem_cons_self)
      rw [stored] at now
      exact ⟨true, _, _, _, rfl, now, ⟨moment, prints⟩⟩

end Runs

/-! ### One receipt, for example -/

def receiptId : Text := ofString "rcpt_1"

/-- A receipt with an empty document. -/
def storedReceipt : PrintedRow where
  id := receiptId
  kind := .settlementReceipt
  settlementId := ofString "stl_1"
  receiptId := none
  sourceContentHash := none
  canonicalBytes := ofString "\x7b\x7d"
  contentHash := ofString "sha256:00"
  createdAt := 0
  pdfObjectKey := artifactObjectKey .settlementReceipt receiptId

def oneReceipt : ArtifactTable where
  row id := if id = receiptId then some storedReceipt else none
  plain := by
    intro id r known
    split at known
    · rename_i same
      rw [same]
      decide
    · cases known
  named := by
    intro id r known
    split at known
    · rename_i same
      cases known
      exact ⟨same.symm, same ▸ rfl⟩
    · cases known
  unique := by
    intro id id' r r' known known' _
    split at known <;> split at known'
    · exact Option.some.inj (known.symm.trans known')
    · cases known'
    · cases known
    · cases known

def zeros (_ : Text) : Text := ofString "00"

/-- Every printing is the beginning of one. -/
def header (_ : CanonicalArtifact Literal) (_ : Text) (_ : Nat) : Bytes := [37, 80, 68, 70]

def artifactsRoot : Path Text := [ofString "var", ofString "artifacts"]

/-- The job stops after it has made the directories, and is run twice more. -/
def resumed : List Call :=
  [.generate receiptId 0 (.directories 2), .get storedReceipt.pdfObjectKey,
    .generate receiptId 1 (.bytes 4 false), .generate receiptId 2 (.bytes 4 false)]

/-- The job stops as soon as it has created the file. -/
def interrupted : List Call := [.generate receiptId 0 (.bytes 0 true)]

theorem keysOf_resumed : ∀ key ∈ keysOf oneReceipt resumed, key = storedReceipt.pdfObjectKey := by
  simp [keysOf, resumed, Call.keys, oneReceipt]

theorem separate_resumed : Separate artifactsRoot oneReceipt resumed where
  rooted := List.cons_ne_nil _ _
  kept key mem _ := keysOf_resumed key mem ▸ kept_artifactObjectKey _ (by decide)
  apart key mem key' mem' _ _ _ := (keysOf_resumed key mem).trans (keysOf_resumed key' mem').symm
  reserved object course put := by simp [resumed] at put

end InrSettle.ArtifactStore
