import InrSettle.Library.Files
import InrSettle.Library.JsBytes
import InrSettle.Domain.Artifact

/-!
# The store of printed artifacts

A write-once store on the filesystem and the job that prints an artifact into it. Creating a file
and writing it are two steps, and a call may end between any two of its own.
-/

namespace InrSettle.ArtifactStore

open Js Js.NumberFormat Files

variable {N : Type} [Js.NumberFormat N]

/-! ### Keys and paths -/

/-- `ARTIFACT_PREFIX`. -/
def artifactPrefix : Text := ofString "receipts/"

def artifactObjectKey (kind : ArtifactKind) (artifactId : Text) : Text :=
  artifactPrefix ++ ofString kind.wire ++ unit '/' :: artifactId ++ ofString ".pdf"

def segmentOf (segment : Text) : Segment Text :=
  if segment = [] ∨ segment = ofString "." then .here
  else if segment = ofString ".." then .up
  else .name segment

def segmentsOf (key : Text) : List (Segment Text) := (key.splitOn (unit '/')).map segmentOf

/-- `normalize`: nothing lies above the root an absolute key begins with. -/
def normalized (key : Text) : Relative Text :=
  if key.head? = some (unit '/') then { normalize (segmentsOf key) with ups := 0 }
  else normalize (segmentsOf key)

inductive StoreError where
  | message (text : Text)
  | disk (error : DiskError)
  | unreadable
  | type (error : TypeError)
  deriving DecidableEq

def resolvesOutside (key : Text) : StoreError :=
  .message (ofString "artifact key " ++ key ++ ofString " resolves outside the store root")

def outsideThePrefix (key : Text) : StoreError :=
  .message (ofString "artifact key " ++ key ++ ofString " is outside the " ++ artifactPrefix ++
    ofString " prefix")

/-- The path is the root or begins with the root and a separator; a root that is the separator
itself begins nothing so. -/
def Within (root path : Path Text) : Prop := path = root ∨ root ≠ [] ∧ root <+: path

instance (root path : Path Text) : Decidable (Within root path) :=
  inferInstanceAs (Decidable (_ ∨ _))

def pathFor (root : Path Text) (key : Text) : Except StoreError (Path Text) :=
  let full := (normalized key).below root
  if ¬Within root full then .error (resolvesOutside key)
  else if ¬artifactPrefix <+: key then .error (outsideThePrefix key)
  else .ok full

/-- The names as the filesystem has them. -/
def located (path : Path Text) : Path Bytes := path.map utf8

/-! ### Putting and getting -/

structure StoredObject where
  key : Text
  bytes : Bytes
  contentType : Text
  deriving DecidableEq

inductive PutResult where
  | ok (key : Text) (bytes : Nat)
  | alreadyExists
  deriving DecidableEq

def PutResult.isOk : PutResult → Bool
  | ok .. => true
  | alreadyExists => false

/-- The disk, the content types this process has written, and the puts that have created their
file with what they were to write. -/
structure Store where
  disk : Disk Bytes Bytes
  written : List (Text × Text)
  created : List (Text × Bytes)

inductive Answer (α : Type) where
  | returned (a : α)
  | threw (error : StoreError)
  | stopped
  deriving DecidableEq

/-- How far a put comes: it stops when so many directories are there, or creates its file, writes so
many bytes and then stops or returns. -/
inductive Course where
  | directories (made : Nat)
  | bytes (count : Nat) (stops : Bool)
  deriving DecidableEq

section Calls

variable (root : Path Text)

def putIfAbsent (object : StoredObject) (course : Course) (s : Store) : Answer PutResult × Store :=
  match pathFor root object.key with
  | .error error => (.threw error, s)
  | .ok names =>
    let path := located names
    let ways := path.dropLast.inits
    match course with
    | .directories made =>
      (.stopped, { s with disk := (s.disk.makeDirectories (ways.take made)).1, written := [] })
    | .bytes count stops =>
      let made := s.disk.makeDirectories ways
      if made.2 = false then (.threw (.disk .notDirectory), { s with disk := made.1 })
      else if made.1.occupied path then (.returned .alreadyExists, { s with disk := made.1 })
      else
        let disk := (made.1.write path []).write path (object.bytes.take count)
        let created := (object.key, object.bytes) :: s.created
        if stops then (.stopped, ⟨disk, [], created⟩)
        else
          (.returned (.ok object.key object.bytes.length),
            ⟨disk, (object.key, object.contentType) :: s.written, created⟩)

def pdf : Text := ofString "application/pdf"

def get (key : Text) (s : Store) : Except StoreError (Option StoredObject) :=
  match pathFor root key with
  | .error error => .error error
  | .ok names =>
    match s.disk.read (located names) with
    | .error error => .error (.disk error)
    | .ok none => .ok none
    | .ok (some bytes) => .ok (some ⟨key, bytes, (s.written.lookup key).getD pdf⟩)

end Calls

/-! ### The job -/

structure PrintedRow extends ArtifactRow where
  pdfObjectKey : Text

/-- The rows of `financial_artifacts`, each under the key its id gives it and no two under one
key; an id has no separator in it. -/
structure ArtifactTable where
  row : Text → Option PrintedRow
  plain : ∀ {id r}, row id = some r → unit '/' ∉ id
  named : ∀ {id r}, row id = some r → r.id = id ∧ r.pdfObjectKey = artifactObjectKey r.kind id
  unique : ∀ {id id' r r'}, row id = some r → row id' = some r' →
    r.pdfObjectKey = r'.pdfObjectKey → r = r'

inductive GenerateResult where
  | ok (artifactId pdfObjectKey : Text) (rendered : Bool)
  | artifactNotFound
  | artifactBytesDoNotMatchHash (artifactId storedHash : Text)
  deriving DecidableEq

section Job

variable (sha256 : Text → Text)
  -- what a browser prints of an artifact and its hash at a moment
  (render : CanonicalArtifact N → Text → Nat → Bytes)
  (root : Path Text) (table : ArtifactTable)

def runReceiptGenerate (artifactId : Text) (moment : Nat) (course : Course) (s : Store) :
    Answer GenerateResult × Store :=
  match table.row artifactId with
  | none => (.returned .artifactNotFound, s)
  | some row =>
    match get root row.pdfObjectKey s with
    | .error error => (.threw error, s)
    | .ok (some _) => (.returned (.ok row.id row.pdfObjectKey false), s)
    | .ok none =>
      match (parseJson row.canonicalBytes : Option (Value N)) with
      | none => (.threw .unreadable, s)
      | some document =>
        let artifact : CanonicalArtifact N := ⟨row.kind, document⟩
        match verifyContentHash sha256 artifact row.contentHash with
        | .error error => (.threw (.type error), s)
        | .ok false => (.returned (.artifactBytesDoNotMatchHash row.id row.contentHash), s)
        | .ok true =>
          let object := ⟨row.pdfObjectKey, render artifact row.contentHash moment, pdf⟩
          match putIfAbsent root object course s with
          | (.returned put, s') => (.returned (.ok row.id row.pdfObjectKey put.isOk), s')
          | (.threw error, s') => (.threw error, s')
          | (.stopped, s') => (.stopped, s')

/-! ### Runs -/

inductive Call where
  | put (object : StoredObject) (course : Course)
  | get (key : Text)
  | generate (artifactId : Text) (moment : Nat) (course : Course)

def step (s : Store) : Call → Store
  | .put object course => (putIfAbsent root object course s).2
  | .get _ => s
  | .generate artifactId moment course =>
    (runReceiptGenerate sha256 render root table artifactId moment course s).2

end Job

/-- A new store: its root and what lies above it. -/
def Store.new (root : Path Text) : Store where
  disk := ⟨fun _ => none, fun p => p.isPrefixOf (located root)⟩
  written := []
  created := []

end InrSettle.ArtifactStore
