import Mathlib

/-!
# Paths and a disk

A path is the list of the names on it. Segments are followed from a directory or brought into
normal form; a disk holds files and directories, and the places kept for files are apart if none
lies on the way to another.
-/

namespace Files

universe u v
variable {ν : Type u} {β : Type v}

abbrev Path (ν : Type u) := List ν

/-! ### Segments -/

inductive Segment (ν : Type u) where
  | here
  | up
  | name (n : ν)
  deriving DecidableEq

/-- A path in normal form: so many directories up, and then down. -/
@[ext] structure Relative (ν : Type u) where
  ups : Nat
  names : Path ν
  deriving DecidableEq

def Relative.push (r : Relative ν) : Segment ν → Relative ν
  | .here => r
  | .name n => { r with names := r.names ++ [n] }
  | .up => if r.names = [] then { r with ups := r.ups + 1 } else { r with names := r.names.dropLast }

/-- The normal form of a relative path. -/
def normalize (segments : List (Segment ν)) : Relative ν :=
  segments.foldl Relative.push ⟨0, []⟩

/-- The path a normal form leads to from a directory; above the root is the root. -/
def Relative.below (r : Relative ν) (directory : Path ν) : Path ν :=
  directory.take (directory.length - r.ups) ++ r.names

/-- One segment followed. -/
def enter (path : Path ν) : Segment ν → Path ν
  | .here => path
  | .name n => path ++ [n]
  | .up => path.dropLast

/-- Segments followed one by one. -/
def follow (path : Path ν) (segments : List (Segment ν)) : Path ν :=
  segments.foldl enter path

theorem below_push (r : Relative ν) (directory : Path ν) (segment : Segment ν) :
    (r.push segment).below directory = enter (r.below directory) segment := by
  cases segment with
  | here => rfl
  | name n => simp [Relative.push, Relative.below, enter]
  | up =>
    by_cases none : r.names = []
    · simp only [Relative.push, Relative.below, enter, none, if_pos, List.append_nil]
      rw [List.dropLast_eq_take, List.take_take, List.length_take]
      congr 1
      omega
    · simp only [Relative.push, Relative.below, enter, none, if_false]
      rw [List.dropLast_append_of_ne_nil none]

/-- The normal form leads where its segments do. -/
theorem below_normalize (segments : List (Segment ν)) (directory : Path ν) :
    (normalize segments).below directory = follow directory segments := by
  suffices general : ∀ r : Relative ν,
      (segments.foldl Relative.push r).below directory = follow (r.below directory) segments by
    rw [normalize, general ⟨0, []⟩, Relative.below, Nat.sub_zero, List.take_length, List.append_nil]
  induction segments with
  | nil => exact fun r => rfl
  | cons segment rest ih =>
    intro r
    rw [List.foldl_cons, ih, below_push]
    rfl

/-! ### Disks -/

structure Disk (ν : Type u) (β : Type v) where
  file : Path ν → Option β
  directory : Path ν → Bool

inductive DiskError where
  | isDirectory | notDirectory
  deriving DecidableEq

namespace Disk

def occupied (d : Disk ν β) (p : Path ν) : Bool := (d.file p).isSome || d.directory p

/-- The contents of a file, nothing where there is none. -/
def read (d : Disk ν β) (p : Path ν) : Except DiskError (Option β) :=
  match d.file p with
  | some contents => .ok (some contents)
  | none =>
    if d.directory p then .error .isDirectory
    else if p.inits.any fun q => (d.file q).isSome then .error .notDirectory
    else .ok none

/-! ### Places kept for files -/

/-- No place is on the way to another, or on the way to the base. -/
structure Apart (base : Path ν) (place : Path ν → Prop) : Prop where
  each : ∀ {p q}, place p → place q → p <+: q → p = q
  base : ∀ {p}, place p → ¬p <+: base

/-- A directory on the way to the base or to a place. -/
def OnTheWay (base : Path ν) (place : Path ν → Prop) (p : Path ν) : Prop :=
  p <+: base ∨ ∃ q, place q ∧ p <+: q ∧ p ≠ q

/-- Files are at places, and directories on the way to them. -/
structure Fits (base : Path ν) (place : Path ν → Prop) (d : Disk ν β) : Prop where
  files : ∀ {p}, (d.file p).isSome → place p
  directories : ∀ {p}, d.directory p = true → OnTheWay base place p

variable {base : Path ν} {place : Path ν → Prop} {d : Disk ν β}

theorem Apart.not_onTheWay (apart : Apart base place) {p : Path ν} (kept : place p) :
    ¬OnTheWay base place p := by
  rintro (onBase | ⟨q, other, before, differs⟩)
  · exact apart.base kept onBase
  · exact differs (apart.each kept other before)

theorem Fits.no_directory (fits : Fits base place d) (apart : Apart base place) {p : Path ν}
    (kept : place p) : d.directory p = false :=
  Bool.eq_false_iff.mpr fun directory => apart.not_onTheWay kept (fits.directories directory)

theorem Fits.no_file (fits : Fits base place d) (apart : Apart base place) {p : Path ν}
    (way : OnTheWay base place p) : (d.file p).isSome = false :=
  Bool.eq_false_iff.mpr fun file => apart.not_onTheWay (fits.files file) way

/-- A place is read as it was written. -/
theorem Fits.read_place (fits : Fits base place d) (apart : Apart base place) {p : Path ν}
    (kept : place p) : d.read p = .ok (d.file p) := by
  rw [read]
  split
  · rename_i contents found
    rw [found]
  · rename_i none
    rw [fits.no_directory apart kept, none, if_neg Bool.false_ne_true, if_neg]
    intro any
    obtain ⟨q, mem, file⟩ := List.any_eq_true.mp any
    have same := apart.each (fits.files file) kept ((List.mem_inits _ _).mp mem)
    rw [same, none] at file
    cases file

/-- What lies on the way to a place, its own directory included. -/
theorem onTheWay_of_mem {p q : Path ν} (kept : place p) (some : p ≠ [])
    (mem : q ∈ p.dropLast.inits) : OnTheWay base place q := by
  have before := (List.mem_inits _ _).mp mem
  refine .inr ⟨p, kept, before.trans (List.dropLast_prefix p), fun same => ?_⟩
  have shorter := before.length_le
  rw [same, List.length_dropLast] at shorter
  have := List.length_pos_iff.mpr some
  omega

/-! ### Making and writing -/

section Write

variable [DecidableEq ν]

/-- The directories are made one after another, until one of them is a file. -/
def makeDirectories (d : Disk ν β) : List (Path ν) → Disk ν β × Bool
  | [] => (d, true)
  | p :: rest =>
    if (d.file p).isSome then (d, false)
    else makeDirectories { d with directory := Function.update d.directory p true } rest

/-- The file has these contents from now on. -/
def write (d : Disk ν β) (p : Path ν) (contents : β) : Disk ν β :=
  { d with file := Function.update d.file p (some contents) }

theorem write_file_of_ne (d : Disk ν β) {p q : Path ν} (contents : β) (other : q ≠ p) :
    (d.write p contents).file q = d.file q :=
  Function.update_of_ne other ..

/-- Directories on the way are made, whatever is there, and the files are left alone. -/
theorem Fits.makeDirectories (apart : Apart base place) {ps : List (Path ν)}
    (ways : ∀ p ∈ ps, OnTheWay base place p) (fits : Fits base place d) :
    (d.makeDirectories ps).2 = true ∧ (d.makeDirectories ps).1.file = d.file ∧
      Fits base place (d.makeDirectories ps).1 := by
  induction ps generalizing d with
  | nil => exact ⟨rfl, rfl, fits⟩
  | cons p rest ih =>
    have way := ways p List.mem_cons_self
    rw [Disk.makeDirectories, fits.no_file apart way, if_neg Bool.false_ne_true]
    refine ih (fun q mem => ways q (List.mem_cons_of_mem _ mem)) ⟨fits.files, fun {q} directory => ?_⟩
    by_cases same : q = p
    · exact same ▸ way
    · exact fits.directories ((Function.update_of_ne same true d.directory).symm.trans directory)

theorem Fits.write (fits : Fits base place d) {p : Path ν} (kept : place p) (contents : β) :
    Fits base place (d.write p contents) := by
  refine ⟨fun {q} file => ?_, fits.directories⟩
  by_cases same : q = p
  · exact same ▸ kept
  · rw [write_file_of_ne d contents same] at file
    exact fits.files file

end Write

end Disk

end Files
