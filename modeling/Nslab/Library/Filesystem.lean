import Mathlib.Algebra.GroupWithZero.Nat
import Mathlib.Algebra.Order.BigOperators.Group.List
import Mathlib.Algebra.Order.Group.Nat
import Nslab.Library.Checks
import Nslab.Library.Dict

/-! A filesystem as trees of named entries, one below each root. Every entry but a
root lies in a directory, whatever is done to the trees. -/

namespace Nslab

/-- A root, or a name in a directory. -/
inductive Location (ρ : Type) where
  | root (tree : ρ)
  | child (directory : Location ρ) (name : String)
deriving DecidableEq

namespace Location

variable {ρ : Type}

def name : Location ρ → String
  | .root _ => ""
  | .child _ name => name

/-- The directory that a location lies in. -/
def parent? : Location ρ → Option (Location ρ)
  | .root _ => none
  | .child directory _ => some directory

variable [DecidableEq ρ]

/-- A location is within another when it is this one or lies below it. -/
def within (outer : Location ρ) : Location ρ → Bool
  | .root tree => outer = .root tree
  | .child directory name => outer = .child directory name || within outer directory

@[simp] theorem within_refl (place : Location ρ) : place.within place = true := by
  cases place <;> simp [within]

theorem within_child {outer directory : Location ρ} (inside : outer.within directory = true) (name : String) :
    outer.within (.child directory name) = true := by
  simp [within, inside]

theorem within_trans {first second third : Location ρ} (left : first.within second = true) (right : second.within third = true) :
    first.within third = true := by
  induction third with
  | root tree =>
    obtain rfl : second = .root tree := by simpa [within] using right
    exact left
  | child directory name ih =>
    simp only [within, Bool.or_eq_true, decide_eq_true_eq] at right
    cases right with
    | inl same => exact same ▸ left
    | inr inside => exact within_child (ih inside) name

/-- Of two locations that enclose a third one encloses the other. -/
theorem within_or_within {first second place : Location ρ} (left : first.within place = true) (right : second.within place = true) :
    first.within second = true ∨ second.within first = true := by
  induction place with
  | root tree =>
    obtain rfl : first = .root tree := by simpa [within] using left
    obtain rfl : second = .root tree := by simpa [within] using right
    exact .inl (within_refl _)
  | child directory name ih =>
    by_cases first = .child directory name
    next same =>
      subst same
      exact .inr right
    next other =>
      by_cases second = .child directory name
      next same =>
        subst same
        exact .inl left
      next another =>
        simp only [within, other, another, decide_false, Bool.false_or] at left right
        exact ih left right

/-- What is within the child of a directory is within the directory. -/
theorem within_of_child {directory place : Location ρ} {name : String} (inside : (Location.child directory name).within place = true) :
    directory.within place = true :=
  within_trans (within_child (within_refl directory) name) inside

/-- No location lies below itself. -/
theorem not_within_above (directory : Location ρ) (name : String) : (Location.child directory name).within directory = false := by
  have deeper : ∀ outer place : Location ρ, outer.within place = true → sizeOf outer ≤ sizeOf place := by
    intro outer place inside
    induction place with
    | root tree => rw [show outer = .root tree by simpa [within] using inside]
    | child above other ih =>
      simp only [within, Bool.or_eq_true, decide_eq_true_eq] at inside
      cases inside with
      | inl same => rw [same]
      | inr inside =>
        have bound := ih inside
        simp only [child.sizeOf_spec]
        omega
  rw [Bool.eq_false_iff]
  intro inside
  have bound := deeper _ _ inside
  simp only [child.sizeOf_spec] at bound
  omega

theorem child_ne (directory : Location ρ) (name : String) : Location.child directory name ≠ directory := by
  intro same
  have outside := not_within_above directory name
  rw [same, within_refl] at outside
  cases outside

end Location

/-- What a name can stand for. Reading a file gives its text, or fails with the text of an error. -/
inductive Entry (ρ : Type) where
  | file (content : Except String String)
  | directory
  | symlink (target : Location ρ)
  | special
deriving DecidableEq

namespace Entry

variable {ρ : Type}

def isSymlink : Entry ρ → Bool
  | .symlink _ => true
  | _ => false

def isDirectory : Entry ρ → Bool
  | .directory => true
  | _ => false

def isFile : Entry ρ → Bool
  | .file _ => true
  | _ => false

/-- Neither a directory nor a symbolic link. -/
def isPlain (entry : Entry ρ) : Bool := !entry.isDirectory && !entry.isSymlink

end Entry

structure OSError where
  text : String
deriving DecidableEq

structure Filesystem (ρ : Type) [DecidableEq ρ] where
  entries : Dict (Location ρ) (Entry ρ)
  rooted : ∀ directory name, entries.contains (.child directory name) = true → entries.get? directory = some .directory

namespace Filesystem

variable {ρ : Type} [DecidableEq ρ]

def empty : Filesystem ρ where
  entries := Dict.empty
  rooted _ _ listed := nomatch listed

def get? (files : Filesystem ρ) (place : Location ρ) : Option (Entry ρ) := files.entries.get? place

/-- `os.path.lexists`. -/
def lexists (files : Filesystem ρ) (place : Location ρ) : Bool := (files.get? place).isSome

section Queries

def isSymlink (files : Filesystem ρ) (place : Location ρ) : Bool := (files.get? place).any Entry.isSymlink

/-- The entry at the end of at most `count` symbolic links. -/
def follow (files : Filesystem ρ) : Nat → Location ρ → Option (Entry ρ)
  | 0, _ => none
  | count + 1, place => match files.get? place with
    | some (.symlink target) => files.follow count target
    | entry => entry

/-- The number of links that the system follows. -/
def linkLimit : Nat := 40

def exists? (files : Filesystem ρ) (place : Location ρ) : Bool := (files.follow linkLimit place).isSome

def isDir (files : Filesystem ρ) (place : Location ρ) : Bool := (files.follow linkLimit place).any Entry.isDirectory

def isFile (files : Filesystem ρ) (place : Location ρ) : Bool := (files.follow linkLimit place).any Entry.isFile

/-- The names in a directory. -/
def iterdir (files : Filesystem ρ) (directory : Location ρ) : List String :=
  files.entries.keys.filterMap fun
    | .root _ => none
    | .child above name => if above = directory then some name else none

def isAscii (text : String) : Bool := text.toList.all (·.toNat < 128)

/-- The text of a file in UTF-8. -/
def readUtf8 (files : Filesystem ρ) (place : Location ρ) : Except String String :=
  match files.follow linkLimit place with
  | some (.file content) => content
  | some _ => .error "Is a directory"
  | none => .error "No such file or directory"

/-- The text of a file in ASCII. -/
def readAscii (files : Filesystem ρ) (place : Location ρ) : Except String String := do
  let text ← files.readUtf8 place
  if isAscii text then .ok text else .error "ordinal not in range(128)"

theorem lexists_iff {files : Filesystem ρ} {place : Location ρ} :
    files.lexists place = true ↔ ∃ entry, files.get? place = some entry := Option.isSome_iff_exists

theorem lexists_eq_false {files : Filesystem ρ} {place : Location ρ} : files.lexists place = false ↔ files.get? place = none := by
  simp [lexists]

/-- What is no symbolic link is not followed any further. -/
theorem follow_of_plain {files : Filesystem ρ} {place : Location ρ} (plain : files.isSymlink place = false) :
    files.follow linkLimit place = files.get? place := by
  rw [linkLimit, follow]
  cases found : files.get? place with
  | none => rfl
  | some entry =>
    cases entry with
    | symlink target => simp [isSymlink, found, Entry.isSymlink] at plain
    | file content => rfl
    | directory => rfl
    | special => rfl

theorem isDir_of_plain {files : Filesystem ρ} {place : Location ρ} (plain : files.isSymlink place = false) :
    files.isDir place = true ↔ files.get? place = some .directory := by
  rw [isDir, follow_of_plain plain]
  cases found : files.get? place with
  | none => simp
  | some entry => cases entry <;> simp [Entry.isDirectory]

theorem isFile_of_plain {files : Filesystem ρ} {place : Location ρ} (plain : files.isSymlink place = false) :
    files.isFile place = true ↔ ∃ content, files.get? place = some (.file content) := by
  rw [isFile, follow_of_plain plain]
  cases found : files.get? place with
  | none => simp
  | some entry => cases entry <;> simp [Entry.isFile]

theorem readAscii_ok {files : Filesystem ρ} {place : Location ρ} {text : String} (plain : files.isSymlink place = false) :
    files.readAscii place = .ok text ↔ files.get? place = some (.file (.ok text)) ∧ isAscii text = true := by
  have read : files.readUtf8 place = .ok text ↔ files.get? place = some (.file (.ok text)) := by
    rw [readUtf8, follow_of_plain plain]
    cases found : files.get? place with
    | none => simp
    | some entry => cases entry <;> simp
  rw [← read]
  simp only [readAscii, Checks.bind_ok]
  constructor
  · intro given
    obtain ⟨stored, found, same⟩ := given
    split at same
    next ascii =>
      obtain rfl := Except.ok.inj same
      exact ⟨found, ascii⟩
    next => cases same
  · intro given
    obtain ⟨found, ascii⟩ := given
    exact ⟨text, found, if_pos ascii⟩

theorem mem_iterdir {files : Filesystem ρ} {directory : Location ρ} {name : String} :
    name ∈ files.iterdir directory ↔ ∃ entry, files.get? (.child directory name) = some entry := by
  rw [get?, ← Dict.mem_keys_iff, iterdir, List.mem_filterMap]
  constructor
  · intro given
    obtain ⟨place, listed, named⟩ := given
    cases place with
    | root tree => cases named
    | child above other =>
      by_cases same : above = directory
      · simp only [same, if_true, Option.some.injEq] at named
        exact named ▸ same ▸ listed
      · simp [same] at named
  · intro listed
    exact ⟨_, listed, by simp⟩

end Queries

section Changes

/-- A place can be filled when it lies in a directory and is none itself. -/
def Admits (files : Filesystem ρ) (place : Location ρ) : Prop :=
  (∀ directory ∈ place.parent?, files.get? directory = some .directory) ∧ files.get? place ≠ some .directory

instance (files : Filesystem ρ) (place : Location ρ) : Decidable (files.Admits place) := by
  unfold Admits; infer_instance

theorem rooted_get? (files : Filesystem ρ) {directory : Location ρ} {name : String} {entry : Entry ρ}
    (found : files.get? (.child directory name) = some entry) : files.get? directory = some .directory :=
  files.rooted directory name (by rw [Dict.contains]; exact (congrArg Option.isSome found).trans rfl)

/-- What encloses an entry is there too. -/
theorem exists_of_within (files : Filesystem ρ) {outer place : Location ρ} {entry : Entry ρ}
    (found : files.get? place = some entry) (inside : outer.within place = true) : ∃ entry, files.get? outer = some entry := by
  induction place generalizing entry with
  | root tree =>
    obtain rfl : outer = .root tree := by simpa [Location.within] using inside
    exact ⟨entry, found⟩
  | child directory name ih =>
    simp only [Location.within, Bool.or_eq_true, decide_eq_true_eq] at inside
    cases inside with
    | inl same => exact ⟨entry, same ▸ found⟩
    | inr inside => exact ih (files.rooted_get? found) inside

/-- What strictly encloses an entry is a directory. -/
theorem directory_of_within (files : Filesystem ρ) {outer place : Location ρ} {entry : Entry ρ}
    (found : files.get? place = some entry) (inside : outer.within place = true) (strict : place ≠ outer) :
    files.get? outer = some .directory := by
  induction place generalizing entry with
  | root tree =>
    obtain rfl : outer = .root tree := by simpa [Location.within] using inside
    exact absurd rfl strict
  | child directory name ih =>
    simp only [Location.within, Bool.or_eq_true, decide_eq_true_eq] at inside
    cases inside with
    | inl same => exact absurd same.symm strict
    | inr inside =>
      by_cases same : directory = outer
      · exact same ▸ files.rooted_get? found
      · exact ih (files.rooted_get? found) inside same

/-- The entry at a place, if the place can be filled. -/
def place (files : Filesystem ρ) (target : Location ρ) (entry : Entry ρ) : Filesystem ρ :=
  if admits : files.Admits target then
    { entries := files.entries.insert target entry
      rooted := by
        intro directory name listed
        rw [Dict.contains, Dict.get?_insert] at listed
        rw [Dict.get?_insert]
        split at listed
        next same =>
          subst same
          have above := admits.1 directory rfl
          rw [if_neg, ← get?, above]
          intro same
          have smaller := congrArg sizeOf same
          simp only [Location.child.sizeOf_spec] at smaller
          omega
        next =>
          have above : files.get? directory = some .directory := files.rooted directory name listed
          rw [if_neg, ← get?, above]
          intro same
          exact admits.2 (same ▸ above) }
  else files

theorem get?_place (files : Filesystem ρ) (target other : Location ρ) (entry : Entry ρ) :
    (files.place target entry).get? other =
      if other = target ∧ files.Admits target then some entry else files.get? other := by
  unfold place
  by_cases admits : files.Admits target
  · simp only [admits, dif_pos, get?, Dict.get?_insert, and_true]
  · simp only [admits, dif_neg, not_false_eq_true, and_false, if_false]

/-- What remains of the entries within a directory that are not all chosen, and everything outside of it. -/
def prune (files : Filesystem ρ) (directory : Location ρ) (chosen : Location ρ → Bool) : Filesystem ρ where
  entries := files.entries.restrict fun other =>
    !directory.within other || files.entries.keys.any fun below => other.within below && !chosen below
  rooted := by
    intro above name listed
    rw [Dict.contains, Dict.get?_restrict] at listed
    rw [Dict.get?_restrict]
    split at listed
    next kept =>
      have found : files.get? above = some .directory := files.rooted above name listed
      rw [if_pos, ← get?, found]
      simp only [Bool.or_eq_true, Bool.not_eq_true', List.any_eq_true, Bool.and_eq_true] at kept ⊢
      cases kept with
      | inl outside =>
        refine .inl ?_
        rw [Bool.eq_false_iff]
        intro inside
        rw [Location.within_child inside] at outside
        cases outside
      | inr kept =>
        obtain ⟨below, listed, inside, remains⟩ := kept
        exact .inr ⟨below, listed, Location.within_of_child inside, remains⟩
    next => cases listed

/-- The files without a directory and what lies in it. -/
def removeTree (files : Filesystem ρ) (directory : Location ρ) : Filesystem ρ := files.prune directory fun _ => true

theorem get?_removeTree (files : Filesystem ρ) (directory other : Location ρ) :
    (files.removeTree directory).get? other = if directory.within other then none else files.get? other := by
  simp only [removeTree, prune, get?, Dict.get?_restrict]
  cases directory.within other <;> simp

/-- Pruning only removes, and only within the directory. -/
theorem get?_prune (files : Filesystem ρ) (directory other : Location ρ) (chosen : Location ρ → Bool) :
    (files.prune directory chosen).get? other = files.get? other ∨
      (files.prune directory chosen).get? other = none ∧ directory.within other = true := by
  simp only [prune, get?, Dict.get?_restrict]
  by_cases inside : directory.within other = true
  · split
    · exact .inl rfl
    · exact .inr ⟨rfl, inside⟩
  · exact .inl (if_pos (by simp [inside]))

/-- The files without an entry that has nothing below it. -/
def remove (files : Filesystem ρ) (target : Location ρ) : Filesystem ρ :=
  if files.iterdir target = [] then files.removeTree target else files

theorem iterdir_eq_nil {files : Filesystem ρ} {target : Location ρ} (plain : files.get? target ≠ some .directory) :
    files.iterdir target = [] := by
  rw [List.eq_nil_iff_forall_not_mem]
  intro name member
  obtain ⟨entry, found⟩ := mem_iterdir.mp member
  exact plain (files.rooted_get? found)

/-- Removing what is no directory removes nothing else. -/
theorem get?_remove {files : Filesystem ρ} {target : Location ρ} (plain : files.get? target ≠ some .directory) (other : Location ρ) :
    (files.remove target).get? other = if other = target then none else files.get? other := by
  rw [remove, if_pos (iterdir_eq_nil plain), get?_removeTree]
  by_cases same : other = target
  · simp [same]
  · rw [if_neg same]
    split
    next inside =>
      cases found : files.get? other with
      | none => rfl
      | some entry => exact absurd (files.directory_of_within found inside same) plain
    next => rfl

/-- Removing an entry changes no other, unless it is a directory with entries, which stays. -/
theorem get?_remove_other (files : Filesystem ρ) (target other : Location ρ) : (files.remove target).get? other = files.get? other ∨
    (files.remove target).get? other = none ∧ target.within other = true := by
  rw [remove]
  split
  next => exact files.get?_prune target other _
  next => exact .inl rfl

end Changes

section Calls

variable (files : Filesystem ρ)

def missing : OSError := ⟨"No such file or directory"⟩

def obstructed : OSError := ⟨"File exists"⟩

def isADirectory : OSError := ⟨"Is a directory"⟩

def notADirectory : OSError := ⟨"Not a directory"⟩

/-- `path.mkdir(parents=True, exist_ok=True)`. -/
def mkdir : Location ρ → Except OSError (Filesystem ρ)
  | .root tree => match files.get? (.root tree) with
    | some .directory => .ok files
    | some _ => .error obstructed
    | none => .ok (files.place (.root tree) .directory)
  | .child directory name => match files.get? (.child directory name) with
    | some .directory => .ok files
    | some _ => .error obstructed
    | none => do
      let files ← mkdir directory
      .ok (files.place (.child directory name) .directory)

/-- Changing the owner or the mode of what there is. Both are left out of the model. -/
def chmod (target : Location ρ) : Except OSError (Filesystem ρ) := if files.lexists target then .ok files else .error missing

/-- A name that nothing in the directory has, like those of `mkstemp`. -/
def freshName (directory : Location ρ) (start : String) : String :=
  start ++ String.ofList (List.replicate (((files.iterdir directory).map String.length).sum + 1) '_')

theorem freshName_absent (directory : Location ρ) (start : String) :
    files.get? (.child directory (files.freshName directory start)) = none := by
  cases found : files.get? (.child directory (files.freshName directory start)) with
  | none => rfl
  | some entry =>
    have listed := List.mem_map_of_mem (f := String.length) (mem_iterdir.mpr ⟨entry, found⟩)
    have bound := List.le_sum_of_mem listed
    simp only [freshName, String.length_append, String.length_ofList, List.length_replicate] at bound
    omega

theorem getLast?_freshName (directory : Location ρ) (start : String) :
    (files.freshName directory start).toList.getLast? = some '_' := by
  simp [freshName, String.toList_append, List.replicate_succ', ← List.append_assoc]

theorem head?_freshName (directory : Location ρ) {start : String} {first : Char} (begins : start.toList.head? = some first) :
    (files.freshName directory start).toList.head? = some first := by
  rw [freshName, String.toList_append, List.head?_append, begins]
  rfl

/-- `tempfile.mkstemp(prefix=start, dir=directory)`. -/
def mkstemp (directory : Location ρ) (start : String) : Except OSError (Location ρ × Filesystem ρ) :=
  if files.get? directory = some .directory then
    let temporary := Location.child directory (files.freshName directory start)
    .ok (temporary, files.place temporary (.file (.ok "")))
  else .error missing

/-- Writing to an open file. -/
def write (target : Location ρ) (text : String) : Except OSError (Filesystem ρ) :=
  match files.get? target with
  | some (.file _) => .ok (files.place target (.file (.ok text)))
  | _ => .ok files

/-- `os.replace` for a file. -/
def replace (source target : Location ρ) : Except OSError (Filesystem ρ) :=
  match files.get? source with
  | none => .error missing
  | some .directory => .error isADirectory
  | some entry =>
    if files.get? target = some .directory then .error isADirectory
    else if files.Admits target then .ok ((files.place target entry).remove source)
    else .error missing

def unlink (target : Location ρ) : Except OSError (Filesystem ρ) :=
  match files.get? target with
  | none => .error missing
  | some .directory => .error isADirectory
  | some _ => .ok (files.remove target)

/-- Opening a file for appending, or touching it: it is created when it is missing. -/
def openAppend (target : Location ρ) : Except OSError (Filesystem ρ) :=
  match files.get? target with
  | some .directory => .error isADirectory
  | some _ => .ok files
  | none => if files.Admits target then .ok (files.place target (.file (.ok ""))) else .error missing

/-- `shutil.rmtree`. -/
def rmtree (target : Location ρ) : Except OSError (Filesystem ρ) :=
  if files.get? target = some .directory then .ok (files.removeTree target) else .error notADirectory

/-- Making a directory adds directories above it, and changes nothing that is there. -/
theorem mkdir_spec {files : Filesystem ρ} {target : Location ρ} {after : Filesystem ρ} (made : files.mkdir target = .ok after) :
    after.get? target = some .directory ∧ ∀ other,
      after.get? other = files.get? other ∨ files.get? other = none ∧ other.within target = true ∧ after.get? other = some .directory := by
  induction target generalizing after with
  | root tree =>
    rw [mkdir] at made
    split at made
    next found =>
      obtain rfl := Except.ok.inj made
      exact ⟨found, fun _ => .inl rfl⟩
    next => cases made
    next absent =>
      obtain rfl := Except.ok.inj made
      have admits : files.Admits (.root tree) := ⟨by simp [Location.parent?], by simp [absent]⟩
      refine ⟨by simp [get?_place, admits], fun other => ?_⟩
      rw [get?_place]
      by_cases same : other = .root tree
      · subst same
        exact .inr ⟨absent, by simp, by simp [admits]⟩
      · exact .inl (by simp [same])
  | child directory name ih =>
    rw [mkdir] at made
    split at made
    next found =>
      obtain rfl := Except.ok.inj made
      exact ⟨found, fun _ => .inl rfl⟩
    next => cases made
    next absent =>
      simp only [Checks.bind_ok, Except.ok.injEq] at made
      obtain ⟨middle, below, rfl⟩ := made
      obtain ⟨parent, others⟩ := ih below
      have fresh : middle.get? (.child directory name) = none := by
        cases others (.child directory name) with
        | inl same => rw [same, absent]
        | inr above =>
          have inside := above.2.1
          rw [Location.not_within_above] at inside
          cases inside
      have admits : middle.Admits (.child directory name) := by
        refine ⟨?_, by simp [fresh]⟩
        intro above same
        obtain rfl := Option.some.inj same
        exact parent
      refine ⟨by simp [get?_place, admits], fun other => ?_⟩
      rw [get?_place]
      by_cases same : other = .child directory name
      · subst same
        exact .inr ⟨absent, by simp, by simp [admits]⟩
      · simp only [same, false_and, if_false]
        exact (others other).imp id fun made => ⟨made.1, Location.within_child made.2.1 name, made.2.2⟩

end Calls

end Filesystem

end Nslab
