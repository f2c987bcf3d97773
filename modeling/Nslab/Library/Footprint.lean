import Nslab.Library.Filesystem

/-! Parts of a filesystem, and calls that keep to one: what they do depends on nothing
outside of the part but whether there can be a root, and nothing else changes. -/

namespace Nslab.Filesystem

variable {ρ : Type} [DecidableEq ρ]

/-- Whole trees of entries, each below a root or below an entry of the part. -/
structure Region (ρ : Type) where
  owns : Location ρ → Bool
  below : ∀ directory name, owns directory = true → owns (.child directory name) = true
  above : ∀ directory name, owns (.child directory name) = true → owns directory = true ∨ ∃ tree, directory = .root tree
  roots : ∀ tree, owns (.root tree) = false

/-- A root that is a directory, or can become one. -/
def Free (files : Filesystem ρ) (tree : ρ) : Prop :=
  files.get? (.root tree) = none ∨ files.get? (.root tree) = some .directory

/-- Filesystems with the same entries in a part, and with roots that serve alike. -/
structure Agree (part : Region ρ) (left right : Filesystem ρ) : Prop where
  own : left.entries.restrict part.owns = right.entries.restrict part.owns
  roots : ∀ tree, left.get? (.root tree) = right.get? (.root tree) ∨ left.Free tree ∧ right.Free tree

variable {part rest : Region ρ} {left right files : Filesystem ρ} {place directory : Location ρ}

/-- The name that an entry has in a directory. -/
def childName (directory : Location ρ) : Location ρ → Option String
  | .root _ => none
  | .child above name => if above = directory then some name else none

theorem iterdir_eq (files : Filesystem ρ) (directory : Location ρ) :
    files.iterdir directory = files.entries.keys.filterMap (childName directory) := by
  refine List.filterMap_congr fun place _ => ?_
  cases place <;> rfl

namespace Agree

theorem refl (files : Filesystem ρ) : Agree part files files := ⟨rfl, fun _ => .inl rfl⟩

theorem symm (agree : Agree part left right) : Agree part right left :=
  ⟨agree.own.symm, fun tree => (agree.roots tree).imp Eq.symm And.symm⟩

theorem trans {last : Filesystem ρ} (first : Agree part left right) (next : Agree part right last) : Agree part left last := by
  refine ⟨first.own.trans next.own, fun tree => ?_⟩
  cases first.roots tree with
  | inl same =>
    simp only [Free, same]
    exact next.roots tree
  | inr free => cases next.roots tree with
    | inl same => exact .inr ⟨free.1, by simpa only [Free, same] using free.2⟩
    | inr later => exact .inr ⟨free.1, later.2⟩

theorem get? (agree : Agree part left right) (own : part.owns place = true) : left.get? place = right.get? place := by
  have same := congrArg (fun dict => Dict.get? dict place) agree.own
  simp only [Dict.get?_restrict, own, if_true] at same
  exact same

theorem lexists (agree : Agree part left right) (own : part.owns place = true) : left.lexists place = right.lexists place :=
  congrArg Option.isSome (agree.get? own)

theorem isSymlink (agree : Agree part left right) (own : part.owns place = true) :
    left.isSymlink place = right.isSymlink place :=
  congrArg (Option.any Entry.isSymlink) (agree.get? own)

/-- A directory lists the same names in the same order. -/
theorem iterdir (agree : Agree part left right) (own : part.owns directory = true) :
    left.iterdir directory = right.iterdir directory := by
  have kept : ∀ files : Filesystem ρ,
      files.iterdir directory = (files.entries.restrict part.owns).keys.filterMap (childName directory) := by
    intro files
    rw [Dict.keys_restrict, List.filterMap_filter, iterdir_eq]
    refine List.filterMap_congr fun place _ => ?_
    cases place with
    | root tree => simp [childName]
    | child above name =>
      by_cases same : above = directory
      · simp [childName, same, part.below directory name own]
      · simp [childName, same]
  rw [kept, kept, agree.own]

/-- What is no symbolic link is read alike. -/
theorem follow (agree : Agree part left right) (own : part.owns place = true) (plain : left.isSymlink place = false) :
    left.follow linkLimit place = right.follow linkLimit place := by
  rw [follow_of_plain plain, follow_of_plain (agree.isSymlink own ▸ plain)]
  exact agree.get? own

theorem isDir (agree : Agree part left right) (own : part.owns place = true) (plain : left.isSymlink place = false) :
    left.isDir place = right.isDir place := congrArg (Option.any Entry.isDirectory) (agree.follow own plain)

theorem isFile (agree : Agree part left right) (own : part.owns place = true) (plain : left.isSymlink place = false) :
    left.isFile place = right.isFile place := congrArg (Option.any Entry.isFile) (agree.follow own plain)

theorem exists? (agree : Agree part left right) (own : part.owns place = true) (plain : left.isSymlink place = false) :
    left.exists? place = right.exists? place := congrArg Option.isSome (agree.follow own plain)

theorem readUtf8 (agree : Agree part left right) (own : part.owns place = true) (plain : left.isSymlink place = false) :
    left.readUtf8 place = right.readUtf8 place := by
  rw [Filesystem.readUtf8, Filesystem.readUtf8, agree.follow own plain]

theorem readAscii (agree : Agree part left right) (own : part.owns place = true) (plain : left.isSymlink place = false) :
    left.readAscii place = right.readAscii place := by
  rw [Filesystem.readAscii, Filesystem.readAscii, agree.readUtf8 own plain]

/-- A question about what is no symbolic link, with an answer for links. -/
theorem guarded {α : Type} (agree : Agree part left right) (own : part.owns place = true) {answer first second : α}
    (same : left.isSymlink place = false → first = second) :
    (if left.isSymlink place then answer else first) = if right.isSymlink place then answer else second := by
  rw [agree.isSymlink own] at same ⊢
  split
  next => rfl
  next plain => exact same (by simpa using plain)

end Agree

/-- Parts that own nothing together. -/
def Region.Apart (part rest : Region ρ) : Prop := ∀ place, part.owns place = true → rest.owns place = false

/-- A part owns what lies within what it owns. -/
theorem Region.within (part : Region ρ) (own : part.owns directory = true) (inside : directory.within place = true) :
    part.owns place = true := by
  induction place with
  | root tree =>
    obtain rfl : directory = .root tree := by simpa [Location.within] using inside
    exact own
  | child above name ih =>
    simp only [Location.within, Bool.or_eq_true, decide_eq_true_eq] at inside
    cases inside with
    | inl same => exact same ▸ own
    | inr inside => exact part.below above name (ih inside)

/-- A part owns nothing within an entry that it does not own. -/
theorem Region.outside (part : Region ρ) {name : String} (foreign : part.owns (.child directory name) = false)
    (inside : (Location.child directory name).within place = true) : part.owns place = false := by
  induction place with
  | root tree => exact part.roots tree
  | child above other ih =>
    simp only [Location.within, Bool.or_eq_true, decide_eq_true_eq] at inside
    cases inside with
    | inl same => exact same ▸ foreign
    | inr inside =>
      rw [← Bool.not_eq_true]
      intro own
      cases part.above above other own with
      | inl owned => simp [ih inside] at owned
      | inr root =>
        obtain ⟨tree, rfl⟩ := root
        simp [Location.within] at inside

/-- A change that does the same to filesystems that agree on one part, and nothing to another part. -/
def Confined (part rest : Region ρ) (change : Filesystem ρ → Filesystem ρ) : Prop :=
  ∀ left right, Agree part left right → Agree part (change left) (change right) ∧ Agree rest left (change left)

/-- One change after another. -/
theorem Confined.comp {first next : Filesystem ρ → Filesystem ρ} (before : Confined part rest first)
    (after : Confined part rest next) :
    Confined part rest fun files => next (first files) := by
  intro left right agree
  obtain ⟨kept, spared⟩ := before left right agree
  obtain ⟨later, last⟩ := after _ _ kept
  exact ⟨later, spared.trans last⟩

section Changes

variable {other : Location ρ} {entry : Entry ρ}

theorem roots_of_same {after : Filesystem ρ} (same : ∀ tree, after.get? (.root tree) = files.get? (.root tree)) (tree : ρ) :
    files.get? (.root tree) = after.get? (.root tree) ∨ files.Free tree ∧ after.Free tree := .inl (same tree).symm

theorem place_root (own : part.owns place = true) (tree : ρ) : (files.place place entry).get? (.root tree) =
    files.get? (.root tree) := by
  rw [get?_place, if_neg]
  intro same
  rw [← same.1, part.roots] at own
  cases own

theorem place_child (name : String) (tree : ρ) :
    (files.place (.child directory name) entry).get? (.root tree) = files.get? (.root tree) := by
  rw [get?_place, if_neg (by simp)]

/-- What is placed elsewhere leaves the part alone. -/
theorem place_foreign {name : String} (foreign : part.owns (.child directory name) = false) :
    Agree part files (files.place (.child directory name) entry) := by
  refine ⟨?_, roots_of_same (place_child name)⟩
  unfold Filesystem.place
  split
  next => rw [Dict.restrict_insert, if_neg (by simp [foreign])]
  next => rfl

theorem place_spares (apart : part.Apart rest) (own : part.owns place = true) : Agree rest files (files.place place entry) := by
  cases place with
  | root tree => simp [part.roots] at own
  | child directory name => exact place_foreign (apart _ own)

/-- A place that can be filled in both filesystems or in none. -/
theorem Agree.placed (agree : Agree part left right) (own : part.owns place = true)
    (admits : left.Admits place ↔ right.Admits place) :
    Agree part (left.place place entry) (right.place place entry) := by
  constructor
  · unfold Filesystem.place
    by_cases fits : left.Admits place
    · rw [dif_pos fits, dif_pos (admits.mp fits), Dict.restrict_insert, Dict.restrict_insert, agree.own]
    · rw [dif_neg fits, dif_neg fun fit => fits (admits.mpr fit)]
      exact agree.own
  · intro tree
    simp only [Free, place_root own]
    exact agree.roots tree

theorem Agree.admits {name : String} (agree : Agree part left right) (own : part.owns directory = true) :
    left.Admits (.child directory name) ↔ right.Admits (.child directory name) := by
  simp only [Admits, Location.parent?, Option.mem_def, Option.some.injEq, forall_eq', agree.get? own,
    agree.get? (part.below directory name own)]

theorem confined_place {name : String} (apart : part.Apart rest) (own : part.owns directory = true) :
    Confined part rest (·.place (.child directory name) entry) := by
  intro left right agree
  exact ⟨agree.placed (part.below directory name own) (agree.admits own), place_spares apart (part.below directory name own)⟩

/-- What a part keeps of its entries depends on the part alone. -/
theorem restrict_prune (chosen : Location ρ → Bool) :
    (files.prune directory chosen).entries.restrict part.owns =
      (files.entries.restrict part.owns).restrict fun other => !directory.within other ||
        (files.entries.restrict part.owns).keys.any fun below => other.within below && !chosen below := by
  simp only [prune, Dict.restrict_restrict, Dict.keys_restrict, List.any_filter]
  congr 1
  funext other
  by_cases kept : part.owns other = true
  · have owned : ∀ below, (part.owns below && (other.within below && !chosen below)) = (other.within below && !chosen below) := by
      intro below
      cases inside : other.within below with
      | false => simp
      | true => simp [part.within kept inside]
    simp [kept, owned]
  · simp [kept]

theorem prune_root (own : part.owns directory = true) (chosen : Location ρ → Bool) (tree : ρ) :
    (files.prune directory chosen).get? (.root tree) = files.get? (.root tree) := by
  refine (files.get?_prune directory (.root tree) chosen).elim id fun gone => ?_
  have owned := part.within own gone.2
  rw [part.roots] at owned
  cases owned

theorem Agree.pruned (agree : Agree part left right) (own : part.owns directory = true) (chosen : Location ρ → Bool) :
    Agree part (left.prune directory chosen) (right.prune directory chosen) := by
  refine ⟨?_, fun tree => ?_⟩
  · rw [restrict_prune, restrict_prune, agree.own]
  · simp only [Free, prune_root own]
    exact agree.roots tree

/-- What is pruned elsewhere leaves the part alone. -/
theorem prune_foreign (foreign : ∀ other, directory.within other = true → part.owns other = false)
    (inner : ∀ tree, directory.within (.root tree) = false) (chosen : Location ρ → Bool) :
    Agree part files (files.prune directory chosen) := by
  constructor
  · simp only [prune, Dict.restrict_restrict]
    congr 1
    funext other
    cases inside : directory.within other with
    | false => simp
    | true => simp [foreign other inside]
  · intro tree
    refine (files.get?_prune directory (.root tree) chosen).elim (fun same => .inl same.symm) fun gone => ?_
    simp [inner tree] at gone

theorem confined_prune (apart : part.Apart rest) (own : part.owns directory = true) (chosen : Location ρ → Bool) :
    Confined part rest (·.prune directory chosen) := by
  intro left right agree
  refine ⟨agree.pruned own chosen, prune_foreign (fun other inside => apart other (part.within own inside))
    (fun tree => ?_) chosen⟩
  rw [← Bool.not_eq_true]
  intro inside
  have owned := part.within own inside
  simp [part.roots] at owned

theorem confined_remove (apart : part.Apart rest) (own : part.owns place = true) : Confined part rest (·.remove place) := by
  intro left right agree
  simp only [remove, agree.iterdir own]
  split
  next => exact confined_prune apart own _ left right agree
  next => exact ⟨agree, Agree.refl left⟩

section Below

variable {above : Location ρ} {parent name : String}

/-- What is placed below an entry of a root leaves alike filesystems alike, whoever owns it. -/
theorem Agree.place_below (agree : Agree part left right) :
    Agree part (left.place (.child (.child above parent) name) entry)
      (right.place (.child (.child above parent) name) entry) := by
  cases own : part.owns (.child above parent) with
  | true => exact agree.placed (part.below _ name own) (agree.admits own)
  | false =>
    have foreign := part.outside own (Location.within_child (Location.within_refl _) name)
    exact (place_foreign foreign).symm.trans (agree.trans (place_foreign foreign))

theorem Agree.remove_below (agree : Agree part left right) :
    Agree part (left.remove (.child above parent)) (right.remove (.child above parent)) := by
  cases own : part.owns (.child above parent) with
  | true =>
    simp only [remove, agree.iterdir own]
    split
    next => exact agree.pruned own _
    next => exact agree
  | false =>
    have removed : ∀ files : Filesystem ρ, Agree part files (files.remove (.child above parent)) := by
      intro files
      unfold remove
      split
      next => exact prune_foreign (fun other inside => part.outside own inside) (fun tree => by simp [Location.within]) _
      next => exact Agree.refl files
    exact (removed left).symm.trans (agree.trans (removed right))

end Below

end Changes

section Calls

variable {α : Type} {name : String}

/-- A call that gives the same for filesystems that agree on one part, and leaves another part alone. -/
def Keeps (part rest : Region ρ) (effect : Filesystem ρ → Except OSError (α × Filesystem ρ)) : Prop :=
  ∀ left right, Agree part left right →
    (∃ value after final, effect left = .ok (value, after) ∧ effect right = .ok (value, final) ∧ Agree part after final ∧
      Agree rest left after) ∨
    ∃ issue, effect left = .error issue ∧ effect right = .error issue

/-- A call without a result. -/
def Performs (part rest : Region ρ) (effect : Filesystem ρ → Except OSError (Filesystem ρ)) : Prop :=
  Keeps part rest fun files => (effect files).map ((), ·)

theorem performs_iff {effect : Filesystem ρ → Except OSError (Filesystem ρ)} : Performs part rest effect ↔
    ∀ left right, Agree part left right →
      (∃ after final, effect left = .ok after ∧ effect right = .ok final ∧ Agree part after final ∧ Agree rest left after) ∨
      ∃ issue, effect left = .error issue ∧ effect right = .error issue := by
  constructor
  · intro keeps left right agree
    obtain ⟨_, after, final, made, done, result⟩ | ⟨issue, made, done⟩ := keeps left right agree
    · cases first : effect left with
      | error issue => simp [first, Except.map] at made
      | ok ended => cases second : effect right with
        | error issue => simp [second, Except.map] at done
        | ok last =>
          simp only [first, second, Except.map, Except.ok.injEq, Prod.mk.injEq, true_and] at made done
          subst made done
          exact .inl ⟨ended, last, rfl, rfl, result⟩
    · cases first : effect left with
      | ok ended => simp [first, Except.map] at made
      | error one => cases second : effect right with
        | ok last => simp [second, Except.map] at done
        | error two =>
          simp only [first, second, Except.map, Except.error.injEq] at made done
          exact .inr ⟨issue, by rw [made], by rw [done]⟩
  · intro performs left right agree
    obtain ⟨after, final, made, done, result⟩ | ⟨issue, made, done⟩ := performs left right agree
    · exact .inl ⟨(), after, final, by simp [made, Except.map], by simp [done, Except.map], result⟩
    · exact .inr ⟨issue, by simp [made, Except.map], by simp [done, Except.map]⟩

/-- A change that is made where something holds that the part decides. -/
theorem performs_change {change : Filesystem ρ → Filesystem ρ} {effect : Filesystem ρ → Except OSError (Filesystem ρ)}
    (confined : Confined part rest change)
    (decides : ∀ left right, Agree part left right → (effect left = .ok (change left) ∧ effect right = .ok (change right)) ∨
      (effect left = .ok left ∧ effect right = .ok right) ∨ ∃ issue, effect left = .error issue ∧ effect right = .error issue) :
    Performs part rest effect := by
  rw [performs_iff]
  intro left right agree
  obtain ⟨made, done⟩ | ⟨made, done⟩ | refused := decides left right agree
  · obtain ⟨kept, spared⟩ := confined left right agree
    exact .inl ⟨_, _, made, done, kept, spared⟩
  · exact .inl ⟨_, _, made, done, agree, Agree.refl left⟩
  · exact .inr refused

theorem mkdir_root {tree : ρ} (free : files.Free tree) : ∃ after, files.mkdir (.root tree) = .ok after ∧
    (∀ part : Region ρ, after.entries.restrict part.owns = files.entries.restrict part.owns) ∧
    ∀ other, after.get? (.root other) = if other = tree then some .directory else files.get? (.root other) := by
  cases free with
  | inl absent =>
    have admits : files.Admits (.root tree) := ⟨by simp [Location.parent?], by simp [absent]⟩
    refine ⟨files.place (.root tree) .directory, by rw [mkdir, absent], fun part => ?_, fun other => ?_⟩
    · unfold Filesystem.place
      rw [dif_pos admits, Dict.restrict_insert, if_neg (by simp [part.roots])]
    · rw [get?_place]
      by_cases same : other = tree <;> simp [same, admits]
  | inr present =>
    refine ⟨files, by rw [mkdir, present], fun _ => rfl, fun other => ?_⟩
    split
    next same => rw [same, present]
    next => rfl

theorem mkdir_root_refused {tree : ρ} (taken : ¬ files.Free tree) : files.mkdir (.root tree) = .error obstructed := by
  simp only [Free, not_or] at taken
  rw [mkdir]
  split
  next found => exact absurd found taken.2
  next => rfl
  next found => exact absurd found taken.1

theorem performs_mkdir_root (tree : ρ) : Performs part rest (·.mkdir (.root tree)) := by
  rw [performs_iff]
  intro left right agree
  by_cases free : left.Free tree
  · have other : right.Free tree := by
      cases agree.roots tree with
      | inl same => simpa only [Free, same] using free
      | inr both => exact both.2
    obtain ⟨after, made, kept, roots⟩ := mkdir_root free
    obtain ⟨final, done, same, others⟩ := mkdir_root other
    refine .inl ⟨after, final, made, done, ⟨by rw [kept, same, agree.own], fun root => ?_⟩, (kept rest).symm, fun root => ?_⟩
    · rw [roots, others, Free, Free, roots, others]
      split
      next => exact .inl rfl
      next => exact agree.roots root
    · by_cases same : root = tree
      · subst same
        exact .inr ⟨free, .inr (by rw [roots, if_pos rfl])⟩
      · exact .inl (by rw [roots, if_neg same])
  · have other : ¬ right.Free tree := by
      cases agree.roots tree with
      | inl same => simpa only [Free, same] using free
      | inr both => exact absurd both.1 free
    exact .inr ⟨obstructed, mkdir_root_refused free, mkdir_root_refused other⟩

theorem performs_mkdir (apart : part.Apart rest) (own : part.owns place = true) : Performs part rest (·.mkdir place) := by
  induction place with
  | root tree =>
    rw [part.roots] at own
    cases own
  | child directory name ih =>
    have above : Performs part rest (·.mkdir directory) := by
      obtain owned | ⟨tree, rfl⟩ := part.above directory name own
      · exact ih owned
      · exact performs_mkdir_root tree
    rw [performs_iff] at above ⊢
    intro left right agree
    have same := agree.get? own
    cases found : left.get? (.child directory name) with
    | some entry =>
      rw [found] at same
      simp only [mkdir, found, ← same]
      cases entry with
      | directory => exact .inl ⟨left, right, rfl, rfl, agree, Agree.refl left⟩
      | file content => exact .inr ⟨_, rfl, rfl⟩
      | symlink target => exact .inr ⟨_, rfl, rfl⟩
      | special => exact .inr ⟨_, rfl, rfl⟩
    | none =>
      rw [found] at same
      simp only [mkdir, found, ← same]
      obtain ⟨after, final, made, done, kept, spared⟩ | ⟨issue, made, done⟩ := above left right agree
      · have admits : after.Admits (.child directory name) ↔ final.Admits (.child directory name) := by
          simp only [Admits, Location.parent?, Option.mem_def, Option.some.injEq, forall_eq', (mkdir_spec made).1,
            (mkdir_spec done).1, kept.get? own]
        refine .inl ⟨after.place (.child directory name) .directory, final.place (.child directory name) .directory, ?_, ?_,
          kept.placed own admits, spared.trans (place_spares apart own)⟩
        · simp [made, bind, Except.bind]
        · simp [done, bind, Except.bind]
      · exact .inr ⟨issue, by simp [made, bind, Except.bind], by simp [done, bind, Except.bind]⟩

theorem performs_chmod (own : part.owns place = true) : Performs part rest (·.chmod place) := by
  rw [performs_iff]
  intro left right agree
  simp only [chmod, agree.lexists own]
  split
  next => exact .inl ⟨left, right, rfl, rfl, agree, Agree.refl left⟩
  next => exact .inr ⟨missing, rfl, rfl⟩

theorem keeps_mkstemp (apart : part.Apart rest) (own : part.owns directory = true) (start : String) :
    Keeps part rest (·.mkstemp directory start) := by
  intro left right agree
  simp only [mkstemp, agree.get? own, freshName, agree.iterdir own]
  split
  next =>
    obtain ⟨kept, spared⟩ := @confined_place _ _ part rest directory (.file (.ok "")) (right.freshName directory start) apart own
      left right agree
    exact .inl ⟨_, _, _, rfl, rfl, kept, spared⟩
  next => exact .inr ⟨missing, rfl, rfl⟩

theorem performs_write (apart : part.Apart rest) (own : part.owns directory = true) (text : String) :
    Performs part rest (·.write (.child directory name) text) := by
  apply performs_change (confined_place apart own)
  intro left right agree
  simp only [write, agree.get? (part.below directory name own)]
  split
  next => exact .inl ⟨rfl, rfl⟩
  next => exact .inr (.inl ⟨rfl, rfl⟩)

theorem performs_unlink (apart : part.Apart rest) (own : part.owns place = true) : Performs part rest (·.unlink place) := by
  apply performs_change (confined_remove apart own)
  intro left right agree
  simp only [unlink, agree.get? own]
  split
  next => exact .inr (.inr ⟨_, rfl, rfl⟩)
  next => exact .inr (.inr ⟨_, rfl, rfl⟩)
  next => exact .inl ⟨rfl, rfl⟩

theorem performs_openAppend (apart : part.Apart rest) (own : part.owns directory = true) :
    Performs part rest (·.openAppend (.child directory name)) := by
  apply performs_change (confined_place apart own)
  intro left right agree
  simp only [openAppend, agree.get? (part.below directory name own), agree.admits own]
  split
  next => exact .inr (.inr ⟨_, rfl, rfl⟩)
  next => exact .inr (.inl ⟨rfl, rfl⟩)
  next =>
    split
    next => exact .inl ⟨rfl, rfl⟩
    next => exact .inr (.inr ⟨_, rfl, rfl⟩)

theorem performs_rmtree (apart : part.Apart rest) (own : part.owns place = true) : Performs part rest (·.rmtree place) := by
  apply performs_change (confined_prune apart own fun _ => true)
  intro left right agree
  simp only [rmtree, agree.get? own]
  split
  next => exact .inl ⟨rfl, rfl⟩
  next => exact .inr (.inr ⟨_, rfl, rfl⟩)

theorem performs_replace (apart : part.Apart rest) {source : Location ρ} (own : part.owns directory = true)
    (owned : part.owns source = true) : Performs part rest (·.replace source (.child directory name)) := by
  rw [performs_iff]
  intro left right agree
  simp only [replace, agree.get? owned, agree.get? (part.below directory name own), agree.admits own]
  split
  next => exact .inr ⟨_, rfl, rfl⟩
  next => exact .inr ⟨_, rfl, rfl⟩
  next entry _ _ =>
    split
    next => exact .inr ⟨_, rfl, rfl⟩
    next =>
      split
      next =>
        obtain ⟨kept, spared⟩ := @confined_place _ _ part rest directory entry name apart own left right agree
        obtain ⟨removed, left'⟩ := confined_remove apart owned _ _ kept
        exact .inl ⟨_, _, rfl, rfl, removed, spared.trans left'⟩
      next => exact .inr ⟨_, rfl, rfl⟩

end Calls

end Nslab.Filesystem
