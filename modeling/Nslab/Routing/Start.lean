import Nslab.Routing.Layout

/-! Starts in which one call fails: what the failure finds, and what the start makes
of it. -/

namespace Nslab

open Filesystem

section Faults

/-- The host on which one call fails. -/
def Host.failingAt (host : Host) (call : Nat) (error : OSError) : Host :=
  { host with fails := fun clock => if clock = call then some error else none }

/-- Before any call has failed. -/
def Steady (holds : RuntimeFiles → Prop) (world : World) : Prop := world.failure = none ∧ holds world.files

/-- Raised on account of a failed call, and no conflict. -/
def Raised.From (error : OSError) : Raised → Prop
  | .nslab issue cause => cause = some error ∧ issue.code ≠ "ROUTING_RUNTIME_CONFLICT"
  | .os found => found = error
  | .value _ => False

/-- The call has failed, and left files with `left`; the files are with `rest` now. -/
structure Faulted (call : Nat) (error : OSError) (left rest : RuntimeFiles → Prop) (raised : Raised) (world : World) : Prop where
  failure : ∃ files, world.failure = some files ∧ left files
  later : call < world.clock
  caused : raised.From error
  files : rest world.files

/-- Raised without a failed call, or on account of one. -/
def Interrupted (call : Nat) (error : OSError) (natural left rest : RuntimeFiles → Prop) (raised : Raised) (world : World) : Prop :=
  Steady natural world ∨ Faulted call error left rest raised world

variable {host : Host} {call : Nat} {error : OSError} {α : Type} {holds natural left rest : RuntimeFiles → Prop}

theorem Steady.weaken {world : World} {wider : RuntimeFiles → Prop} (steady : Steady holds world)
    (implies : ∀ files, holds files → wider files) : Steady wider world := ⟨steady.1, implies _ steady.2⟩

theorem Faulted.weaken {raised : Raised} {world : World} {found ended : RuntimeFiles → Prop}
    (faulted : Faulted call error left rest raised world) (finds : ∀ files, left files → found files)
    (ends : ∀ files, rest files → ended files) : Faulted call error found ended raised world := by
  obtain ⟨files, failed, holds⟩ := faulted.failure
  exact ⟨⟨files, failed, finds files holds⟩, faulted.later, faulted.caused, ends _ faulted.files⟩

/-- What the daemons leave alone. -/
def Host.Leaves (host : Host) (holds : RuntimeFiles → Prop) : Prop := ∀ clock files, holds files → holds (host.act clock files)

/-- A call before which no other has failed: it is the one that fails, or it does what it does by itself. -/
theorem Host.call_steady {effect : RuntimeFiles → Except OSError (α × RuntimeFiles)} {torn : RuntimeFiles → RuntimeFiles}
    (post : α → RuntimeFiles → Prop) (leaves : host.Leaves holds)
    (effects : ∀ files, holds files → match effect files with
      | .ok (value, after) => post value after
      | .error _ => natural files)
    (tears : ∀ files, holds files → left (torn files)) :
    Action.Triple (Steady holds) ((host.failingAt call error).call effect torn) (fun value => Steady (post value))
      (Interrupted call error natural left left) := by
  intro world given
  obtain ⟨clean, before⟩ := given
  have ready : holds ((host.failingAt call error).tick world).files := leaves world.clock world.files before
  simp only [Host.call]
  by_cases now : world.clock = call
  · rw [show (host.failingAt call error).fails world.clock = some error from if_pos now]
    refine .inr ⟨⟨_, ?_, tears _ ready⟩, ?_, rfl, tears _ ready⟩
    · simp [clean]
    · exact now ▸ Nat.lt_succ_self world.clock
  · rw [show (host.failingAt call error).fails world.clock = none from if_neg now]
    have result := effects _ ready
    cases made : effect ((host.failingAt call error).tick world).files with
    | error issue =>
      rw [made] at result
      exact .inl ⟨clean, result⟩
    | ok reply =>
      rw [made] at result
      exact ⟨clean, result⟩

theorem Host.perform_steady {effect : RuntimeFiles → Except OSError RuntimeFiles} (post : RuntimeFiles → Prop)
    (leaves : host.Leaves holds)
    (effects : ∀ files, holds files → match effect files with
      | .ok after => post after
      | .error _ => natural files) :
    Action.Triple (Steady holds) ((host.failingAt call error).perform effect) (fun _ => Steady post)
      (Interrupted call error natural holds holds) := by
  apply Host.call_steady (fun _ => post) leaves ?_ fun _ before => before
  intro files before
  have result := effects files before
  cases made : effect files with
  | error issue =>
    rw [made] at result
    exact result
  | ok after =>
    rw [made] at result
    exact result

/-- After its failure no call is made to fail again. -/
theorem Host.call_faulted {effect : RuntimeFiles → Except OSError RuntimeFiles} {torn : RuntimeFiles → RuntimeFiles}
    (post : RuntimeFiles → Prop) {raised : Raised} (leaves : host.Leaves rest)
    (effects : ∀ files, rest files → ∃ after, effect files = .ok after ∧ post after) :
    Action.Triple (Faulted call error left rest raised)
      ((host.failingAt call error).call (fun files => (effect files).map ((), ·)) torn)
      (fun _ => Faulted call error left post raised) (fun _ _ => False) := by
  intro world faulted
  have ready : rest ((host.failingAt call error).tick world).files := leaves world.clock world.files faulted.files
  have past : ¬ world.clock = call := Nat.ne_of_gt faulted.later
  simp only [Host.call]
  rw [show (host.failingAt call error).fails world.clock = none from if_neg past]
  obtain ⟨after, made, holds⟩ := effects _ ready
  simp only [made, Except.map]
  exact ⟨faulted.failure, Nat.lt_succ_of_lt faulted.later, faulted.caused, holds⟩

theorem Host.perform_faulted {effect : RuntimeFiles → Except OSError RuntimeFiles} (post : RuntimeFiles → Prop) {raised : Raised}
    (leaves : host.Leaves rest) (effects : ∀ files, rest files → ∃ after, effect files = .ok after ∧ post after) :
    Action.Triple (Faulted call error left rest raised) ((host.failingAt call error).perform effect)
      (fun _ => Faulted call error left post raised) (fun _ _ => False) := Host.call_faulted post leaves effects

/-- Turning an error of the system into one of the runtime keeps what holds when it is raised. -/
theorem triple_raisingFrom {pre : World → Prop} {post : α → World → Prop} {fails : Raised → World → Prop} {action : Runs α}
    {translate : OSError → NslabError} (valid : Action.Triple pre action post fails)
    (translates : ∀ found world, fails (.os found) world → fails (.nslab (translate found) (some found)) world) :
    Action.Triple pre (raisingFrom translate action) post fails := by
  apply Action.Triple.recover valid
  intro raised
  cases raised with
  | nslab issue cause => exact fun _ holds => holds
  | value text => exact fun _ holds => holds
  | os found => exact fun world holds => translates found world holds

theorem Interrupted.translate {found : OSError} {issue : NslabError} {world : World}
    (interrupted : Interrupted call error natural left rest (.os found) world) (code : issue.code ≠ "ROUTING_RUNTIME_CONFLICT") :
    Interrupted call error natural left rest (.nslab issue (some found)) world :=
  interrupted.imp id fun faulted => ⟨faulted.failure, faulted.later, ⟨congrArg some faulted.caused, code⟩, faulted.files⟩

/-- A refusal that does not happen. -/
theorem triple_refuseIf {bad : RuntimeFiles → Bool} {issue : NslabError} {fails : Raised → World → Prop}
    (fine : ∀ files, holds files → bad files = false) :
    Action.Triple (Steady holds) (refuseIf bad issue) (fun _ => Steady holds) fails := by
  apply Action.Triple.inspect
  intro world steady
  simp only [fine _ steady.2, Bool.false_eq_true, Checks.raiseIf, if_false, Checks.mapIssue]
  exact steady

/-- A check leaves the files alone. -/
theorem triple_check {validate : RuntimeFiles → Except NslabError α} :
    Action.Triple (Steady holds) (check validate) (fun _ => Steady holds) (Interrupted call error holds left rest) := by
  apply Action.Triple.inspect
  intro world steady
  cases validate world.files with
  | ok value => exact steady
  | error issue => exact .inl steady

end Faults

section Writing

/-- The states that a file is written in: before it, with a temporary file of this name and content, and after it. -/
structure Window (host : Host) (directory : RuntimePath) (name text : String) (before : RuntimeFiles → Prop)
    (filling : String → String → RuntimeFiles → Prop) (written : RuntimeFiles → Prop) : Prop where
  leaves : host.Leaves before
  leavesFilling : ∀ temporary content, host.Leaves (filling temporary content)
  unlinked : ∀ files, before files → files.isSymlink (.child directory name) = false
  create : ∀ files, before files → files.get? directory = some .directory →
    filling (files.freshName directory ("." ++ name ++ ".tmp-")) ""
      (files.place (.child directory (files.freshName directory ("." ++ name ++ ".tmp-"))) (.file (.ok "")))
  fill : ∀ temporary files, filling temporary "" files →
    filling temporary text (files.place (.child directory temporary) (.file (.ok text)))
  stored : ∀ temporary content files, filling temporary content files →
    files.get? (.child directory temporary) = some (.file (.ok content))
  target : ∀ temporary content files, filling temporary content files →
    ∀ entry ∈ files.get? (.child directory name), entry.isPlain = true
  drop : ∀ temporary content files, filling temporary content files → before (files.remove (.child directory temporary))
  finish : ∀ temporary files, filling temporary text files →
    written ((files.place (.child directory name) (.file (.ok text))).remove (.child directory temporary))

namespace Window

variable {host : Host} {call : Nat} {error : OSError} {runtime : FrrRuntime} {directory : RuntimePath} {name text : String}
  {before written : RuntimeFiles → Prop} {filling : String → String → RuntimeFiles → Prop}
  (window : Window host directory name text before filling written)

include window

/-- A step on the temporary file fails only when it is made to. -/
theorem step (temporary content : String) {effect : RuntimeFiles → Except OSError RuntimeFiles} (post : RuntimeFiles → Prop)
    (effects : ∀ files, filling temporary content files → ∃ after, effect files = .ok after ∧ post after) :
    Action.Triple (Steady (filling temporary content)) ((host.failingAt call error).perform effect) (fun _ => Steady post)
      (Interrupted call error (fun _ => False) (fun files => ∃ content, filling temporary content files)
        (fun files => ∃ content, filling temporary content files)) := by
  apply Host.call_steady (fun _ => post) (window.leavesFilling temporary content)
  · intro files holds
    obtain ⟨after, made, post⟩ := effects files holds
    simp only [made, Except.map]
    exact post
  · intro files holds
    exact ⟨content, holds⟩

/-- The steps that fill a temporary file and put it in its place. -/
theorem body {temporary : String} {issue : NslabError} :
    Action.Triple (Steady (filling temporary "")) (do
        (host.failingAt call error).handle
        (host.failingAt call error).write (.child directory temporary) text
        (host.failingAt call error).handle
        (host.failingAt call error).handle
        (host.failingAt call error).chmod (.child directory temporary)
        refuseIf (·.isSymlink (.child directory name)) issue
        (host.failingAt call error).replace (.child directory temporary) (.child directory name))
      (fun _ => Steady written)
      (Interrupted call error (fun _ => False) (fun files => ∃ content, filling temporary content files)
        (fun files => ∃ content, filling temporary content files)) := by
  have plain : ∀ files, filling temporary text files → files.isSymlink (.child directory name) = false ∧
      files.get? (.child directory name) ≠ some .directory := by
    intro files holds
    have target := window.target _ _ files holds
    cases found : files.get? (.child directory name) with
    | none => simp [isSymlink, found]
    | some entry =>
      have shape := target entry found
      simp only [Entry.isPlain, Bool.and_eq_true, Bool.not_eq_true'] at shape
      simp only [isSymlink, found, Option.any_some, shape.2, true_and, ne_eq, Option.some.injEq]
      intro same
      subst same
      cases shape.1
  apply Action.Triple.bind (window.step temporary "" (filling temporary "") fun files holds => ⟨files, rfl, holds⟩)
  intro _
  apply Action.Triple.bind
  · apply window.step temporary "" (filling temporary text)
    intro files holds
    refine ⟨_, ?_, window.fill temporary files holds⟩
    simp only [Filesystem.write, window.stored _ _ files holds]
  intro _
  apply Action.Triple.bind (window.step temporary text (filling temporary text) fun files holds => ⟨files, rfl, holds⟩)
  intro _
  apply Action.Triple.bind (window.step temporary text (filling temporary text) fun files holds => ⟨files, rfl, holds⟩)
  intro _
  apply Action.Triple.bind
  · apply window.step temporary text (filling temporary text)
    intro files holds
    exact ⟨files, if_pos (lexists_iff.mpr ⟨_, window.stored _ _ files holds⟩), holds⟩
  intro _
  apply Action.Triple.bind (triple_refuseIf fun files holds => (plain files holds).1)
  intro _
  apply window.step temporary text written
  intro files holds
  refine ⟨_, ?_, window.finish temporary files holds⟩
  have stored := window.stored _ _ files holds
  have target := (plain files holds).2
  have admits : files.Admits (.child directory name) := by
    refine ⟨fun above same => ?_, target⟩
    obtain rfl := Option.some.inj same
    exact files.rooted_get? stored
  simp only [Filesystem.replace, stored, if_neg target, if_pos admits]

/-- What is done about a step that has failed: the temporary file is removed. -/
theorem undo {temporary : String} {left : RuntimeFiles → Prop} {raised : Raised} {fails : Raised → World → Prop}
    (covers : ∀ world, Faulted call error left before raised world → fails raised world) :
    Action.Triple (Faulted call error left (fun files => ∃ content, filling temporary content files) raised) (do
        if ← look (·.lexists (.child directory temporary)) then
          suppressing ((host.failingAt call error).unlink (.child directory temporary))
        (Action.raise raised : Runs Unit))
      (fun _ => Steady written) fails := by
  have looked : Action.Triple (Faulted call error left (fun files => ∃ content, filling temporary content files) raised)
      (look (·.lexists (.child directory temporary))) (fun found world => found = true ∧
        Faulted call error left (fun files => ∃ content, filling temporary content files) raised world) fails := by
    apply Action.Triple.inspect
    intro world faulted
    obtain ⟨content, holds⟩ := faulted.files
    exact ⟨lexists_iff.mpr ⟨_, window.stored _ _ _ holds⟩, faulted⟩
  have unlinked : Action.Triple (Faulted call error left (fun files => ∃ content, filling temporary content files) raised)
      ((host.failingAt call error).unlink (.child directory temporary))
      (fun _ => Faulted call error left before raised) (fun _ _ => False) := by
    apply Host.perform_faulted before
    · intro clock files given
      obtain ⟨content, holds⟩ := given
      exact ⟨content, window.leavesFilling _ _ clock files holds⟩
    · intro files given
      obtain ⟨content, holds⟩ := given
      refine ⟨_, ?_, window.drop _ _ files holds⟩
      simp only [Filesystem.unlink, window.stored _ _ files holds]
  have removed : Action.Triple (Faulted call error left (fun files => ∃ content, filling temporary content files) raised)
      (suppressing ((host.failingAt call error).unlink (.child directory temporary)))
      (fun _ => Faulted call error left before raised) fails :=
    Action.Triple.recover unlinked fun _ _ impossible => impossible.elim
  apply Action.Triple.bind looked
  intro found
  cases found with
  | false => exact fun _ absent => (by cases absent.1)
  | true =>
    apply Action.Triple.bind (fun world holds => removed world holds.2)
    intro _ world faulted
    exact covers world faulted

/-- Writing a file, when it can be written. Whatever fails, no temporary file remains. -/
theorem writeText {fails : Raised → World → Prop}
    (covers : ∀ raised world, Interrupted call error (fun files => before files ∧ files.get? directory ≠ some .directory)
      (fun files => before files ∨ ∃ temporary content, filling temporary content files) before raised world → fails raised world) :
    Action.Triple (Steady before) (runtime.writeText (host.failingAt call error) directory name text)
      (fun _ => Steady written) fails := by
  have made : Action.Triple (Steady before) ((host.failingAt call error).mkstemp directory ("." ++ name ++ ".tmp-"))
      (fun made world => ∃ temporary, made = Location.child directory temporary ∧ Steady (filling temporary "") world)
      (Interrupted call error (fun files => before files ∧ files.get? directory ≠ some .directory)
        (fun files => before files ∨ ∃ temporary content, filling temporary content files) before) := by
    apply Action.Triple.weaken (Host.call_steady (fun made files => ∃ temporary, made = Location.child directory temporary ∧
      filling temporary "" files) window.leaves ?_ fun _ holds => holds) (fun _ holds => holds)
    · intro made world given
      obtain ⟨clean, temporary, same, holds⟩ := given
      exact ⟨temporary, same, clean, holds⟩
    · intro raised world interrupted
      exact interrupted.imp id fun faulted => faulted.weaken (fun _ holds => .inl holds) fun _ holds => holds
    · intro files holds
      by_cases opened : files.get? directory = some .directory
      · simp only [Filesystem.mkstemp, if_pos opened]
        exact ⟨_, rfl, window.create files holds opened⟩
      · simp only [Filesystem.mkstemp, if_neg opened]
        exact ⟨holds, opened⟩
  apply Action.Triple.bind (triple_refuseIf window.unlinked)
  intro _
  refine Action.Triple.weaken (triple_raisingFrom (Action.Triple.bind made ?_) ?_) (fun _ holds => holds) (fun _ _ holds => holds)
    covers
  · intro place world given
    obtain ⟨temporary, same, steady⟩ := given
    subst same
    refine Action.Triple.recover window.body (fun raised => ?_) world steady
    refine Action.Triple.weaken (window.undo fun world faulted => .inr faulted) ?_ (fun _ _ holds => holds) (fun _ _ holds => holds)
    intro world interrupted
    cases interrupted with
    | inl steady => cases steady.2
    | inr faulted => exact faulted.weaken (fun _ filled => .inr ⟨temporary, filled⟩) fun _ holds => holds
  · intro found world interrupted
    apply interrupted.translate
    simp [FrrRuntime.failedPath]

end Window

variable {host : Host} {plan : TopologyPlan}

/-- What no change in the directories of nodes disturbs, unless it touches a marker. -/
def Stable (plan : TopologyPlan) (holds : RuntimeFiles → Prop) : Prop :=
  ∀ before after, holds before → Harmless plan (· ≠ markerFile) before after → holds after

theorem Stable.leaves {holds : RuntimeFiles → Prop} (stable : Stable plan holds) (tame : host.Tame plan) : host.Leaves holds := by
  intro clock files before
  refine stable _ _ before ((tame.act clock files).mono fun name plain same => plain ?_)
  subst same
  decide

theorem Layout.stable {opened : Option (RuntimePath × String)} {pending : List (RuntimePath × String)} :
    Stable plan (Layout plan opened pending) := fun _ _ layout harmless => layout.harmless harmless (not_not_intro rfl)

theorem Begun.stable {temporary : Option (String × String)} : Stable plan (Begun plan temporary) :=
  fun _ _ begun harmless => begun.harmless harmless

/-- The name of a temporary file is not that of the marker. -/
theorem freshName_spec (files : RuntimeFiles) (directory : RuntimePath) (name : String) :
    dotted (files.freshName directory ("." ++ name ++ ".tmp-")) ∧ files.freshName directory ("." ++ name ++ ".tmp-") ≠ markerFile := by
  constructor
  · apply head?_freshName
    simp [String.toList_append]
  · intro same
    have last := files.getLast?_freshName directory ("." ++ name ++ ".tmp-")
    rw [same] at last
    revert last
    decide

/-- Writing the marker of the deployment directory. -/
theorem Begun.window (named : plan.WellNamed) (tame : host.Tame plan) :
    Window host (deploymentDir plan) markerFile (runtimeMarker plan) (Begun plan none)
      (fun temporary content => Begun plan (some (temporary, content))) (Layout plan none plan.below) where
  leaves := Begun.stable.leaves tame
  leavesFilling _ _ := Begun.stable.leaves tame
  unlinked files begun := by
    have unmarked := begun.unmarked
    rw [markerPath] at unmarked
    simp [isSymlink, unmarked]
  create files begun _ := by
    obtain ⟨dot, free⟩ := freshName_spec files (deploymentDir plan) markerFile
    exact begun.place named (fun _ given => (by cases given)) dot free
  fill temporary files begun := by
    obtain ⟨dot, free⟩ := begun.named _ rfl
    exact begun.place named (fun _ given => Option.some.inj given ▸ rfl) dot free
  stored temporary content files begun := by simp [begun.children]
  target temporary content files begun entry found := by
    have unmarked := begun.unmarked
    rw [markerPath, Option.mem_def.mp found] at unmarked
    cases unmarked
  drop temporary content files begun := begun.remove
  finish temporary files begun := begun.close named

/-- Writing a file in the directory of a node, between states that survive temporary files. -/
theorem Window.within {base written : RuntimeFiles → Prop} {allowed : String → Prop} {managed : RuntimePath × String} {name text : String}
    (member : managed ∈ plan.below) (tame : host.Tame plan) (leaves : host.Leaves base)
    (wide : ∀ temporary, dotted temporary → temporary ≠ markerFile → allowed temporary)
    (stable : ∀ before after, base before → Harmless plan allowed before after → base after)
    (ends : ∀ before after, written before → Harmless plan allowed before after → written after)
    (plain : ∀ files, base files → ∀ entry ∈ files.get? (.child managed.1 name), entry.isPlain = true)
    (finish : ∀ files, base files → files.get? managed.1 = some .directory →
      written (files.place (.child managed.1 name) (.file (.ok text)))) :
    Window host managed.1 name text base (fun temporary content files => base files ∧ dotted temporary ∧ temporary ≠ markerFile ∧
      files.get? (.child managed.1 temporary) = some (.file (.ok content))) written where
  leaves := leaves
  leavesFilling temporary content clock files filling := by
    obtain ⟨holds, dot, free, stored⟩ := filling
    refine ⟨leaves clock files holds, dot, free, ?_⟩
    exact ((tame.act clock files).name member (not_not_intro dot)).trans stored
  unlinked files holds := by
    cases found : files.get? (.child managed.1 name) with
    | none => simp [isSymlink, found]
    | some entry =>
      have shape := plain files holds entry found
      simp only [Entry.isPlain, Bool.and_eq_true, Bool.not_eq_true'] at shape
      simp [isSymlink, found, shape.2]
  create files holds opened := by
    obtain ⟨dot, free⟩ := freshName_spec files managed.1 name
    have absent := files.freshName_absent managed.1 ("." ++ name ++ ".tmp-")
    refine ⟨stable _ _ holds (Harmless.place member (wide _ dot free) (Location.within_refl _) rfl), dot, free, ?_⟩
    rw [get?_place, if_pos ⟨rfl, fun above same => Option.some.inj same ▸ opened, by simp [absent]⟩]
  fill temporary files filling := by
    obtain ⟨holds, dot, free, stored⟩ := filling
    refine ⟨stable _ _ holds (Harmless.place member (wide _ dot free) (Location.within_refl _) rfl), dot, free, ?_⟩
    rw [get?_place, if_pos ⟨rfl, fun above same => Option.some.inj same ▸ files.rooted_get? stored, by simp [stored]⟩]
  stored temporary content files filling := filling.2.2.2
  target temporary content files filling := plain files filling.1
  drop temporary content files filling :=
    stable _ _ filling.1 (Harmless.remove member (wide _ filling.2.1 filling.2.2.1) (Location.within_refl _))
  finish temporary files filling :=
    ends _ _ (finish files filling.1 (files.rooted_get? filling.2.2.2))
      (Harmless.remove member (wide _ filling.2.1 filling.2.2.1) (Location.within_refl _))

/-- Writing the marker of the open directory. -/
theorem Layout.window_marker {managed : RuntimePath × String} {pending : List (RuntimePath × String)} (member : managed ∈ plan.below)
    (named : plan.WellNamed) (tame : host.Tame plan) :
    Window host managed.1 markerFile managed.2 (Layout plan (some managed) pending) (fun temporary content files =>
      Layout plan (some managed) pending files ∧ dotted temporary ∧ temporary ≠ markerFile ∧
        files.get? (.child managed.1 temporary) = some (.file (.ok content))) (Layout plan none pending) := by
  apply Window.within member tame (Layout.stable.leaves tame) (fun _ _ free => free) Layout.stable Layout.stable
  · intro files layout
    exact layout.plain managed member markerFile
  · intro files layout _
    exact layout.close named

/-- Writing another file in the directory of a node. -/
theorem Layout.window {managed : RuntimePath × String} {pending : List (RuntimePath × String)} {name text : String}
    (member : managed ∈ plan.below) (free : name ≠ markerFile) (tame : host.Tame plan) :
    Window host managed.1 name text (Layout plan none pending) (fun temporary content files =>
      Layout plan none pending files ∧ dotted temporary ∧ temporary ≠ markerFile ∧
        files.get? (.child managed.1 temporary) = some (.file (.ok content))) (Layout plan none pending) := by
  apply Window.within member tame (Layout.stable.leaves tame) (fun _ _ free => free) Layout.stable Layout.stable
  · intro files layout
    exact layout.plain managed member name
  · intro files layout _
    exact Layout.stable _ _ layout (Harmless.place member free (Location.within_refl _) rfl)

end Writing

section Steps

/-- Nothing of the plan is there. -/
def Bare (plan : TopologyPlan) (files : RuntimeFiles) : Prop := ∀ managed ∈ plan.managed, files.get? managed.1 = none

/-- A managed directory has been made and has no marker yet. -/
def Opened (plan : TopologyPlan) (files : RuntimeFiles) : Prop :=
  (∃ temporary, Begun plan temporary files) ∨ ∃ managed pending, Layout plan (some managed) pending files

/-- How a start can be interrupted: of itself, or by the failing call, which finds all directories marked or one that is not. -/
def Aborted (plan : TopologyPlan) (call : Nat) (error : OSError) (raised : Raised) (world : World) : Prop :=
  Interrupted call error (Sound plan) (Sound plan) (Sound plan) raised world ∨
    Faulted call error (Opened plan) (Opened plan) raised world

/-- States in which all directories that are there are marked, and that the daemons and the start preserve. -/
structure Steadfast (plan : TopologyPlan) (base : RuntimeFiles → Prop) : Prop where
  stable : Stable plan base
  sound : ∀ files, base files → Sound plan files

variable {host : Host} {plan : TopologyPlan} {call : Nat} {error : OSError} {runtime : FrrRuntime} {α : Type}
  {base : RuntimeFiles → Prop}

theorem Bare.sound {files : RuntimeFiles} (bare : Bare plan files) : Sound plan files := by
  refine ⟨.inl (bare _ List.mem_cons_self), fun managed member => .inl (bare managed (List.mem_cons_of_mem _ member)), ?_⟩
  intro node routing name member
  have absent := bare _ (List.mem_cons_of_mem _ (mem_below routing _ List.mem_cons_self))
  obtain ⟨entry, found⟩ := mem_iterdir.mp member
  rw [files.rooted_get? found] at absent
  cases absent

theorem Bare.stable : Stable plan (Bare plan) := by
  intro before after bare harmless managed member
  cases List.mem_cons.mp member with
  | inl same => exact same ▸ harmless.deployment.trans (bare _ List.mem_cons_self)
  | inr below => exact (harmless.directory below).trans (bare managed member)

theorem Bare.steadfast : Steadfast plan (Bare plan) := ⟨Bare.stable, fun _ bare => bare.sound⟩

theorem Layout.steadfast {pending : List (RuntimePath × String)} : Steadfast plan (Layout plan none pending) :=
  ⟨Layout.stable, fun _ layout => layout.sound⟩

theorem Aborted.translate {found : OSError} {issue : NslabError} {world : World}
    (aborted : Aborted plan call error (.os found) world) (code : issue.code ≠ "ROUTING_RUNTIME_CONFLICT") :
    Aborted plan call error (.nslab issue (some found)) world :=
  aborted.imp (fun interrupted => interrupted.translate code)
    fun faulted => ⟨faulted.failure, faulted.later, ⟨congrArg some faulted.caused, code⟩, faulted.files⟩

namespace Steadfast

variable (steadfast : Steadfast plan base) (tame : host.Tame plan)

include steadfast

theorem natural {raised : Raised} {world : World} (steady : Steady base world) : Aborted plan call error raised world :=
  .inl (.inl (steady.weaken steadfast.sound))

theorem interrupted {raised : Raised} {world : World} (interrupted : Interrupted call error base base base raised world) :
    Aborted plan call error raised world :=
  .inl (interrupted.imp (·.weaken steadfast.sound) fun faulted => faulted.weaken steadfast.sound steadfast.sound)

theorem check {validate : RuntimeFiles → Except NslabError α} :
    Action.Triple (Steady base) (check validate) (fun _ => Steady base) (Aborted plan call error) := by
  apply Action.Triple.inspect
  intro world steady
  cases validate world.files with
  | ok value => exact steady
  | error issue => exact steadfast.natural steady

theorem raise {raised : Raised} {post : α → World → Prop} :
    Action.Triple (Steady base) (Action.raise raised) post (Aborted plan call error) := fun _ steady => steadfast.natural steady

include tame

theorem observe {reply : Nat → α} : Action.Triple (Steady base) ((host.failingAt call error).observe reply) (fun _ => Steady base)
    (Aborted plan call error) := fun world steady => ⟨steady.1, steadfast.stable.leaves tame world.clock world.files steady.2⟩

/-- A call that changes nothing that matters. -/
theorem calls {effect : RuntimeFiles → Except OSError (α × RuntimeFiles)}
    (harmless : ∀ files value after, base files → effect files = .ok (value, after) → Harmless plan (· ≠ markerFile) files after) :
    Action.Triple (Steady base) ((host.failingAt call error).call effect) (fun _ => Steady base) (Aborted plan call error) := by
  apply Action.Triple.weaken (Host.call_steady (fun _ => base) (steadfast.stable.leaves tame) ?_ fun _ holds => holds)
    (fun _ holds => holds) (fun _ _ holds => holds) fun _ _ => steadfast.interrupted
  intro files holds
  cases made : effect files with
  | error issue => exact holds
  | ok reply => exact steadfast.stable _ _ holds (harmless files _ _ holds made)

theorem perform {effect : RuntimeFiles → Except OSError RuntimeFiles}
    (harmless : ∀ files after, base files → effect files = .ok after → Harmless plan (· ≠ markerFile) files after) :
    Action.Triple (Steady base) ((host.failingAt call error).perform effect) (fun _ => Steady base) (Aborted plan call error) := by
  apply steadfast.calls tame
  intro files value after holds made
  cases done : effect files with
  | error issue => simp [done, Except.map] at made
  | ok ended =>
    simp only [done, Except.map, Except.ok.injEq, Prod.mk.injEq] at made
    exact made.2 ▸ harmless files ended holds done

theorem chmod {path : RuntimePath} :
    Action.Triple (Steady base) ((host.failingAt call error).chmod path) (fun _ => Steady base) (Aborted plan call error) := by
  apply steadfast.perform tame
  intro files after _ made
  rw [Filesystem.chmod] at made
  split at made
  next =>
    obtain rfl := Except.ok.inj made
    exact Harmless.refl files
  next => cases made

/-- Opening a file in the directory of a node. -/
theorem openAppend {managed : RuntimePath × String} {name : String} (member : managed ∈ plan.below) (free : name ≠ markerFile) :
    Action.Triple (Steady base) ((host.failingAt call error).openAppend (.child managed.1 name)) (fun _ => Steady base)
      (Aborted plan call error) := by
  apply steadfast.perform tame
  intro files after _ made
  rw [Filesystem.openAppend] at made
  split at made
  next => cases made
  next =>
    obtain rfl := Except.ok.inj made
    exact Harmless.refl files
  next =>
    split at made
    next =>
      obtain rfl := Except.ok.inj made
      exact Harmless.place member free (Location.within_refl _) rfl
    next => cases made

theorem popen {arguments : List String} :
    Action.Triple (Steady base) ((host.failingAt call error).popen arguments) (fun _ => Steady base) (Aborted plan call error) := by
  intro world steady
  apply steadfast.calls tame _ world steady
  intro files value after _ made
  simp only [Except.ok.injEq, Prod.mk.injEq] at made
  exact made.2 ▸ Harmless.refl files

theorem prepareOwnedDirectory {path : RuntimePath} {identity : Option FrrIdentity} :
    Action.Triple (Steady base) (runtime.prepareOwnedDirectory (host.failingAt call error) path identity) (fun _ => Steady base)
      (Aborted plan call error) := by
  cases identity with
  | none => exact fun _ holds => holds
  | some identity =>
    apply Action.Triple.bind steadfast.check
    intro _
    apply triple_raisingFrom
    · exact Action.Triple.bind (steadfast.chmod tame) fun _ => steadfast.chmod tame
    · intro found world aborted
      apply aborted.translate
      simp [FrrRuntime.failedPath]

theorem prepareOwnedFile {path : RuntimePath} {identity : Option FrrIdentity} :
    Action.Triple (Steady base) (runtime.prepareOwnedFile (host.failingAt call error) path identity) (fun _ => Steady base)
      (Aborted plan call error) := by
  cases identity with
  | none => exact fun _ holds => holds
  | some identity =>
    apply Action.Triple.bind steadfast.check
    intro _
    apply triple_raisingFrom
    · exact Action.Triple.bind (steadfast.chmod tame) fun _ => steadfast.chmod tame
    · intro found world aborted
      apply aborted.translate
      simp [FrrRuntime.failedPath]

/-- The roots are not managed. -/
theorem ensureRoot {tree : RuntimeTree} :
    Action.Triple (Steady base) (runtime.ensureDirectory (host.failingAt call error) (.root tree)) (fun _ => Steady base)
      (Aborted plan call error) := by
  apply Action.Triple.bind steadfast.check
  intro _
  apply Action.Triple.bind steadfast.check
  intro _
  apply triple_raisingFrom
  · exact Action.Triple.bind (steadfast.perform tame fun files after _ made => Harmless.mkdir made) fun _ => steadfast.chmod tame
  · intro found world aborted
    apply aborted.translate
    simp [FrrRuntime.failedPath]

end Steadfast

end Steps

end Nslab
