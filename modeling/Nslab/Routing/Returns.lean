import Nslab.Routing.Recovery

/-! What the steps of a start bring about when they return, on a host where any call
can fail. -/

namespace Nslab

open Filesystem

variable {host : Host} {runtime : FrrRuntime} {started : List Int} {α β : Type} {base : RuntimeFiles → Prop}

/-- From files of one kind a computation that returns leads to files of another, and starts no daemon. -/
def Brings (started : List Int) (before : RuntimeFiles → Prop) (action : Runs α) (after : α → RuntimeFiles → Prop) : Prop :=
  Action.Triple (fun world => before world.files ∧ world.started = started) action
    (fun value world => after value world.files ∧ world.started = started) fun _ _ => True

/-- A computation of which nothing is known. -/
theorem triple_anything {action : Runs α} {before : World → Prop} :
    Action.Triple before action (fun _ _ => True) fun _ _ => True := by
  intro world _
  split <;> trivial

namespace Brings

theorem bind {action : Runs α} {next : α → Runs β} {before : RuntimeFiles → Prop} {middle : α → RuntimeFiles → Prop}
    {after : β → RuntimeFiles → Prop} (first : Brings started before action middle)
    (rest : ∀ value, Brings started (middle value) (next value) after) : Brings started before (action >>= next) after :=
  Action.Triple.bind first rest

theorem done {value : α} : Brings started base (pure value) fun _ => base := fun _ holds => holds

theorem raise {raised : Raised} {after : α → RuntimeFiles → Prop} : Brings started base (Action.raise raised) after :=
  fun _ _ => trivial

theorem weaken {action : Runs α} {before stronger : RuntimeFiles → Prop} {after weaker : α → RuntimeFiles → Prop}
    (brings : Brings started stronger action weaker) (requires : ∀ files, before files → stronger files)
    (ensures : ∀ value files, weaker value files → after value files) : Brings started before action after :=
  Action.Triple.weaken brings (fun _ given => ⟨requires _ given.1, given.2⟩) (fun _ _ given => ⟨ensures _ _ given.1, given.2⟩)
    fun _ _ _ => trivial

theorem look {read : RuntimeFiles → α} : Brings started base (look read) fun value files => base files ∧ value = read files :=
  fun _ given => ⟨⟨given.1, rfl⟩, given.2⟩

theorem check {validate : RuntimeFiles → Except NslabError α} : Brings started base (check validate) fun _ => base := by
  apply Action.Triple.inspect
  intro world given
  cases validate world.files with
  | error issue => trivial
  | ok value => exact given

theorem raisingFrom {translate : OSError → NslabError} {action : Runs α} {after : α → RuntimeFiles → Prop}
    (brings : Brings started base action after) : Brings started base (raisingFrom translate action) after := by
  apply Action.Triple.recover brings
  intro raised
  cases raised <;> exact fun _ _ => trivial

theorem call {effect : RuntimeFiles → Except OSError (α × RuntimeFiles)} {torn : RuntimeFiles → RuntimeFiles}
    {after : α → RuntimeFiles → Prop} (leaves : host.Leaves base)
    (effects : ∀ files value ended, base files → effect files = .ok (value, ended) → after value ended) :
    Brings started base (host.call effect torn) after := by
  intro world given
  obtain ⟨holds, known⟩ := given
  have ready := leaves world.clock world.files holds
  simp only [Host.call]
  cases host.fails world.clock with
  | some error => trivial
  | none =>
    cases made : effect (host.tick world).files with
    | error issue => trivial
    | ok reply => exact ⟨effects _ _ _ ready made, known⟩

theorem perform {effect : RuntimeFiles → Except OSError RuntimeFiles} {after : RuntimeFiles → Prop} (leaves : host.Leaves base)
    (effects : ∀ files ended, base files → effect files = .ok ended → after ended) :
    Brings started base (host.perform effect) fun _ => after := by
  apply Brings.call leaves
  intro files value ended holds made
  cases done : effect files with
  | error issue => simp [done, Except.map] at made
  | ok final =>
    simp only [done, Except.map, Except.ok.injEq, Prod.mk.injEq, true_and] at made
    exact made ▸ effects files final holds done

/-- A step on an open file. -/
theorem handle (leaves : host.Leaves base) : Brings started base host.handle fun _ => base :=
  Brings.perform leaves fun _ _ holds made => Except.ok.inj made ▸ holds

theorem chmod {path : RuntimePath} (leaves : host.Leaves base) : Brings started base (host.chmod path) fun _ => base := by
  apply Brings.perform leaves
  intro files ended holds made
  rw [Filesystem.chmod] at made
  split at made
  next => exact Except.ok.inj made ▸ holds
  next => cases made

theorem observe {reply : Nat → α} (leaves : host.Leaves base) : Brings started base (host.observe reply) fun _ => base :=
  fun world given => ⟨leaves world.clock world.files given.1, given.2⟩

theorem ensureDirectory {path : RuntimePath} {opened : RuntimeFiles → Prop} (leaves : host.Leaves base) (later : host.Leaves opened)
    (enter : ∀ files ended, base files → files.mkdir path = .ok ended → opened ended) :
    Brings started base (runtime.ensureDirectory host path) fun _ => opened := by
  apply Brings.bind Brings.check
  intro _
  apply Brings.bind Brings.check
  intro _
  apply Brings.raisingFrom
  exact Brings.bind (Brings.perform leaves enter) fun _ => Brings.chmod later

theorem prepareOwnedDirectory {path : RuntimePath} {identity : Option FrrIdentity} (leaves : host.Leaves base) :
    Brings started base (runtime.prepareOwnedDirectory host path identity) fun _ => base := by
  cases identity with
  | none => exact Brings.done
  | some identity =>
    apply Brings.bind Brings.check
    intro _
    apply Brings.raisingFrom
    exact Brings.bind (Brings.chmod leaves) fun _ => Brings.chmod leaves

theorem prepareOwnedFile {path : RuntimePath} {identity : Option FrrIdentity} (leaves : host.Leaves base) :
    Brings started base (runtime.prepareOwnedFile host path identity) fun _ => base := by
  cases identity with
  | none => exact Brings.done
  | some identity =>
    apply Brings.bind Brings.check
    intro _
    apply Brings.raisingFrom
    exact Brings.bind (Brings.chmod leaves) fun _ => Brings.chmod leaves

end Brings

namespace Window

variable {directory : RuntimePath} {name text : String} {before written : RuntimeFiles → Prop}
  {filling : String → String → RuntimeFiles → Prop} (window : Window host directory name text before filling written)

include window

/-- The steps that fill a temporary file and put it in its place. -/
theorem brings_body {temporary : String} {issue : NslabError} : Brings started (filling temporary "") (do
      host.handle
      host.write (.child directory temporary) text
      host.handle
      host.handle
      host.chmod (.child directory temporary)
      refuseIf (·.isSymlink (.child directory name)) issue
      host.replace (.child directory temporary) (.child directory name)) fun _ => written := by
  have leaves := window.leavesFilling temporary
  apply Brings.bind (Brings.handle (leaves ""))
  intro _
  have wrote : Brings started (filling temporary "") (host.write (.child directory temporary) text) fun _ => filling temporary text := by
    apply Brings.perform (leaves "")
    intro files ended holds made
    simp only [Filesystem.write, window.stored _ _ files holds, Except.ok.injEq] at made
    exact made ▸ window.fill temporary files holds
  apply Brings.bind wrote
  intro _
  apply Brings.bind (Brings.handle (leaves text))
  intro _
  apply Brings.bind (Brings.handle (leaves text))
  intro _
  apply Brings.bind (Brings.chmod (leaves text))
  intro _
  apply Brings.bind Brings.check
  intro _
  apply Brings.perform (leaves text)
  intro files ended holds made
  simp only [Filesystem.replace, window.stored _ _ files holds] at made
  split at made
  next => cases made
  next =>
    split at made
    next => exact Except.ok.inj made ▸ window.finish temporary files holds
    next => cases made

/-- A file that is written is in its place, and no temporary file is left. -/
theorem brings : Brings started before (runtime.writeText host directory name text) fun _ => written := by
  have made : Brings started before (host.mkstemp directory ("." ++ name ++ ".tmp-"))
      fun made files => ∃ temporary, made = Location.child directory temporary ∧ filling temporary "" files := by
    apply Brings.call window.leaves
    intro files place ended holds made
    rw [Filesystem.mkstemp] at made
    split at made
    next opened =>
      obtain ⟨rfl, rfl⟩ := Prod.mk.inj (Except.ok.inj made)
      exact ⟨_, rfl, window.create files holds opened⟩
    next => cases made
  apply Brings.bind Brings.check
  intro _
  apply Brings.raisingFrom
  apply Brings.bind made
  intro place world given
  obtain ⟨⟨temporary, same, filled⟩, known⟩ := given
  subst same
  refine Action.Triple.recover window.brings_body (fun raised => ?_) world ⟨filled, known⟩
  have undone : ∀ found : Bool, Action.Triple (fun _ => True) (do
      if found then suppressing (host.unlink (.child directory temporary))
      (Action.raise raised : Runs Unit)) (fun _ world => written world.files ∧ world.started = started) fun _ _ => True := by
    intro found
    cases found with
    | false => exact fun _ _ => trivial
    | true => exact Action.Triple.bind triple_anything fun _ _ _ => trivial
  exact Action.Triple.weaken (Action.Triple.bind triple_anything undone) (fun _ _ => trivial) (fun _ _ given => given) fun _ _ _ => trivial

end Window

/-- Making a directory that is not there, and its marker. -/
theorem Brings.prepareManagedDirectory {opened ended : RuntimeFiles → Prop} {filling : String → String → RuntimeFiles → Prop}
    {path : RuntimePath} {marker : String} {identity : Option FrrIdentity} (leaves : host.Leaves base) (ends : host.Leaves ended)
    (absent : ∀ files, base files → files.get? path = none)
    (enter : ∀ files after, base files → files.mkdir path = .ok after → opened after)
    (window : Window host path markerFile marker opened filling ended) :
    Brings started base (runtime.prepareManagedDirectory host path marker identity) fun _ => ended := by
  apply Brings.bind Brings.look
  intro found world given
  obtain ⟨⟨holds, same⟩, known⟩ := given
  rw [lexists_eq_false.mpr (absent _ holds)] at same
  subst same
  refine (Brings.bind (Brings.ensureDirectory leaves window.leaves enter) fun _ => Brings.bind window.brings fun _ => ?_) world
    ⟨holds, known⟩
  exact Brings.bind (Brings.prepareOwnedDirectory ends) fun _ => Brings.prepareOwnedFile ends

end Nslab
