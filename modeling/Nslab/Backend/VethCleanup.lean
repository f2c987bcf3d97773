import Nslab.Backend.Veth

/-! What is left of a veth pair that could not be created: nothing, because one of its
ends always is where the books of the call have it. -/

namespace Nslab

namespace Veth

open NetDevices

section Calls

variable {α : Type} {replies : Nat → Call → Reply} {request : Call} {effect : Session → Except Issue (α × Session)}
  {pre : Session → Prop} {post : α → Session → Prop} {fails : Issue → Session → Prop}

/-- A call takes effect and returns, takes effect and raises, or raises. -/
theorem call_triple (stable : ∀ session calls, pre session → pre { session with calls })
    (runs : ∀ session value after, pre session → effect session = .ok (value, after) →
      post value after ∧ ∀ issue, (∃ calls, replies calls request = .failed issue true) → fails issue after)
    (stops : ∀ issue session, pre session → fails issue session) : Action.Triple pre (call replies request effect) post fails := by
  intro session holds
  have counted := stable session (session.calls + 1) holds
  simp only [call]
  cases replied : replies session.calls request with
  | done =>
    cases done : effect { session with calls := session.calls + 1 } with
    | ok result => exact (runs _ _ _ counted done).1
    | error issue => exact stops issue _ counted
  | failed issue took =>
    cases took with
    | false => exact stops issue _ counted
    | true =>
      cases done : effect { session with calls := session.calls + 1 } with
      | ok result => exact (runs _ _ _ counted done).2 issue ⟨_, replied⟩
      | error other => exact stops issue _ counted

theorem linkLookup_triple {home : Home} {name : String} (stable : ∀ session calls, pre session → pre { session with calls }) :
    Action.Triple pre (linkLookup replies home name)
      (fun indexes session => pre session ∧ indexes = session.kernel.lookup home name) fun _ => pre := by
  apply call_triple stable
  · intro session value after holds same
    cases same
    exact ⟨⟨holds, rfl⟩, fun _ _ => holds⟩
  · exact fun _ _ holds => holds

theorem getLinks_triple {home : Home} {index : Nat} (stable : ∀ session calls, pre session → pre { session with calls }) :
    Action.Triple pre (getLinks replies home index)
      (fun devices session => pre session ∧ ∃ device, devices = [device] ∧ session.kernel.find? home index = some device)
      fun _ => pre := by
  apply call_triple stable
  · intro session value after holds same
    split at same
    next => cases same
    next device found =>
      cases same
      exact ⟨⟨holds, device, rfl, found⟩, fun _ _ => holds⟩
  · exact fun _ _ holds => holds

theorem touching_triple {home : Home} {index : Nat} (stable : ∀ session calls, pre session → pre { session with calls }) :
    Action.Triple pre (call replies request (touching home index)) (fun _ => pre) fun _ => pre := by
  apply call_triple stable
  · intro session value after holds same
    unfold touching at same
    split at same
    next => cases same
    next =>
      cases same
      exact ⟨holds, fun _ _ => holds⟩
  · exact fun _ _ holds => holds

theorem nothing_triple (stable : ∀ session calls, pre session → pre { session with calls }) :
    Action.Triple pre (call replies request nothing) (fun _ => pre) fun _ => pre := by
  apply call_triple stable
  · intro session value after holds same
    cases same
    exact ⟨holds, fun _ _ => holds⟩
  · exact fun _ _ holds => holds

/-- A handle is opened and closed around what is done with it. -/
theorem managedHandle_triple {home : Home} {body : Runs α} (stable : ∀ session calls, pre session → pre { session with calls })
    (stays : ∀ value session calls, post value session → post value { session with calls })
    (kept : ∀ issue session calls, fails issue session → fails issue { session with calls })
    (unopened : ∀ issue session, pre session → fails issue session) (late : ∀ issue value session, post value session → fails issue session)
    (valid : Action.Triple pre body post fails) : Action.Triple pre (managedHandle replies home body) post fails := by
  have opened : Action.Triple pre (call replies (.openHandle home) nothing) (fun _ => pre) fails :=
    (nothing_triple stable).weaken (fun _ holds => holds) (fun _ _ holds => holds) unopened
  apply opened.bind
  intro _
  apply Action.Triple.bind valid.attempt
  intro outcome
  apply Action.Triple.bind
  · apply Action.Triple.attempt
    apply nothing_triple
    intro session calls holds
    cases outcome with
    | ok value => exact stays value session calls holds
    | error issue => exact kept issue session calls holds
  intro closed session holds
  cases outcome with
  | ok value => cases closed with
    | ok _ => exact holds
    | error issue => exact late issue value session holds
  | error issue => cases closed with
    | ok _ => exact holds
    | error _ => exact holds

end Calls

section Moving

variable {world : World} {before : Kernel} {resource token : String} {own other : Nat} {endpoint : EndpointPlan} {place : Home × String}

/-- Only devices with the token have been changed or deleted. -/
def Harmless (before : Kernel) (token : String) (session : Session) : Prop :=
  SameBut token before session.kernel ∧ ∀ device ∈ session.deleted, device.ifalias = some token

/-- One end is where it was made or where it is moved to, and the other is in its place. -/
structure Moving (token : String) (own other : Nat) (endpoint : EndpointPlan) (place : Home × String) (kernel : Kernel) : Prop where
  pair : Pair kernel token own other
  other : At kernel other place.1 place.2
  reserved : Reserved kernel own none endpoint.temporaryName
  place : At kernel own none endpoint.temporaryName ∨ At kernel own (some endpoint.netns) endpoint.temporaryName

/-- What the code has written down about a creation. -/
def Session.books (session : Session) : List EndpointPlan × List EndpointPlan × Bool × Bool × Bool :=
  (session.movedEndpoints, session.renamedEndpoints, session.rootNamesVerifiedAbsent, session.creationAttempted, session.created)

/-- An end that is still in the root namespace, under the index that a lookup has found. -/
def Found (kernel : Kernel) (own : Nat) (home : Home) (name : String) (index : Nat) : Prop :=
  ∃ device ∈ kernel.devices, device.serial = own ∧ device.home = home ∧ device.name = name ∧ device.index = index

/-- One lookup of a wait: what it finds, or nothing where it fails in passing. -/
theorem lookupOnce_triple {pre : Session → Prop} (stable : ∀ session calls, pre session → pre { session with calls })
    (home : Home) (name : String) (last : Option Issue) :
    Action.Triple pre (lookupOnce world home name last)
      (fun result session => pre session ∧ ∀ index, result.1.head? = some index → (session.kernel.lookup home name).head? = some index)
      fun _ => pre := by
  apply Action.Triple.recover
  · apply (linkLookup_triple stable).bind
    intro indexes session holds
    exact ⟨holds.1, fun index first => by rw [← holds.2, first]⟩
  · intro issue session holds
    have passing : pre session ∧ ∀ index, ([] : List Nat).head? = some index → (session.kernel.lookup home name).head? = some index :=
      ⟨holds, by simp⟩
    cases issue with
    | netlink code => by_cases missing : isMissing code = true <;> simp only [missing, if_true] <;> assumption
    | os type errno => by_cases missing : (Issue.os type errno).isTransient = true <;> simp only [missing, if_true] <;> assumption
    | nslab _ => exact holds
    | keyboardInterrupt => exact holds
    | other _ => exact holds

/-- A wait that ends finds what has the name. -/
theorem waitForRequiredIndex_triple {pre : Session → Prop} (stable : ∀ session calls, pre session → pre { session with calls })
    (patient : ∀ session patience, pre session → pre { session with patience }) (home : Home) (name phase : String) (left : Nat)
    (last : Option Issue) :
    Action.Triple pre (waitForRequiredIndex world home name resource phase left last)
      (fun index session => pre session ∧ (session.kernel.lookup home name).head? = some index) fun _ => pre := by
  induction left generalizing last with
  | zero =>
    rw [waitForRequiredIndex]
    apply (lookupOnce_triple stable home name last).bind
    rintro ⟨indexes, seen⟩
    dsimp only
    cases first : indexes.head? with
    | some index => exact fun session holds => ⟨holds.1, holds.2 index rfl⟩
    | none => exact fun session holds => holds.1
  | succ left ih =>
    rw [waitForRequiredIndex]
    apply (lookupOnce_triple stable home name last).bind
    rintro ⟨indexes, seen⟩
    dsimp only
    cases first : indexes.head? with
    | some index => exact fun session holds => ⟨holds.1, holds.2 index rfl⟩
    | none =>
      have waited : Action.Triple pre (Action.modify fun session : Session => { session with patience := left }) (fun _ => pre)
          fun _ : Issue => pre := fun session holds => patient session left holds
      exact fun session holds => (waited.bind fun _ => ih seen) session holds.1

/-- Attempts that keep what they need may be made again. -/
theorem untilDeadline_triple {pre post : Session → Prop} {attempt : Runs Unit} {late : Session → Issue → Issue}
    (patient : ∀ session patience, pre session → pre { session with patience })
    (valid : Action.Triple pre attempt (fun _ => post) fun _ => pre) :
    Action.Triple pre (untilDeadline world attempt late) (fun _ => post) fun _ => pre := by
  have retries : ∀ fuel, Action.Triple pre (retrying attempt late fuel) (fun _ => post) fun _ => pre := by
    intro fuel
    induction fuel with
    | zero => exact valid.recover fun issue session holds => holds
    | succ fuel ih =>
      apply valid.recover
      intro issue
      split
      next =>
        intro session holds
        simp only [Bind.bind, Action.andThen, Action.inspect]
        cases session.patience with
        | zero => exact holds
        | succ left => exact ih _ (patient session left holds)
      next => exact fun session holds => holds
  intro session holds
  exact retries _ _ (patient session _ holds)

/-- A request that changes the device of an end leaves the other one alone. -/
theorem changing_alters {update : Kernel → Device → Device} {session after : Session} {home : Home} {name : String} {index : Nat}
    (pair : Pair session.kernel token own other) (found : Found session.kernel own home name index)
    (keeps : ∀ device, (update session.kernel device).serial = device.serial ∧ (update session.kernel device).peer = device.peer ∧
      (device.ifalias = some token → (update session.kernel device).ifalias = some token))
    (run : changing home index update session = .ok ((), after)) :
    ∃ kernel, after = { session with kernel } ∧ Alters own session.kernel kernel ∧
      ∃ device, device.serial = own ∧ device.home = home ∧ device.name = name ∧ device.index = index ∧
        update session.kernel device ∈ kernel.devices := by
  obtain ⟨device, member, rfl, rfl, rfl, rfl⟩ := found
  obtain ⟨serial, peer, bears⟩ := keeps device
  have mine := pair.mine member rfl
  unfold changing at run
  split at run
  next => cases run
  next kernel changed =>
    cases run
    obtain ⟨alters, final⟩ := change_alters changed (find?_of_mem member) ⟨serial, (bears mine).trans mine.symm, peer⟩
    exact ⟨kernel, rfl, alters, device, rfl, rfl, rfl, rfl, final⟩

theorem Harmless.alters {session : Session} {kernel : Kernel} (harmless : Harmless before token session)
    (pair : Pair session.kernel token own other) (alters : Alters own session.kernel kernel) :
    Harmless before token { session with kernel } := ⟨harmless.1.trans (pair.sameBut alters), harmless.2⟩

theorem Moving.alters {before after : Kernel} (moving : Moving token own other endpoint place before)
    (alters : Alters own before after)
    (stays : At after own none endpoint.temporaryName ∨ At after own (some endpoint.netns) endpoint.temporaryName) :
    Moving token own other endpoint place after where
  pair := moving.pair.alters alters
  other := moving.other.alters moving.pair.apart.symm alters
  reserved := moving.reserved.alters alters
  place := stays

/-- A phase is noted where what holds does not depend on it. -/
theorem enter_triple {pre : Session → Prop} {fails : Issue → Session → Prop} {phase : String}
    (noted : ∀ session phase, pre session → pre { session with phase }) :
    Action.Triple pre (enter phase) (fun _ => pre) fails := fun session holds => noted session phase holds

section Attempt

variable (books : List EndpointPlan × List EndpointPlan × Bool × Bool × Bool)

/-- An end is being moved, and the books are as they were. -/
def MovingBy (before : Kernel) (token : String) (own other : Nat) (endpoint : EndpointPlan) (place : Home × String)
    (books : List EndpointPlan × List EndpointPlan × Bool × Bool × Bool) (session : Session) : Prop :=
  session.books = books ∧ Moving token own other endpoint place session.kernel ∧ Harmless before token session

/-- The end that a wait has found. -/
def FoundBy (own : Nat) (endpoint : EndpointPlan) (index : Nat) (session : Session) : Prop :=
  Found session.kernel own none endpoint.temporaryName index

theorem setAlias_triple (index : Nat) : Action.Triple
    (fun session => MovingBy before token own other endpoint place books session ∧ FoundBy own endpoint index session)
    (setAlias world.creating none index token)
    (fun _ session => MovingBy before token own other endpoint place books session ∧ FoundBy own endpoint index session)
    fun _ => MovingBy before token own other endpoint place books := by
  apply call_triple
  · exact fun _ _ holds => holds
  · rintro session ⟨⟩ after ⟨⟨noted, moving, harmless⟩, found⟩ run
    obtain ⟨kernel, rfl, alters, device, serial, home, name, at_, final⟩ :=
      changing_alters moving.pair found (fun _ => ⟨rfl, rfl, fun _ => rfl⟩) run
    have here : Found kernel own none endpoint.temporaryName index := ⟨_, final, serial, home, name, at_⟩
    have stays : At kernel own none endpoint.temporaryName := ⟨_, final, serial, home, name⟩
    have after := moving.alters alters (.inl stays)
    have kept := harmless.alters moving.pair alters
    exact ⟨⟨⟨noted, after, kept⟩, here⟩, fun _ _ => ⟨noted, after, kept⟩⟩
  · exact fun _ _ holds => holds.1

theorem setNamespace_triple (index : Nat) : Action.Triple
    (fun session => MovingBy before token own other endpoint place books session ∧ FoundBy own endpoint index session)
    (setNamespace world.creating none index endpoint.netns)
    (fun _ session => MovingBy before token own other endpoint place books session ∧
      At session.kernel own (some endpoint.netns) endpoint.temporaryName)
    fun _ => MovingBy before token own other endpoint place books := by
  apply call_triple
  · exact fun _ _ holds => holds
  · rintro session ⟨⟩ after ⟨⟨noted, moving, harmless⟩, found⟩ run
    obtain ⟨kernel, rfl, alters, device, serial, home, name, at_, final⟩ :=
      changing_alters moving.pair found (fun _ => ⟨rfl, rfl, id⟩) run
    have gone : At kernel own (some endpoint.netns) endpoint.temporaryName := ⟨_, final, serial, rfl, name⟩
    have after := moving.alters alters (.inr gone)
    have kept := harmless.alters moving.pair alters
    exact ⟨⟨⟨noted, after, kept⟩, gone⟩, fun _ _ => ⟨noted, after, kept⟩⟩
  · exact fun _ _ holds => holds.1

/-- One attempt to move an end keeps the other one in its place. -/
theorem moveOnce_triple : Action.Triple (MovingBy before token own other endpoint place books) (moveOnce world resource token endpoint)
    (fun _ session => MovingBy before token own other endpoint place books session ∧
      At session.kernel own (some endpoint.netns) endpoint.temporaryName)
    fun _ => MovingBy before token own other endpoint place books := by
  apply (enter_triple fun _ _ holds => holds).bind
  intro _
  apply Action.Triple.look.bind
  intro session
  have waited : Action.Triple (MovingBy before token own other endpoint place books)
      (waitForRequiredIndex world none endpoint.temporaryName resource "root-after-create" session.patience none)
      (fun index session => MovingBy before token own other endpoint place books session ∧ FoundBy own endpoint index session)
      fun _ => MovingBy before token own other endpoint place books := by
    have waits := @waitForRequiredIndex_triple world resource (MovingBy before token own other endpoint place books)
      (fun _ _ holds => holds) (fun _ _ holds => holds) none endpoint.temporaryName "root-after-create" session.patience none
    apply waits.weaken
    · exact fun _ holds => holds
    · rintro index session ⟨holds, first⟩
      obtain ⟨device, member, home, name, same⟩ := lookup_head first
      exact ⟨holds, device, member, holds.2.1.reserved device member home name, home, name, same⟩
    · exact fun _ _ holds => holds
  apply (waited.weaken (fun _ holds => holds.1) (fun _ _ holds => holds) fun _ _ holds => holds).bind
  intro index
  apply (enter_triple fun _ _ holds => holds).bind
  intro _
  apply (setAlias_triple books index).bind
  intro _
  apply (enter_triple fun _ _ holds => holds).bind
  intro _
  exact setNamespace_triple books index

theorem moveVethEndpoint_triple : Action.Triple (MovingBy before token own other endpoint place books)
    (moveVethEndpoint world resource token endpoint)
    (fun _ session => MovingBy before token own other endpoint place books session ∧
      At session.kernel own (some endpoint.netns) endpoint.temporaryName)
    fun _ => MovingBy before token own other endpoint place books := by
  apply (enter_triple fun _ _ holds => holds).bind
  intro _
  exact untilDeadline_triple (fun _ _ holds => holds) (moveOnce_triple books)

end Attempt

end Moving

section Configuring

variable {world : World} {before : Kernel} {resource token : String} {own other : Nat} {endpoint : EndpointPlan} {place : Home × String}
  {moved renamed : List EndpointPlan}

/-- One end is in its namespace under its temporary or its final name, and the other is in its place. -/
structure Configuring (token : String) (own other : Nat) (endpoint : EndpointPlan) (place : Home × String) (kernel : Kernel)
    (renamed : List EndpointPlan) : Prop where
  pair : Pair kernel token own other
  other : At kernel other place.1 place.2
  reserved : Reserved kernel own (some endpoint.netns) endpoint.temporaryName
  place : At kernel own (some endpoint.netns) endpoint.temporaryName ∨ At kernel own (some endpoint.netns) endpoint.interface
  named : endpoint ∈ renamed → At kernel own (some endpoint.netns) endpoint.interface

/-- An end is being configured, and the books are as they were but for its name. -/
def ConfiguringBy (before : Kernel) (token : String) (own other : Nat) (endpoint : EndpointPlan) (place : Home × String)
    (moved renamed : List EndpointPlan) (session : Session) : Prop :=
  Configuring token own other endpoint place session.kernel session.renamedEndpoints ∧ session.movedEndpoints = moved ∧
    (∀ apart, apart ≠ endpoint → (apart ∈ session.renamedEndpoints ↔ apart ∈ renamed)) ∧ session.created = true ∧
    Harmless before token session

def FoundHere (own : Nat) (endpoint : EndpointPlan) (index : Nat) (session : Session) : Prop :=
  ∃ name, Found session.kernel own (some endpoint.netns) name index

theorem found_of_reserved {kernel : Kernel} {name : String} {index : Nat}
    (reserved : Reserved kernel own (some endpoint.netns) name) (first : (kernel.lookup (some endpoint.netns) name).head? = some index) :
    Found kernel own (some endpoint.netns) name index := by
  obtain ⟨device, member, home, named, same⟩ := lookup_head first
  exact ⟨device, member, reserved device member home named, home, named, same⟩

theorem ConfiguringBy.rename {session : Session} (configuring : ConfiguringBy before token own other endpoint place moved renamed session)
    (here : At session.kernel own (some endpoint.netns) endpoint.interface) :
    ConfiguringBy before token own other endpoint place moved renamed
      { session with renamedEndpoints := endpoint :: session.renamedEndpoints } := by
  obtain ⟨⟨pair, others, reserved, places, named⟩, books, apart, created, harmless⟩ := configuring
  refine ⟨⟨pair, others, reserved, places, fun _ => here⟩, books, ?_, created, harmless⟩
  intro another different
  rw [List.mem_cons, or_iff_right different]
  exact apart another different

/-- The index that is used is that of the end. -/
theorem endpointIndex_triple : Action.Triple (ConfiguringBy before token own other endpoint place moved renamed)
    (endpointIndex world resource token endpoint)
    (fun index session => ConfiguringBy before token own other endpoint place moved renamed session ∧ FoundHere own endpoint index session)
    fun _ => ConfiguringBy before token own other endpoint place moved renamed := by
  apply Action.Triple.look.bind
  intro seen
  by_cases known : endpoint ∈ seen.renamedEndpoints
  · have finds := @linkLookup_triple world.creating (fun session => ConfiguringBy before token own other endpoint place moved renamed session ∧
      endpoint ∈ session.renamedEndpoints) (some endpoint.netns) endpoint.interface fun _ _ holds => holds
    simp only [if_pos known]
    apply (finds.weaken (fun session holds => ⟨holds.1, by rw [← holds.2]; exact known⟩) (fun _ _ holds => holds)
      fun _ _ holds => holds.1).bind
    intro indexes
    cases first : indexes.head? with
    | none => exact fun session holds => holds.1.1
    | some index =>
      rintro session ⟨⟨holds, listed⟩, rfl⟩
      exact ⟨holds, endpoint.interface, found_of_reserved (holds.1.named listed).reserved first⟩
  · have finds := @linkLookup_triple world.creating (ConfiguringBy before token own other endpoint place moved renamed)
      (some endpoint.netns) endpoint.temporaryName fun _ _ holds => holds
    simp only [if_neg known]
    apply (finds.weaken (fun session holds => holds.1) (fun _ _ holds => holds) fun _ _ holds => holds).bind
    intro indexes
    cases first : indexes.head? with
    | some index =>
      rintro session ⟨holds, rfl⟩
      exact ⟨holds, endpoint.temporaryName, found_of_reserved holds.1.reserved first⟩
    | none =>
      have again := @linkLookup_triple world.creating (fun session => ConfiguringBy before token own other endpoint place moved renamed session ∧
        At session.kernel own (some endpoint.netns) endpoint.interface) (some endpoint.netns) endpoint.interface fun _ _ holds => holds
      apply (again.weaken _ (fun _ _ holds => holds) fun _ _ holds => holds.1).bind
      · intro finals
        cases second : finals.head? with
        | none => exact fun session holds => holds.1.1
        | some index =>
          have links := @getLinks_triple world.creating (fun session => (ConfiguringBy before token own other endpoint place moved renamed session ∧
            At session.kernel own (some endpoint.netns) endpoint.interface) ∧ FoundHere own endpoint index session)
            (some endpoint.netns) index fun _ _ holds => holds
          apply (links.weaken _ (fun _ _ holds => holds) fun _ _ holds => holds.1.1).bind
          · intro messages
            split
            next =>
              rintro session ⟨⟨⟨holds, here⟩, found⟩, _⟩
              exact ⟨holds.rename here, found⟩
            next => exact fun session holds => holds.1.1.1
          · rintro session ⟨⟨holds, here⟩, rfl⟩
            exact ⟨⟨holds, here⟩, endpoint.interface, found_of_reserved here.reserved second⟩
      · rintro session ⟨holds, rfl⟩
        refine ⟨holds, holds.1.place.resolve_left ?_⟩
        rintro ⟨device, member, _, home, name⟩
        have listed := lookup_of_mem member
        rw [home, name, first] at listed
        cases listed

/-- The end gets its final name. -/
theorem setName_triple (index : Nat) : Action.Triple
    (fun session => ConfiguringBy before token own other endpoint place moved renamed session ∧ FoundHere own endpoint index session)
    (setName world.creating (some endpoint.netns) index endpoint.interface)
    (fun _ session => (ConfiguringBy before token own other endpoint place moved renamed session ∧
      At session.kernel own (some endpoint.netns) endpoint.interface) ∧ FoundHere own endpoint index session)
    fun _ => ConfiguringBy before token own other endpoint place moved renamed := by
  apply call_triple
  · exact fun _ _ holds => holds
  · rintro session ⟨⟩ after ⟨⟨configuring, moves, apart, created, harmless⟩, name, found⟩ run
    obtain ⟨kernel, rfl, alters, device, serial, home, _, at_, final⟩ :=
      changing_alters configuring.pair found (fun _ => ⟨rfl, rfl, id⟩) run
    have here : At kernel own (some endpoint.netns) endpoint.interface := ⟨_, final, serial, home, rfl⟩
    have after : Configuring token own other endpoint place kernel session.renamedEndpoints :=
      ⟨configuring.pair.alters alters, configuring.other.alters configuring.pair.apart.symm alters,
        configuring.reserved.alters alters, .inr here, fun _ => here⟩
    have kept := harmless.alters configuring.pair alters
    exact ⟨⟨⟨⟨after, moves, apart, created, kept⟩, here⟩, endpoint.interface, _, final, serial, home, rfl, at_⟩,
      fun _ _ => ⟨after, moves, apart, created, kept⟩⟩
  · exact fun _ _ holds => holds.1

theorem addQdisc_triple {pre : Session → Prop} (stable : ∀ session calls, pre session → pre { session with calls }) (home : Home)
    (index : Nat) (qdisc : QdiscPlan) (netns interface : String) :
    Action.Triple pre (addQdisc world home index qdisc netns interface) (fun _ => pre) fun _ => pre := by
  apply Action.Triple.recover
  · cases qdisc with
    | simple plan => exact nothing_triple stable
    | tbf plan => exact touching_triple stable
    | fqCodel plan => exact touching_triple stable
    | cake plan => exact touching_triple stable
    | htb plan =>
      apply (touching_triple stable).bind
      intro _
      apply (touching_triple stable).bind
      intro _
      cases plan.leaf with
      | simple leaf => exact nothing_triple stable
      | fqCodel leaf => exact touching_triple stable
  · intro issue session holds
    cases issue with
    | os type errno => cases errno with
      | none => exact holds
      | some errno => exact holds
    | nslab _ => exact holds
    | netlink _ => exact holds
    | keyboardInterrupt => exact holds
    | other _ => exact holds

theorem addNetem_triple {pre : Session → Prop} (stable : ∀ session calls, pre session → pre { session with calls }) (home : Home)
    (index : Nat) (netem : NetemPlan) : Action.Triple pre (addNetem world home index netem) (fun _ => pre) fun _ => pre := by
  unfold addNetem
  cases netem.rate with
  | none => exact touching_triple stable
  | some rate => exact touching_triple stable

theorem nameEndpoint_triple (index : Nat) : Action.Triple
    (fun session => ConfiguringBy before token own other endpoint place moved renamed session ∧ FoundHere own endpoint index session)
    (nameEndpoint world endpoint index)
    (fun _ session => ConfiguringBy before token own other endpoint place moved renamed session ∧ endpoint ∈ session.renamedEndpoints)
    fun _ => ConfiguringBy before token own other endpoint place moved renamed := by
  apply Action.Triple.look.bind
  intro seen
  split
  next known =>
    rintro session ⟨⟨holds, _⟩, rfl⟩
    exact ⟨holds, known⟩
  next =>
    have entered : Action.Triple _ (enter "namespace-rename") (fun _ session =>
        ConfiguringBy before token own other endpoint place moved renamed session ∧ FoundHere own endpoint index session)
        fun _ : Issue => ConfiguringBy before token own other endpoint place moved renamed := enter_triple fun _ _ holds => holds
    apply (entered.weaken (fun session holds => holds.1) (fun _ _ holds => holds) fun _ _ holds => holds).bind
    intro _
    apply (setName_triple index).bind
    rintro _ session ⟨⟨holds, here⟩, _⟩
    exact ⟨holds.rename here, List.mem_cons_self⟩

theorem shapeEndpoint_triple {pre : Session → Prop} (stable : ∀ session calls, pre session → pre { session with calls })
    (noted : ∀ session phase, pre session → pre { session with phase }) (index : Nat) (netem : Option NetemPlan)
    (qdisc : Option QdiscPlan) :
    Action.Triple pre (shapeEndpoint world endpoint index netem qdisc) (fun _ => pre) fun _ => pre := by
  unfold shapeEndpoint
  split
  next netem _ =>
    apply (enter_triple noted).bind
    exact fun _ => addNetem_triple stable _ _ _
  next qdisc =>
    apply (enter_triple noted).bind
    exact fun _ => addQdisc_triple stable _ _ _ _ _
  next => exact fun _ holds => holds

/-- One attempt to configure an end keeps the other one in its place. -/
theorem configureOnce_triple (mtu : Int) (netem : Option NetemPlan) (qdisc : Option QdiscPlan) :
    Action.Triple (ConfiguringBy before token own other endpoint place moved renamed)
      (configureOnce world resource token endpoint mtu netem qdisc)
      (fun _ session => ConfiguringBy before token own other endpoint place moved renamed session ∧ endpoint ∈ session.renamedEndpoints)
      fun _ => ConfiguringBy before token own other endpoint place moved renamed := by
  apply managedHandle_triple (fun _ _ holds => holds) (fun _ _ _ holds => holds) (fun _ _ _ holds => holds) (fun _ _ holds => holds)
    fun _ _ _ holds => holds.1
  apply (enter_triple fun _ _ holds => holds).bind
  intro _
  apply endpointIndex_triple.bind
  intro index
  apply (nameEndpoint_triple index).bind
  intro _
  have settled : Action.Triple (fun session => ConfiguringBy before token own other endpoint place moved renamed session ∧
      endpoint ∈ session.renamedEndpoints) (do
        enter "namespace-set-mtu"
        call world.creating (.setMtu (some endpoint.netns) index mtu) (touching (some endpoint.netns) index)
        enter "namespace-set-up"
        call world.creating (.setUp (some endpoint.netns) index) (touching (some endpoint.netns) index)
        shapeEndpoint world endpoint index netem qdisc)
      (fun _ session => ConfiguringBy before token own other endpoint place moved renamed session ∧ endpoint ∈ session.renamedEndpoints)
      fun _ session => ConfiguringBy before token own other endpoint place moved renamed session ∧ endpoint ∈ session.renamedEndpoints := by
    apply (enter_triple fun _ _ holds => holds).bind
    intro _
    apply (touching_triple fun _ _ holds => holds).bind
    intro _
    apply (enter_triple fun _ _ holds => holds).bind
    intro _
    apply (touching_triple fun _ _ holds => holds).bind
    exact fun _ => shapeEndpoint_triple (fun _ _ holds => holds) (fun _ _ holds => holds) _ _ _
  exact settled.weaken (fun _ holds => holds) (fun _ _ holds => holds) fun _ _ holds => holds.1

theorem configureVethEndpoint_triple (link : LinkPlan) :
    Action.Triple (ConfiguringBy before token own other endpoint place moved renamed)
      (configureVethEndpoint world resource token link endpoint)
      (fun _ session => ConfiguringBy before token own other endpoint place moved renamed session ∧ endpoint ∈ session.renamedEndpoints)
      fun _ => ConfiguringBy before token own other endpoint place moved renamed := by
  apply (enter_triple fun _ _ holds => holds).bind
  intro _
  exact untilDeadline_triple (fun _ _ holds => holds) (configureOnce_triple _ _ _)

end Configuring

section Cleaning

variable {world : World} {token : String}

/-- The lookups and the deletions of a cleanup do what they are asked to. -/
def CleansWell (world : World) : Prop := ∀ calls request, (∀ home, request ≠ .closeHandle home) → world.cleaning calls request = .done

theorem call_done {α : Type} {request : Call} {effect : Session → Except Issue (α × Session)} {session after : Session} {value : α}
    (well : CleansWell world) (working : ∀ home, request ≠ .closeHandle home)
    (runs : effect { session with calls := session.calls + 1 } = .ok (value, after)) :
    call world.cleaning request effect session = (.ok value, after) := by
  simp only [call, well session.calls request working, runs]

theorem call_nothing (replies : Nat → Call → Reply) (request : Call) (session : Session) :
    ∃ outcome, call replies request nothing session = (outcome, { session with calls := session.calls + 1 }) := by
  simp only [call, nothing]
  cases replies session.calls request with
  | done => exact ⟨_, rfl⟩
  | failed issue took => cases took with
    | true => exact ⟨_, rfl⟩
    | false => exact ⟨_, rfl⟩

/-- A device with the token has been removed. -/
def Emptied (token : String) (before after : Kernel) : Prop :=
  ∃ home index device, before.delete home index = .ok (device, after) ∧ device.ifalias = some token

/-- No device with the token has one of some names. -/
def Spared (token : String) (home : Home) (names : List String) (kernel : Kernel) : Prop :=
  ∀ name ∈ names, ∀ device ∈ kernel.devices, device.home = home → device.name = name → device.ifalias ≠ some token

/-- One of the ends bears the token where the books have it. -/
def Anchored (token : String) (link : LinkPlan) (session : Session) : Prop :=
  ∃ endpoint ∈ link.endpoints, ∃ device ∈ session.kernel.devices, device.ifalias = some token ∧
    session.location endpoint = (device.home, device.name)

theorem cleanupName_done (well : CleansWell world) (home : Home) (name : String) (session : Session) :
    ∃ removed after, cleanupName world token home name session = (.ok removed, after) ∧
      ((removed = true ∧ Emptied token session.kernel after.kernel) ∨
        (removed = false ∧ after.kernel = session.kernel ∧ Spared token home [name] session.kernel)) := by
  have looked : linkLookup world.cleaning home name session =
      (.ok (session.kernel.lookup home name), { session with calls := session.calls + 1 }) := call_done well (by simp) rfl
  rw [cleanupName, Action.bind_of_ok looked]
  cases first : (session.kernel.lookup home name).head? with
  | none =>
    refine ⟨false, _, rfl, .inr ⟨rfl, rfl, ?_⟩⟩
    rintro _ same device member rfl rfl
    rw [List.mem_singleton] at same
    subst same
    rw [lookup_of_mem member] at first
    cases first
  | some index =>
    obtain ⟨device, member, rfl, rfl, rfl⟩ := lookup_head first
    have found := find?_of_mem member
    have linked : getLinks world.cleaning device.home device.index { session with calls := session.calls + 1 } =
        (.ok [device], { session with calls := session.calls + 1 + 1 }) := by
      refine call_done well (by simp) ?_
      simp only [found]
    dsimp only
    rw [Action.bind_of_ok linked]
    by_cases mine : device.ifalias = some token
    · obtain ⟨kernel, deleted⟩ : ∃ kernel, session.kernel.delete device.home device.index = .ok (device, kernel) := by
        simp only [Kernel.delete, found, Except.ok.injEq, Prod.mk.injEq, true_and, exists_eq']
      have removes : linkDel world.cleaning device.home device.index { session with calls := session.calls + 1 + 1 } =
          (.ok (), { session with calls := session.calls + 1 + 1 + 1, kernel, deleted := session.deleted ++ [device] }) := by
        refine call_done well (by simp) ?_
        simp only [deleted]
      simp only [List.head?_cons, if_pos mine]
      rw [Action.bind_of_ok removes]
      exact ⟨true, _, rfl, .inl ⟨rfl, _, _, device, deleted, mine⟩⟩
    · simp only [List.head?_cons, if_neg mine]
      refine ⟨false, _, rfl, .inr ⟨rfl, rfl, ?_⟩⟩
      intro _ same other among home name
      rw [List.mem_singleton.mp same] at name
      rw [session.kernel.names other among device member home name]
      exact mine

/-- A location is left without the token, or has lost a device with it. -/
theorem cleanupNames_done (well : CleansWell world) (home : Home) (names : List String) (session : Session) :
    ∃ after, cleanupNames world token home names session = (.ok (), after) ∧
      (Emptied token session.kernel after.kernel ∨ (after.kernel = session.kernel ∧ Spared token home names session.kernel)) := by
  induction names generalizing session with
  | nil => exact ⟨session, rfl, .inr ⟨rfl, by simp [Spared]⟩⟩
  | cons name names ih =>
    obtain ⟨removed, between, run, result⟩ := @cleanupName_done world token well home name session
    have recovered : Action.recover (cleanupName world token home name) (fun _ => pure false) session = (.ok removed, between) := by
      rw [Action.recover, run]
    rw [cleanupNames, Action.bind_of_ok recovered]
    rcases result with ⟨rfl, emptied⟩ | ⟨rfl, same, spared⟩
    · exact ⟨between, rfl, .inl emptied⟩
    · obtain ⟨after, run, result⟩ := ih between
      rw [same] at result
      refine ⟨after, run, result.imp id fun both => ⟨both.1, ?_⟩⟩
      intro other listed
      rcases List.mem_cons.mp listed with rfl | later
      · exact spared other List.mem_cons_self
      · exact both.2 other later

theorem cleanupVethLocation_done (well : CleansWell world) (home : Home) (names : List String) (session : Session) :
    ∃ after, cleanupVethLocation world token home names session = (.ok (), after) ∧
      (Emptied token session.kernel after.kernel ∨ (after.kernel = session.kernel ∧ Spared token home names session.kernel)) := by
  have opened : call world.cleaning (.openHandle home) nothing session = (.ok (), { session with calls := session.calls + 1 }) :=
    call_done well (by simp) rfl
  obtain ⟨after, run, result⟩ := @cleanupNames_done world token well home names { session with calls := session.calls + 1 }
  have body : Action.attempt (cleanupNames world token home names) { session with calls := session.calls + 1 } =
      (.ok (.ok ()), after) := by rw [Action.attempt, run]
  obtain ⟨outcome, closes⟩ := call_nothing world.cleaning (.closeHandle home) after
  have closed : Action.attempt (call world.cleaning (.closeHandle home) nothing) after =
      (.ok outcome, { after with calls := after.calls + 1 }) := by rw [Action.attempt, closes]
  refine ⟨{ after with calls := after.calls + 1 }, ?_, result⟩
  rw [cleanupVethLocation, Action.recover, managedHandle, Action.bind_of_ok opened, Action.bind_of_ok body, Action.bind_of_ok closed]
  cases outcome with
  | ok _ => rfl
  | error _ => rfl

/-- All locations in turn. -/
theorem cleanupLocations_done (well : CleansWell world) (names : Home → List String) (homes : List Home) (session : Session)
    (either : Gone session.kernel token ∨ ∃ left right, Pair session.kernel token left right) :
    ∃ after, Action.each homes (fun home => cleanupVethLocation world token home (names home)) session = (.ok (), after) ∧
      (Gone after.kernel token ∨ (after.kernel = session.kernel ∧ ∀ home ∈ homes, Spared token home (names home) session.kernel)) := by
  induction homes generalizing session with
  | nil => exact ⟨session, rfl, .inr ⟨rfl, by simp⟩⟩
  | cons home homes ih =>
    obtain ⟨between, run, result⟩ := @cleanupVethLocation_done world token well home (names home) session
    have unfolds : Action.each (home :: homes) (fun home => cleanupVethLocation world token home (names home)) session =
        Action.each homes (fun home => cleanupVethLocation world token home (names home)) between := Action.bind_of_ok run
    rw [unfolds]
    rcases result with ⟨at_, index, device, deleted, mine⟩ | ⟨same, spared⟩
    · have gone : Gone between.kernel token := by
        rcases either with gone | ⟨_, _, pair⟩
        · exact gone.delete deleted
        · exact pair.delete deleted mine
      obtain ⟨after, run, result⟩ := ih between (.inl gone)
      refine ⟨after, run, .inl ?_⟩
      rcases result with still | ⟨same, _⟩
      · exact still
      · rwa [same]
    · obtain ⟨after, run, result⟩ := ih between (by rwa [same])
      rw [same] at result
      refine ⟨after, run, result.imp id fun both => ⟨both.1, ?_⟩⟩
      exact List.forall_mem_cons.mpr ⟨spared, both.2⟩

/-- The names of a location are those of the ends that the books have there. -/
theorem cleanupVeth_done {link : LinkPlan} {session : Session} (well : CleansWell world)
    (either : Gone session.kernel token ∨ ((∃ left right, Pair session.kernel token left right) ∧ Anchored token link session)) :
    ∃ after, cleanupVeth world token link session = (.ok (), after) ∧ Gone after.kernel token := by
  have looked : (Action.inspect Except.ok : Runs Session) session = (.ok session, session) := rfl
  rw [cleanupVeth, Action.bind_of_ok looked]
  generalize homesFrom : (if (none : Home) ∈ (link.endpoints.map session.location).map Prod.fst
    then none :: ((link.endpoints.map session.location).map Prod.fst).filter (·.isSome)
    else (link.endpoints.map session.location).map Prod.fst) = homes
  obtain ⟨after, run, result⟩ := @cleanupLocations_done world token well
    (fun home => ((link.endpoints.map session.location).filter (·.1 = home)).map Prod.snd) (Dict.fromKeys homes) session
    (either.imp id And.left)
  refine ⟨after, run, ?_⟩
  rcases result with gone | ⟨same, spared⟩
  · exact gone
  rcases either with gone | ⟨_, anchored⟩
  · rwa [same]
  exfalso
  obtain ⟨endpoint, end_, device, member, mine, located⟩ := anchored
  have listed : session.location endpoint ∈ link.endpoints.map session.location := List.mem_map_of_mem end_
  have home : device.home ∈ (link.endpoints.map session.location).map Prod.fst := by
    have inside : (session.location endpoint).1 ∈ (link.endpoints.map session.location).map Prod.fst := List.mem_map_of_mem listed
    rwa [located] at inside
  have visited : device.home ∈ Dict.fromKeys homes := by
    rw [Dict.mem_fromKeys, ← homesFrom]
    split
    next =>
      cases at_ : device.home with
      | none => exact List.mem_cons_self
      | some netns =>
        rw [at_] at home
        exact List.mem_cons_of_mem _ (List.mem_filter.mpr ⟨home, rfl⟩)
    next => exact home
  have named : device.name ∈ ((link.endpoints.map session.location).filter (·.1 = device.home)).map Prod.snd := by
    refine List.mem_map.mpr ⟨session.location endpoint, List.mem_filter.mpr ⟨listed, ?_⟩, ?_⟩
    · rw [located, decide_eq_true_eq]
    · rw [located]
  exact spared device.home visited device.name named device member rfl rfl mine

/-- Where a cleanup has come to, with whatever has failed. -/
def Tidy (before : Kernel) (token : String) (session : Session) : Prop :=
  Harmless before token session ∧ (Gone session.kernel token ∨ ∃ left right, Pair session.kernel token left right)

variable {before : Kernel}

theorem linkDel_triple (home : Home) (index : Nat) : Action.Triple
    (fun session => Tidy before token session ∧ ∃ device, session.kernel.find? home index = some device ∧ device.ifalias = some token)
    (linkDel world.cleaning home index) (fun _ => Tidy before token) fun _ => Tidy before token := by
  apply call_triple
  · exact fun _ _ holds => holds
  · rintro session ⟨⟩ after ⟨⟨⟨same, asked⟩, either⟩, device, found, mine⟩ run
    split at run
    next => cases run
    next other kernel deleted =>
      cases run
      have own : other = device := by
        simp only [Kernel.delete, found, Except.ok.injEq, Prod.mk.injEq] at deleted
        exact deleted.1.symm
      subst own
      have tidy : Tidy before token { session with kernel, deleted := session.deleted ++ [other] } := by
        obtain ⟨left, right, pair⟩ := either.resolve_left fun gone => gone other (find?_some found).1 mine
        refine ⟨⟨same.trans (pair.delete_sameBut deleted mine), ?_⟩, .inl (pair.delete deleted mine)⟩
        intro removed listed
        rcases List.mem_append.mp listed with earlier | last
        · exact asked removed earlier
        · rwa [List.mem_singleton.mp last]
      exact ⟨tidy, fun _ _ => tidy⟩
  · exact fun _ _ holds => holds.1

theorem cleanupName_keeps (home : Home) (name : String) : Action.Keeps (Tidy before token) (cleanupName world token home name) := by
  have looks := @linkLookup_triple world.cleaning (Tidy before token) home name fun _ _ holds => holds
  apply (looks.weaken (fun _ holds => holds) (fun _ _ holds => holds.1) fun _ _ holds => holds).bind
  intro indexes
  cases indexes.head? with
  | none => exact Action.Keeps.done
  | some index =>
    have links := @getLinks_triple world.cleaning (Tidy before token) home index fun _ _ holds => holds
    apply links.bind
    intro messages
    cases first : messages.head? with
    | none => exact fun session holds => holds.1
    | some device =>
      dsimp only
      split
      next mine =>
        have deletes := @linkDel_triple world token before home index
        have own : ∀ session : Session, (Tidy before token session ∧
            ∃ device, messages = [device] ∧ session.kernel.find? home index = some device) →
            Tidy before token session ∧ ∃ device, session.kernel.find? home index = some device ∧ device.ifalias = some token := by
          rintro session ⟨holds, other, rfl, found⟩
          cases first
          exact ⟨holds, device, found, mine⟩
        apply (deletes.weaken own (fun _ _ holds => holds) fun _ _ holds => holds).bind
        exact fun _ _ holds => holds
      next => exact fun session holds => holds.1

theorem cleanupNames_keeps (home : Home) (names : List String) :
    Action.Keeps (Tidy before token) (cleanupNames world token home names) := by
  induction names with
  | nil => exact Action.Keeps.done
  | cons name names ih =>
    apply ((cleanupName_keeps home name).recover fun _ => Action.Keeps.done).bind
    intro removed
    cases removed with
    | true => exact Action.Keeps.done
    | false => exact ih

/-- A cleanup does no harm, whatever fails in it. -/
theorem cleanupVeth_keeps (link : LinkPlan) : Action.Keeps (Tidy before token) (cleanupVeth world token link) := by
  apply Action.Keeps.bind Action.Keeps.inspect
  intro session
  apply Action.Keeps.each
  intro home _
  refine Action.Keeps.recover ?_ fun _ => Action.Keeps.done
  exact managedHandle_triple (fun _ _ holds => holds) (fun _ _ _ holds => holds) (fun _ _ _ holds => holds) (fun _ _ holds => holds)
    (fun _ _ _ holds => holds) (cleanupNames_keeps home _)

end Cleaning

section Creating

variable {world : World} {before : Kernel} {token resource : String} {link : LinkPlan}

/-- The creation fails with another error than that of something that exists, even where it takes effect. -/
def CreatesOpenly (world : World) : Prop :=
  ∀ calls name peer ifalias issue, world.creating calls (.linkAdd name peer ifalias) = .failed issue true → issue.exists = false

/-- Nothing has been made. -/
def Fresh (before : Kernel) (token : String) (session : Session) : Prop :=
  Harmless before token session ∧ Gone session.kernel token ∧ session.movedEndpoints = [] ∧ session.renamedEndpoints = []

/-- What is left when a creation raises is gone, or a cleanup is made that finds it. -/
def Salvageable (world : World) (before : Kernel) (token : String) (link : LinkPlan) (issue : Issue) (session : Session) : Prop :=
  Harmless before token session ∧ (Gone session.kernel token ∨ ∃ left right, Pair session.kernel token left right ∧
    (CreatesOpenly world → (session.created = true ∨
      (session.rootNamesVerifiedAbsent = true ∧ session.creationAttempted = true ∧ issue.exists = false)) ∧
      Anchored token link session))

/-- The pair has been made, and neither end has been moved. -/
def Made (before : Kernel) (token : String) (link : LinkPlan) (session : Session) : Prop :=
  Harmless before token session ∧ session.movedEndpoints = [] ∧ session.renamedEndpoints = [] ∧
    link.left.temporaryName ≠ link.right.temporaryName ∧
    ∃ left right, Pair session.kernel token left right ∧ At session.kernel left none link.left.temporaryName ∧
      At session.kernel right none link.right.temporaryName

/-- Both ends are in their namespaces. -/
def Moved (before : Kernel) (token : String) (link : LinkPlan) (session : Session) : Prop :=
  Harmless before token session ∧ session.movedEndpoints = [link.right, link.left] ∧ session.renamedEndpoints = [] ∧
    session.created = true ∧ link.left ≠ link.right ∧
    ∃ left right, Pair session.kernel token left right ∧ At session.kernel left (some link.left.netns) link.left.temporaryName ∧
      At session.kernel right (some link.right.netns) link.right.temporaryName

theorem anchored_at {session : Session} {own other : Nat} {endpoint : EndpointPlan} {home : Home} {name : String}
    (listed : endpoint ∈ link.endpoints) (pair : Pair session.kernel token own other) (placed : At session.kernel other home name)
    (located : session.location endpoint = (home, name)) : Anchored token link session := by
  obtain ⟨device, member, serial, rfl, rfl⟩ := placed
  exact ⟨endpoint, listed, device, member, pair.symm.mine member serial, located⟩

/-- An end that is anchored keeps what is left salvageable. -/
theorem salvageable_of_anchored {session : Session} {left right : Nat} (issue : Issue) (harmless : Harmless before token session)
    (pair : Pair session.kernel token left right) (created : session.created = true) (anchored : Anchored token link session) :
    Salvageable world before token link issue session :=
  ⟨harmless, .inr ⟨left, right, pair, fun _ => ⟨.inl created, anchored⟩⟩⟩

theorem location_root {session : Session} {endpoint : EndpointPlan} (moved : endpoint ∉ session.movedEndpoints)
    (renamed : endpoint ∉ session.renamedEndpoints) : session.location endpoint = (none, endpoint.temporaryName) := by
  rw [Session.location, if_neg renamed, if_neg moved]

theorem location_moved {session : Session} {endpoint : EndpointPlan} (moved : endpoint ∈ session.movedEndpoints)
    (renamed : endpoint ∉ session.renamedEndpoints) :
    session.location endpoint = (some endpoint.netns, endpoint.temporaryName) := by
  rw [Session.location, if_neg renamed, if_pos moved]

theorem location_renamed {session : Session} {endpoint : EndpointPlan} (renamed : endpoint ∈ session.renamedEndpoints) :
    session.location endpoint = (some endpoint.netns, endpoint.interface) := by
  rw [Session.location, if_pos renamed]

/-- The creation makes the pair, or nothing. -/
theorem linkAdd_triple : Action.Triple
    (fun session => Fresh before token session ∧ session.rootNamesVerifiedAbsent = true ∧ session.creationAttempted = true)
    (linkAdd world.creating link.left.temporaryName link.right.temporaryName token)
    (fun _ session => Made before token link session ∧ session.rootNamesVerifiedAbsent = true ∧ session.creationAttempted = true)
    (Salvageable world before token link) := by
  apply call_triple
  · exact fun _ _ holds => holds
  · rintro session ⟨⟩ after ⟨⟨harmless, gone, moved, renamed⟩, verified, attempted⟩ run
    split at run
    next => cases run
    next kernel added =>
      cases run
      obtain ⟨pair, first, second, apart⟩ := addPair_pair gone added
      have kept : Harmless before token { session with kernel } := ⟨harmless.1.trans (addPair_sameBut added), harmless.2⟩
      refine ⟨⟨⟨kept, moved, renamed, apart, _, _, pair, first, second⟩, verified, attempted⟩, ?_⟩
      rintro issue ⟨calls, failed⟩
      refine ⟨kept, .inr ⟨_, _, pair, fun openly => ⟨.inr ⟨verified, attempted, openly _ _ _ _ _ failed⟩, ?_⟩⟩⟩
      apply anchored_at (List.mem_cons_self) pair.symm first
      apply location_root
      · rw [moved]
        exact List.not_mem_nil
      · rw [renamed]
        exact List.not_mem_nil
  · exact fun _ _ holds => ⟨holds.1.1, .inl holds.1.2.1⟩

/-- An end that is moved is noted in the books. -/
theorem moveEndpoint_triple {own other : Nat} {endpoint : EndpointPlan} {place : Home × String} {moved : List EndpointPlan}
    (salvageable : ∀ issue session, MovingBy before token own other endpoint place (moved, [], true, true, true) session →
      Salvageable world before token link issue session) :
    Action.Triple (MovingBy before token own other endpoint place (moved, [], true, true, true))
      (do
        moveVethEndpoint world resource token endpoint
        Action.modify fun session => { session with movedEndpoints := endpoint :: session.movedEndpoints })
      (fun _ session => session.books = (endpoint :: moved, [], true, true, true) ∧ Harmless before token session ∧
        Pair session.kernel token own other ∧ At session.kernel other place.1 place.2 ∧
        At session.kernel own (some endpoint.netns) endpoint.temporaryName)
      (Salvageable world before token link) := by
  apply ((moveVethEndpoint_triple _).weaken (fun _ holds => holds) (fun _ _ holds => holds) salvageable).bind
  rintro _ session ⟨⟨noted, moving, harmless⟩, here⟩
  refine ⟨?_, harmless, moving.pair, moving.other, here⟩
  simp only [Session.books, Prod.mk.injEq] at noted ⊢
  exact ⟨by rw [noted.1], noted.2⟩

/-- The first end is moved while the second one is in the root namespace, and then the second one. -/
theorem moveEndpoints_triple : Action.Triple
    (fun session => Made before token link session ∧ session.rootNamesVerifiedAbsent = true ∧ session.creationAttempted = true ∧
      session.created = true)
    (Action.each link.endpoints fun endpoint => do
      moveVethEndpoint world resource token endpoint
      Action.modify fun session => { session with movedEndpoints := endpoint :: session.movedEndpoints })
    (fun _ => Moved before token link) (Salvageable world before token link) := by
  rintro session ⟨⟨harmless, moved, renamed, apart, left, right, pair, first, second⟩, verified, attempted, created⟩
  have ends : link.left ≠ link.right := fun same => apart (by rw [same])
  have starts : MovingBy before token left right link.left (none, link.right.temporaryName) ([], [], true, true, true) session :=
    ⟨by rw [Session.books, moved, renamed, verified, attempted, created], ⟨pair, second, first.reserved, .inl first⟩, harmless⟩
  refine Action.Triple.bind (moveEndpoint_triple ?_) (fun _ => ?_) session starts
  · rintro issue session ⟨noted, moving, harmless⟩
    simp only [Session.books, Prod.mk.injEq] at noted
    apply salvageable_of_anchored issue harmless moving.pair noted.2.2.2.2
    apply anchored_at (List.mem_cons_of_mem _ List.mem_cons_self) moving.pair moving.other
    apply location_root <;> simp only [noted, List.not_mem_nil, not_false_eq_true]
  · have moveRight : Action.Triple (MovingBy before token right left link.right (some link.left.netns, link.left.temporaryName)
        ([link.left], [], true, true, true)) _ _ (Salvageable world before token link) :=
      @moveEndpoint_triple world before token resource link right left link.right (some link.left.netns, link.left.temporaryName)
        [link.left] (by
        rintro issue session ⟨noted, moving, harmless⟩
        simp only [Session.books, Prod.mk.injEq] at noted
        apply salvageable_of_anchored issue harmless moving.pair noted.2.2.2.2
        apply anchored_at List.mem_cons_self moving.pair moving.other
        apply location_moved <;> simp [noted])
    refine Action.Triple.bind (moveRight.weaken ?_ (fun _ _ holds => holds) fun _ _ holds => holds) fun _ => ?_
    · rintro session ⟨noted, harmless, pair, placed, here⟩
      exact ⟨noted, ⟨pair.symm, here, placed.reserved, .inl placed⟩, harmless⟩
    · rintro session ⟨noted, harmless, pair, placed, here⟩
      simp only [Session.books, Prod.mk.injEq] at noted
      exact ⟨harmless, noted.1, noted.2.1, noted.2.2.2.2, ends, left, right, pair.symm, placed, here⟩

/-- The pair is made and moved, or it can be found. -/
theorem createInRoot_triple : Action.Triple (Fresh before token) (createInRoot world resource token link)
    (fun _ => Moved before token link) (Salvageable world before token link) := by
  have unmade : ∀ issue session, Fresh before token session → Salvageable world before token link issue session :=
    fun _ _ fresh => ⟨fresh.1, .inl fresh.2.1⟩
  have checked : Action.Keeps (Fresh before token) (Action.each [link.left.temporaryName, link.right.temporaryName] fun name => do
      let indexes ← linkLookup world.creating none name
      if indexes = [] then pure ()
      else Action.raise (.nslab {
        code := "RESOURCE_EXISTS"
        message := "network resource already exists: " ++ resource
        details := [("operation", .str "create_veth"), ("resource", .str resource)] })) := by
    apply Action.Keeps.each
    intro name _
    have looks := @linkLookup_triple world.creating (Fresh before token) none name fun _ _ holds => holds
    apply looks.bind
    intro indexes
    split
    next => exact fun _ holds => holds.1
    next => exact fun _ holds => holds.1
  have late : ∀ issue session, Moved before token link session → Salvageable world before token link issue session := by
    rintro issue session ⟨harmless, moved, renamed, created, _, left, right, pair, first, second⟩
    apply salvageable_of_anchored issue harmless pair created
    apply anchored_at List.mem_cons_self pair.symm first
    apply location_moved <;> simp [moved, renamed]
  refine managedHandle_triple (fun _ _ holds => holds) (fun _ _ _ holds => holds) (fun _ _ _ holds => holds) unmade
    (fun issue _ session => late issue session) ?_
  apply (checked.weaken (fun _ holds => holds) (fun _ _ holds => holds) unmade).bind
  intro _
  have attempted : Action.Triple (Fresh before token)
      (Action.modify fun session => { session with rootNamesVerifiedAbsent := true, creationAttempted := true })
      (fun _ session => Fresh before token session ∧ session.rootNamesVerifiedAbsent = true ∧ session.creationAttempted = true)
      (Salvageable world before token link) := fun _ holds => ⟨holds, rfl, rfl⟩
  apply attempted.bind
  intro _
  apply linkAdd_triple.bind
  intro _
  have created : Action.Triple
      (fun session => Made before token link session ∧ session.rootNamesVerifiedAbsent = true ∧ session.creationAttempted = true)
      (Action.modify fun session => { session with created := true })
      (fun _ session => Made before token link session ∧ session.rootNamesVerifiedAbsent = true ∧ session.creationAttempted = true ∧
        session.created = true)
      (Salvageable world before token link) := fun _ holds => ⟨holds.1, holds.2.1, holds.2.2, rfl⟩
  exact created.bind fun _ => moveEndpoints_triple

/-- The ends are configured in turn. -/
theorem configureEndpoints_triple : Action.Triple (Moved before token link) (do
      configureVethEndpoint world resource token link link.left
      configureVethEndpoint world resource token link link.right)
    (fun _ => Tidy before token) (Salvageable world before token link) := by
  rintro session ⟨harmless, moved, renamed, created, ends, left, right, pair, first, second⟩
  have unnamed : ∀ endpoint, endpoint ∉ session.renamedEndpoints := fun endpoint => by rw [renamed]; exact List.not_mem_nil
  have starts : ConfiguringBy before token left right link.left (some link.right.netns, link.right.temporaryName)
      [link.right, link.left] [] session :=
    ⟨⟨pair, second, first.reserved, .inl first, fun listed => absurd listed (unnamed _)⟩, moved,
      fun endpoint _ => by rw [renamed], created, harmless⟩
  have configureLeft := (@configureVethEndpoint_triple world before resource token left right link.left
    (some link.right.netns, link.right.temporaryName) [link.right, link.left] [] link)
  refine Action.Triple.bind (configureLeft.weaken (fun _ holds => holds) (fun _ _ holds => holds) ?_) (fun _ => ?_) session starts
  · rintro issue session ⟨configuring, moved, apart, created, harmless⟩
    apply salvageable_of_anchored issue harmless configuring.pair created
    apply anchored_at (List.mem_cons_of_mem _ List.mem_cons_self) configuring.pair configuring.other
    apply location_moved
    · simp only [moved, List.mem_cons, true_or]
    · rw [apart link.right ends.symm]
      exact List.not_mem_nil
  · rintro session ⟨⟨configuring, moved, apart, created, harmless⟩, listed⟩
    have unnamed : link.right ∉ session.renamedEndpoints := by
      rw [apart link.right ends.symm]
      exact List.not_mem_nil
    have goes : ConfiguringBy before token right left link.right (some link.left.netns, link.left.interface)
        [link.right, link.left] session.renamedEndpoints session :=
      ⟨⟨configuring.pair.symm, configuring.named listed, configuring.other.reserved, .inl configuring.other,
        fun named => absurd named unnamed⟩, moved, fun _ _ => Iff.rfl, created, harmless⟩
    have configureRight := (@configureVethEndpoint_triple world before resource token right left link.right
      (some link.left.netns, link.left.interface) [link.right, link.left] session.renamedEndpoints link)
    refine configureRight.weaken (fun _ holds => holds) (fun _ after holds => ?_) (fun issue after holds => ?_) session goes
    · exact ⟨holds.1.2.2.2.2, .inr ⟨_, _, holds.1.1.pair⟩⟩
    · obtain ⟨final, _, others, created, harmless⟩ := holds
      apply salvageable_of_anchored issue harmless final.pair created
      apply anchored_at List.mem_cons_self final.pair final.other
      apply location_renamed
      rw [others link.left ends]
      exact listed

/-- What a creation that raises leaves behind. -/
def Left (world : World) (before : Kernel) (token : String) (session : Session) : Prop :=
  Tidy before token session ∧ (CreatesOpenly world → CleansWell world → Gone session.kernel token)

theorem Salvageable.tidy {issue : Issue} {session : Session} (salvageable : Salvageable world before token link issue session) :
    Tidy before token session := by
  obtain ⟨harmless, gone | ⟨left, right, pair, _⟩⟩ := salvageable
  · exact ⟨harmless, .inl gone⟩
  · exact ⟨harmless, .inr ⟨left, right, pair⟩⟩

theorem cleanupVeth_triple (issue : Issue) : Action.Triple (Salvageable world before token link issue) (cleanupVeth world token link)
    (fun _ => Left world before token) fun _ => Left world before token := by
  intro session salvageable
  have tidy := @cleanupVeth_keeps world token before link session salvageable.tidy
  have cleaned : CreatesOpenly world → CleansWell world → Gone (cleanupVeth world token link session).2.kernel token := by
    intro openly well
    have either : Gone session.kernel token ∨
        (∃ left right, Pair session.kernel token left right) ∧ Anchored token link session := by
      obtain gone | ⟨left, right, pair, anchored⟩ := salvageable.2
      · exact .inl gone
      · exact .inr ⟨⟨left, right, pair⟩, (anchored openly).2⟩
    obtain ⟨after, run, gone⟩ := cleanupVeth_done well either
    rw [run]
    exact gone
  cases run : cleanupVeth world token link session with
  | mk outcome after =>
    rw [run] at tidy cleaned
    cases outcome with
    | ok _ => exact ⟨tidy, cleaned⟩
    | error _ => exact ⟨tidy, cleaned⟩

/-- A creation that raises leaves a tidy kernel, and none of its devices where the cleanup works. -/
theorem createVeth_triple : Action.Triple (Fresh before token) (createVeth world token link) (fun _ => Tidy before token)
    (fun _ => Left world before token) := by
  have started := @nothing_triple world.creating .token (Fresh before token) fun _ _ holds => holds
  apply (started.weaken (fun _ holds => holds) (fun _ _ holds => holds)
    fun _ _ fresh => ⟨⟨fresh.1, .inl fresh.2.1⟩, fun _ _ => fresh.2.1⟩).bind
  intro _
  apply (createInRoot_triple.bind fun _ => configureEndpoints_triple).recover
  intro issue
  apply Action.Triple.look.bind
  intro seen
  dsimp only
  split
  next =>
    apply ((cleanupVeth_triple issue).weaken (fun _ holds => holds.1) (fun _ _ holds => holds) fun _ _ holds => holds).bind
    exact fun _ _ left => left
  next uncaught =>
    rintro session ⟨salvageable, rfl⟩
    refine ⟨salvageable.tidy, fun openly _ => ?_⟩
    obtain ⟨_, gone | ⟨_, _, _, known⟩⟩ := salvageable
    · exact gone
    · obtain ⟨caught, _⟩ := known openly
      rcases caught with created | ⟨verified, attempted, apart⟩
      · simp [created] at uncaught
      · simp [verified, attempted, apart] at uncaught

end Creating

/-- A creation that raises leaves no device with its token, and in every run only devices with
the token are deleted: those that were there before stay as they are. -/
theorem createVeth_all_or_nothing (world : World) (token : String) (link : LinkPlan) (kernel : Kernel) (fresh : Gone kernel token) :
    (∀ issue after, createVeth world token link { kernel } = (.error issue, after) → CreatesOpenly world → CleansWell world →
      Gone after.kernel token) ∧
    (∀ device ∈ (createVeth world token link { kernel }).2.deleted, device.ifalias = some token) ∧
    ∀ device ∈ kernel.devices, device ∈ (createVeth world token link { kernel }).2.kernel.devices := by
  have starts : Fresh kernel token { kernel } := ⟨⟨fun _ _ => Iff.rfl, by simp⟩, fresh, rfl, rfl⟩
  have result := @createVeth_triple world kernel token link { kernel } starts
  have tidy : Tidy kernel token (createVeth world token link { kernel }).2 := by
    split at result
    next same => rwa [same]
    next same =>
      rw [same]
      exact result.1
  refine ⟨?_, tidy.1.2, fun device member => (tidy.1.1 device (fresh device member)).mpr member⟩
  intro issue after run openly well
  rw [run] at result
  exact result.2 openly well

section Example

def exampleLink : LinkPlan where
  index := 0
  kind := .veth
  left := { node := "a", interface := "eth0", netns := "nslab-lab-a", temporaryName := "vl0" }
  right := { node := "b", interface := "eth0", netns := "nslab-lab-b", temporaryName := "vr0" }
  mtu := 1500

/-- A device of somebody else, under the name that one of the ends is to get. -/
def exampleKernel : Kernel :=
  Kernel.empty.place { serial := 0, home := some "nslab-lab-c", index := 1, name := "eth0" } nofun

/-- The second end is renamed, and the request fails all the same. -/
def exampleWorld : World where
  creating := fun _ request => match request with
    | .setName (some "nslab-lab-b") _ _ => .failed (.netlink 5) true
    | _ => .done
  cleaning := fun _ _ => .done
  patience := fun _ => 1

theorem exampleWorld_fails : (createVeth exampleWorld "owner" exampleLink { kernel := exampleKernel }).1.isOk = false := by
  decide +kernel

theorem createVeth_all_or_nothing_example :
    Gone (createVeth exampleWorld "owner" exampleLink { kernel := exampleKernel }).2.kernel "owner" := by
  have result := createVeth_all_or_nothing exampleWorld "owner" exampleLink exampleKernel (by decide)
  have fails := exampleWorld_fails
  cases run : createVeth exampleWorld "owner" exampleLink { kernel := exampleKernel } with
  | mk outcome after =>
    rw [run] at fails
    cases outcome with
    | ok _ => cases fails
    | error issue => exact result.1 issue after run (by simp [CreatesOpenly, exampleWorld]) fun _ _ _ => rfl

end Example

end Veth

end Nslab
