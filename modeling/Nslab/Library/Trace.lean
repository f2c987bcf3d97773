import Nslab.Library.Action

/-! Systems on which calls are made one after the other, with the calls that have been
made. A protocol tells which calls a program makes in which phase, and what holds in
each phase follows from the protocol and from what the calls do to the system. -/

namespace Nslab

namespace Action

variable {σ ε α β : Type} {pre : σ → Prop} {post : α → σ → Prop} {fails : ε → σ → Prop} {action : Action σ ε α}

/-- `try: value = action except BaseException as issue`, and what is done in either case. -/
theorem Triple.attempted {next : Except ε α → Action σ ε β} {ends : β → σ → Prop} {raises : ε → σ → Prop}
    (valid : Triple pre action post fails) (done : ∀ value, Triple (post value) (next (.ok value)) ends raises)
    (failed : ∀ issue, Triple (fails issue) (next (.error issue)) ends raises) :
    Triple pre (Action.attempt action >>= next) ends raises := by
  intro state holds
  have result := valid state holds
  simp only [Bind.bind, andThen, Action.attempt]
  generalize action state = outcome at result ⊢
  obtain ⟨reply, after⟩ := outcome
  cases reply with
  | ok value => exact done value after result
  | error issue => exact failed issue after result

/-- A result that does not depend on the state. -/
theorem Triple.settled {result : Except ε α} (done : ∀ value, result = .ok value → ∀ state, pre state → post value state)
    (failed : ∀ issue, result = .error issue → ∀ state, pre state → fails issue state) :
    Triple pre (Action.inspect fun _ => result) post fails := by
  intro state holds
  simp only [Action.inspect]
  cases result with
  | ok value => exact done value rfl state holds
  | error issue => exact failed issue rfl state holds

theorem Triple.returns {value : α} (holds : ∀ state, pre state → post value state) : Triple pre (pure value) post fails := holds

theorem Triple.raises {issue : ε} (holds : ∀ state, pre state → fails issue state) :
    Triple pre (Action.raise issue) post fails := holds

/-- What a computation comes to. -/
theorem Triple.outcomes (valid : Triple pre action post fails) {state : σ} (holds : pre state) :
    (∀ value, (action state).1 = .ok value → post value (action state).2) ∧
      ∀ issue, (action state).1 = .error issue → fails issue (action state).2 := by
  have given := valid state holds
  generalize action state = outcome at given
  obtain ⟨reply, after⟩ := outcome
  constructor
  · intro value same
    cases same
    exact given
  · intro issue same
    cases same
    exact given

/-- Reading something off the state. -/
theorem Triple.reads {look : σ → α} : Triple pre (Action.inspect fun state => .ok (look state)) (fun _ => pre) fails :=
  fun _ holds => holds

/-- What is asked for before may be more than what is used. -/
theorem Triple.requires {required : σ → Prop} (valid : Triple required action post fails)
    (requires : ∀ state, pre state → required state) : Triple pre action post fails :=
  valid.weaken requires (fun _ _ holds => holds) fun _ _ holds => holds

theorem Triple.given {condition : Prop} (valid : condition → Triple pre action post fails) :
    Triple (fun state => condition ∧ pre state) action post fails := fun state holds => valid holds.1 state holds.2

/-- A computation from a state that is known. -/
theorem Triple.restart (valid : ∀ first, pre first → Triple (fun state => state = first) action post fails) :
    Triple pre action post fails := fun state holds => valid state holds state rfl

theorem Triple.some {ι : Type} {pre : ι → σ → Prop} (valid : ∀ index, Triple (pre index) action post fails) :
    Triple (fun state => ∃ index, pre index state) action post fails := by
  intro state holds
  obtain ⟨index, holds⟩ := holds
  exact valid index state holds

end Action


/-- A system with the calls that have been made on it, each with the state that it left. -/
structure Traced (σ κ : Type) where
  origin : σ
  trace : List (κ × σ) := []

namespace Traced

variable {σ κ ε α : Type}

def state (session : Traced σ κ) : σ := (session.trace.getLast?.map Prod.snd).getD session.origin

def calls (session : Traced σ κ) : List κ := session.trace.map Prod.fst

/-- The session after another call. -/
def record (session : Traced σ κ) (call : κ) (after : σ) : Traced σ κ :=
  { session with trace := session.trace ++ [(call, after)] }

@[simp] theorem state_record (session : Traced σ κ) (call : κ) (after : σ) : (session.record call after).state = after := by
  simp [state, record]

@[simp] theorem calls_record (session : Traced σ κ) (call : κ) (after : σ) :
    (session.record call after).calls = session.calls ++ [call] := by simp [calls, record]

@[simp] theorem origin_record (session : Traced σ κ) (call : κ) (after : σ) :
    (session.record call after).origin = session.origin := rfl

/-- A call, with its reply in the trace. -/
def perform (effect : Action σ ε α) (label : Except ε α → κ) : Action (Traced σ κ) ε α := fun session =>
  ((effect session.state).1, session.record (label (effect session.state).1) (effect session.state).2)

/-- A session before its last calls, as a crash leaves it. -/
def Earlier (cut session : Traced σ κ) : Prop := cut.origin = session.origin ∧ cut.trace <+: session.trace

theorem Earlier.refl (session : Traced σ κ) : Earlier session session := ⟨rfl, List.prefix_refl _⟩

theorem earlier_record {cut session : Traced σ κ} {call : κ} {after : σ} :
    Earlier cut (session.record call after) ↔ cut = session.record call after ∨ Earlier cut session := by
  obtain ⟨origin, trace⟩ := cut
  simp only [Earlier, record, List.prefix_concat_iff, mk.injEq]
  constructor
  · intro given
    obtain ⟨same, whole | before⟩ := given
    · exact .inl ⟨same, whole⟩
    · exact .inr ⟨same, before⟩
  · intro given
    obtain ⟨same, whole⟩ | ⟨same, before⟩ := given
    · exact ⟨same, .inl whole⟩
    · exact ⟨same, .inr before⟩

theorem Earlier.antisymm {left right : Traced σ κ} (first : Earlier left right) (second : Earlier right left) : left = right := by
  obtain ⟨origin, trace⟩ := left
  obtain ⟨other, calls⟩ := right
  obtain ⟨same, before⟩ := first
  dsimp only at same before
  rw [same, before.eq_of_length_le second.2.length_le]

/-- Every call takes a state to one that is related to it. -/
def Evolves (relation : σ → σ → Prop) (session : Traced σ κ) : Prop :=
  ∀ (before : Traced σ κ) call after, Earlier (before.record call after) session → relation before.state after

theorem Evolves.start {relation : σ → σ → Prop} {origin : σ} : Evolves relation (⟨origin, []⟩ : Traced σ κ) := by
  intro before call after earlier
  have impossible := earlier.2
  rw [List.prefix_nil] at impossible
  simp [record] at impossible

theorem Evolves.record {relation : σ → σ → Prop} {session : Traced σ κ} {call : κ} {after : σ}
    (evolves : Evolves relation session) (related : relation session.state after) :
    Evolves relation (session.record call after) := by
  intro before other last earlier
  cases earlier_record.mp earlier with
  | inr earlier => exact evolves before other last earlier
  | inl same =>
    obtain ⟨origin, trace⟩ := before
    obtain ⟨own, calls⟩ := session
    simp only [Traced.record, mk.injEq] at same
    obtain ⟨rfl, same⟩ := same
    obtain ⟨rfl, single⟩ := List.append_inj' same rfl
    rw [List.cons.injEq, Prod.mk.injEq] at single
    obtain ⟨⟨rfl, rfl⟩, _⟩ := single
    exact related

end Traced

section Protocols

variable {σ κ π ε α : Type} (protocol : π → κ → π → Prop) (performed : σ → κ → σ → Prop)

/-- The sessions that a protocol leads to from a phase, with the phase that each ends in. -/
inductive Follows (start : Traced σ κ) (first : π) : π → Traced σ κ → Prop where
  | start : Follows start first first start
  | call {phase next : π} {session : Traced σ κ} {call : κ} {after : σ} (followed : Follows start first phase session)
    (allowed : protocol phase call next) (effect : performed session.state call after) :
    Follows start first next (session.record call after)

/-- The sessions of runs of a protocol, each from where the last one ended or was cut short. -/
inductive Reaches (first : π) (initial : σ → Prop) : Traced σ κ → Prop where
  | initial {origin : σ} (holds : initial origin) : Reaches first initial ⟨origin, []⟩
  | run {session later : Traced σ κ} {phase : π} (reached : Reaches first initial session)
    (followed : Follows protocol performed session first phase later) : Reaches first initial later

variable {protocol : π → κ → π → Prop} {performed : σ → κ → σ → Prop} {start session short : Traced σ κ} {first phase : π}

/-- What one call keeps holds wherever the protocol leads. -/
theorem Follows.invariant {holds : π → Traced σ κ → Prop} (followed : Follows protocol performed start first phase session)
    (initial : holds first start)
    (step : ∀ {phase next session call after}, holds phase session → protocol phase call next →
      performed session.state call after →
      holds next (session.record call after)) : holds phase session := by
  induction followed with
  | start => exact initial
  | call _ allowed effect ih => exact step ih allowed effect

theorem Follows.earlier (followed : Follows protocol performed start first phase session) : start.Earlier session := by
  induction followed with
  | start => exact .refl _
  | call _ _ _ ih => exact Traced.earlier_record.mpr (.inr ih)

/-- A run that is cut short is a run, unless it is cut before it starts. -/
theorem Follows.cut (followed : Follows protocol performed start first phase session) (earlier : short.Earlier session) :
    short.Earlier start ∨ ∃ phase, Follows protocol performed start first phase short := by
  induction followed with
  | start => exact .inl earlier
  | @call phase next session call after followed allowed effect ih =>
    cases Traced.earlier_record.mp earlier with
    | inl whole => exact .inr ⟨next, whole ▸ followed.call allowed effect⟩
    | inr before => exact ih before

theorem Reaches.cut {initial : σ → Prop} (reached : Reaches protocol performed first initial session)
    (earlier : short.Earlier session) :
    Reaches protocol performed first initial short := by
  induction reached with
  | @initial origin holds =>
    have same : short = ⟨origin, []⟩ := by
      obtain ⟨_, trace⟩ := short
      obtain ⟨rfl, before⟩ := earlier
      rw [List.prefix_nil] at before
      exact before ▸ rfl
    exact same ▸ .initial holds
  | run reached followed ih =>
    cases followed.cut earlier with
    | inl before => exact ih before
    | inr again =>
      obtain ⟨phase, again⟩ := again
      exact reached.run again

/-- What holds at the start of every run, and is kept by it, holds of all sessions. -/
theorem Reaches.invariant {initial : σ → Prop} {always : Traced σ κ → Prop} {holds : π → Traced σ κ → Prop}
    (reached : Reaches protocol performed first initial session) (begins : ∀ origin, initial origin → always ⟨origin, []⟩)
    (enters : ∀ session, always session → holds first session)
    (step : ∀ {phase next session call after}, always session → holds phase session → protocol phase call next →
      performed session.state call after → always (session.record call after) ∧ holds next (session.record call after)) :
    always session := by
  induction reached with
  | initial holds => exact begins _ holds
  | run _ followed ih =>
    exact (@Follows.invariant _ _ _ _ _ _ _ _ _ (fun phase session => always session ∧ holds phase session) followed
      ⟨ih, enters _ ih⟩ fun both allowed effect => step both.1 both.2 allowed effect).1

/-- A call that the protocol allows. -/
theorem Follows.perform {effect : Action σ ε α} {label : Except ε α → κ} {next : Except ε α → π}
    (effects : ∀ state, performed state (label (effect state).1) (effect state).2)
    (allowed : ∀ reply, protocol phase (label reply) (next reply)) :
    Action.Triple (Follows protocol performed start first phase) (Traced.perform effect label)
      (fun value => Follows protocol performed start first (next (.ok value)))
      fun issue => Follows protocol performed start first (next (.error issue)) := by
  intro session followed
  have later := followed.call (allowed (effect session.state).1) (effects session.state)
  simp only [Traced.perform]
  generalize effect session.state = outcome at later ⊢
  obtain ⟨reply, after⟩ := outcome
  cases reply with
  | ok value => exact later
  | error issue => exact later

end Protocols

section Latest

variable {κ α : Type} (look : κ → Option α) (calls others : List κ) (call : κ)

/-- What the last call shows that shows anything. -/
def latest : Option α := calls.reverse.findSome? look

@[simp] theorem latest_concat : latest look (calls ++ [call]) = (look call).or (latest look calls) := by
  simp only [latest, List.reverse_append, List.reverse_cons, List.reverse_nil, List.nil_append, List.singleton_append,
    List.findSome?_cons]
  cases look call with
  | none => rfl
  | some value => rfl

theorem latest_append : latest look (calls ++ others) = (latest look others).or (latest look calls) := by
  simp only [latest, List.reverse_append, List.findSome?_append]

end Latest

end Nslab
