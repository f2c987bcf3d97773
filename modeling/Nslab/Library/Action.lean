import Mathlib.Data.List.Basic

/-! Computations on a state that may raise, with rules for what they establish,
for what they keep and for what they cannot tell apart. A state that was changed
stays changed when the computation raises. -/

namespace Nslab

def Action (σ ε α : Type) : Type := σ → Except ε α × σ

namespace Action

variable {σ ε α β : Type}

def done (value : α) : Action σ ε α := fun state => (.ok value, state)

def raise (issue : ε) : Action σ ε α := fun state => (.error issue, state)

def andThen (first : Action σ ε α) (next : α → Action σ ε β) : Action σ ε β := fun state =>
  match first state with
  | (.ok value, after) => next value after
  | (.error issue, after) => (.error issue, after)

instance : Monad (Action σ ε) where
  pure := done
  bind := andThen

/-- What can be read off the state. -/
def inspect (look : σ → Except ε α) : Action σ ε α := fun state => (look state, state)

def modify (change : σ → σ) : Action σ ε Unit := fun state => (.ok (), change state)

/-- `try: action except issue: handler(issue)`. -/
def recover (action : Action σ ε α) (handler : ε → Action σ ε α) : Action σ ε α := fun state =>
  match action state with
  | (.ok value, after) => (.ok value, after)
  | (.error issue, after) => handler issue after

/-- `try: action finally: last`. What `last` raises replaces what `action` raised. -/
def ensuring (action : Action σ ε α) (last : Action σ ε Unit) : Action σ ε α := fun state =>
  let (outcome, after) := action state
  match last after with
  | (.ok (), final) => (outcome, final)
  | (.error issue, final) => (.error issue, final)

/-- `try: action except BaseException as issue`, with what is raised as a value. -/
def attempt (action : Action σ ε α) : Action σ ε (Except ε α) := fun state => (.ok (action state).1, (action state).2)

/-- `for item in items: accumulator = step(accumulator, item)`. -/
def fold (step : β → α → Action σ ε β) : List α → β → Action σ ε β
  | [], value => done value
  | item :: items, value => andThen (step value item) fun next => fold step items next

/-- `for item in items: step(item)`. -/
def each (items : List α) (step : α → Action σ ε Unit) : Action σ ε Unit := fold (fun _ item => step item) items ()

section Steps

variable {action : Action σ ε α} {next : α → Action σ ε β} {state after : σ}

theorem bind_of_ok {value : α} (run : action state = (.ok value, after)) : (action >>= next) state = next value after := by
  simp only [Bind.bind, andThen, run]

theorem bind_of_error {issue : ε} (run : action state = (.error issue, after)) :
    (action >>= next) state = (.error issue, after) := by
  simp only [Bind.bind, andThen, run]

end Steps

section Triples

/-- From a state with `pre` the computation ends in one with `post`, or raises into one with `fails`. -/
def Triple (pre : σ → Prop) (action : Action σ ε α) (post : α → σ → Prop) (fails : ε → σ → Prop) : Prop :=
  ∀ state, pre state → match action state with
    | (.ok value, after) => post value after
    | (.error issue, after) => fails issue after

variable {pre : σ → Prop} {post : α → σ → Prop} {fails : ε → σ → Prop} {action : Action σ ε α}

theorem Triple.weaken {required : σ → Prop} {stronger : α → σ → Prop} {raises : ε → σ → Prop}
    (valid : Triple required action stronger raises) (requires : ∀ state, pre state → required state)
    (ensures : ∀ value state, stronger value state → post value state)
    (issues : ∀ issue state, raises issue state → fails issue state) : Triple pre action post fails := by
  intro state holds
  have result := valid state (requires state holds)
  cases outcome : action state with
  | mk reply after =>
    rw [outcome] at result
    cases reply with
    | ok value => exact ensures value after result
    | error issue => exact issues issue after result

theorem Triple.done {value : α} : Triple (post value) (done value) post fails := fun _ holds => holds

theorem Triple.raise {issue : ε} : Triple (fails issue) (raise issue) post fails := fun _ holds => holds

theorem Triple.bind {next : α → Action σ ε β} {middle : α → σ → Prop} {post : β → σ → Prop}
    (first : Triple pre action middle fails) (rest : ∀ value, Triple (middle value) (next value) post fails) :
    Triple pre (action >>= next) post fails := by
  intro state holds
  have result := first state holds
  simp only [Bind.bind, andThen]
  cases outcome : action state with
  | mk reply after =>
    rw [outcome] at result
    cases reply with
    | ok value => exact rest value after result
    | error issue => exact result

theorem Triple.inspect {look : σ → Except ε α}
    (sees : ∀ state, pre state → match look state with | .ok value => post value state | .error issue => fails issue state) :
    Triple pre (inspect look) post fails := by
  intro state holds
  have result := sees state holds
  simp only [Action.inspect]
  cases looked : look state with
  | ok value =>
    rw [looked] at result
    exact result
  | error issue =>
    rw [looked] at result
    exact result

/-- The state that is looked at is the one that there is. -/
theorem Triple.look {fails : ε → σ → Prop} : Triple pre (Action.inspect Except.ok) (fun seen state => pre state ∧ seen = state) fails := fun _ holds => ⟨holds, rfl⟩

theorem Triple.modify {change : σ → σ} {post : Unit → σ → Prop} (changes : ∀ state, pre state → post () (change state)) :
    Triple pre (modify change : Action σ ε Unit) post fails := changes

theorem Triple.recover {handler : ε → Action σ ε α} {raises : ε → σ → Prop} (valid : Triple pre action post raises)
    (handles : ∀ issue, Triple (raises issue) (handler issue) post fails) : Triple pre (recover action handler) post fails := by
  intro state holds
  have result := valid state holds
  simp only [Action.recover]
  cases outcome : action state with
  | mk reply after =>
    rw [outcome] at result
    cases reply with
    | ok value => exact result
    | error issue => exact handles issue after result

theorem Triple.ensuring {last : Action σ ε Unit} {middle : α → σ → Prop} {raises : ε → σ → Prop}
    (valid : Triple pre action middle raises)
    (closes : ∀ value, Triple (middle value) last (fun _ => post value) fails)
    (handles : ∀ issue, Triple (raises issue) last (fun _ => fails issue) fails) :
    Triple pre (ensuring action last) post fails := by
  intro state holds
  have result := valid state holds
  simp only [Action.ensuring]
  cases outcome : action state with
  | mk reply after =>
    rw [outcome] at result
    cases reply with
    | ok value =>
      have closed := closes value after result
      cases ended : last after with
      | mk reply final =>
        rw [ended] at closed
        cases reply with
        | ok _ => exact closed
        | error issue => exact closed
    | error issue =>
      have handled := handles issue after result
      cases ended : last after with
      | mk reply final =>
        rw [ended] at handled
        cases reply with
        | ok _ => exact handled
        | error issue => exact handled

theorem Triple.attempt {impossible : ε → σ → Prop} (valid : Triple pre action post fails) :
    Triple pre (attempt action) (fun outcome state => match outcome with
      | .ok value => post value state
      | .error issue => fails issue state) impossible := by
  intro state holds
  have result := valid state holds
  simp only [Action.attempt]
  cases outcome : action state with
  | mk reply after =>
    rw [outcome] at result
    cases reply with
    | ok value => exact result
    | error issue => exact result

/-- A loop keeps what each of its passes keeps, for the items that it has still to visit. -/
theorem Triple.fold {step : β → α → Action σ ε β} {invariant : List α → β → σ → Prop} {items : List α}
    (keeps : ∀ item rest value, item :: rest <:+ items →
      Triple (invariant (item :: rest) value) (step value item) (invariant rest) fails) (value : β) :
    Triple (invariant items value) (fold step items value) (invariant []) fails := by
  induction items generalizing value with
  | nil => exact Triple.done
  | cons item rest ih =>
    apply Triple.bind (keeps item rest value (List.suffix_refl _))
    intro next
    exact ih (fun other later value suffix => keeps other later value (suffix.trans (List.suffix_cons item rest))) next

theorem Triple.each {step : α → Action σ ε Unit} {invariant : List α → σ → Prop} {items : List α}
    (keeps : ∀ item rest, item :: rest <:+ items →
      Triple (invariant (item :: rest)) (step item) (fun _ => invariant rest) fails) :
    Triple (invariant items) (each items step) (fun _ => invariant []) fails :=
  @Triple.fold σ ε α Unit fails (fun _ item => step item) (fun rest _ => invariant rest) items
    (fun item rest _ suffix => keeps item rest suffix) ()

/-- A computation establishes what two triples say of it. -/
theorem Triple.and {other : α → σ → Prop} {raises : ε → σ → Prop} (left : Triple pre action post fails)
    (right : Triple pre action other raises) :
    Triple pre action (fun value state => post value state ∧ other value state)
      (fun issue state => fails issue state ∧ raises issue state) := by
  intro state holds
  have first := left state holds
  have second := right state holds
  cases outcome : action state with
  | mk reply after =>
    rw [outcome] at first second
    cases reply with
    | ok value => exact ⟨first, second⟩
    | error issue => exact ⟨first, second⟩

end Triples

section Invariants

/-- Whatever its outcome, the computation leaves the invariant as it found it. -/
def Keeps (invariant : σ → Prop) (action : Action σ ε α) : Prop :=
  Triple invariant action (fun _ => invariant) (fun _ => invariant)

variable {invariant : σ → Prop} {action : Action σ ε α}

theorem Keeps.done {value : α} : Keeps invariant (done value : Action σ ε α) := fun _ holds => holds

theorem Keeps.raise {issue : ε} : Keeps invariant (raise issue : Action σ ε α) := fun _ holds => holds

theorem Keeps.bind {next : α → Action σ ε β} (first : Keeps invariant action) (rest : ∀ value, Keeps invariant (next value)) :
    Keeps invariant (action >>= next) := Triple.bind first rest

theorem Keeps.inspect {look : σ → Except ε α} : Keeps invariant (inspect look) := by
  apply Triple.inspect
  intro state holds
  cases look state with
  | ok value => exact holds
  | error issue => exact holds

theorem Keeps.modify {change : σ → σ} (keeps : ∀ state, invariant state → invariant (change state)) :
    Keeps invariant (modify change : Action σ ε Unit) := keeps

theorem Keeps.recover {handler : ε → Action σ ε α} (valid : Keeps invariant action)
    (handles : ∀ issue, Keeps invariant (handler issue)) : Keeps invariant (recover action handler) :=
  Triple.recover valid handles

theorem Keeps.ensuring {last : Action σ ε Unit} (valid : Keeps invariant action) (closes : Keeps invariant last) :
    Keeps invariant (ensuring action last) := Triple.ensuring valid (fun _ => closes) fun _ => closes

theorem Keeps.fold {step : β → α → Action σ ε β} {items : List α}
    (keeps : ∀ item ∈ items, ∀ value, Keeps invariant (step value item)) (value : β) : Keeps invariant (fold step items value) :=
  @Triple.fold σ ε α β (fun _ => invariant) step (fun _ _ => invariant) items
    (fun item _ value suffix => keeps item (suffix.subset List.mem_cons_self) value) value

theorem Keeps.each {step : α → Action σ ε Unit} {items : List α} (keeps : ∀ item ∈ items, Keeps invariant (step item)) :
    Keeps invariant (each items step) := Keeps.fold (fun item member _ => keeps item member) ()

end Invariants

section Indistinguishable

/-- From related states the computation gives the same outcome and ends in related states. -/
def Respects (relation : σ → σ → Prop) (action : Action σ ε α) : Prop :=
  ∀ left right, relation left right → (action left).1 = (action right).1 ∧ relation (action left).2 (action right).2

variable {relation : σ → σ → Prop} {action : Action σ ε α}

theorem Respects.done {value : α} : Respects relation (done value : Action σ ε α) := fun _ _ related => ⟨rfl, related⟩

theorem Respects.raise {issue : ε} : Respects relation (raise issue : Action σ ε α) := fun _ _ related => ⟨rfl, related⟩

theorem Respects.bind {next : α → Action σ ε β} (first : Respects relation action)
    (rest : ∀ value, Respects relation (next value)) : Respects relation (action >>= next) := by
  intro left right related
  obtain ⟨same, after⟩ := first left right related
  simp only [Bind.bind, andThen]
  cases outcome : action left with
  | mk reply final =>
    cases other : action right with
    | mk answer last =>
      rw [outcome, other] at same after
      cases same
      cases reply with
      | ok value => exact rest value final last after
      | error issue => exact ⟨rfl, after⟩

theorem Respects.inspect {look : σ → Except ε α} (same : ∀ left right, relation left right → look left = look right) :
    Respects relation (inspect look) := fun left right related => ⟨same left right related, related⟩

theorem Respects.modify {change : σ → σ} (keeps : ∀ left right, relation left right → relation (change left) (change right)) :
    Respects relation (modify change : Action σ ε Unit) := fun left right related => ⟨rfl, keeps left right related⟩

theorem Respects.recover {handler : ε → Action σ ε α} (valid : Respects relation action)
    (handles : ∀ issue, Respects relation (handler issue)) : Respects relation (recover action handler) := by
  intro left right related
  obtain ⟨same, after⟩ := valid left right related
  simp only [Action.recover]
  cases outcome : action left with
  | mk reply final =>
    cases other : action right with
    | mk answer last =>
      rw [outcome, other] at same after
      cases same
      cases reply with
      | ok value => exact ⟨rfl, after⟩
      | error issue => exact handles issue final last after

theorem Respects.ensuring {last : Action σ ε Unit} (valid : Respects relation action) (closes : Respects relation last) :
    Respects relation (ensuring action last) := by
  intro left right related
  obtain ⟨same, after⟩ := valid left right related
  simp only [Action.ensuring]
  obtain ⟨ends, final⟩ := closes _ _ after
  rw [same]
  cases outcome : last (action left).2 with
  | mk reply first =>
    cases other : last (action right).2 with
    | mk answer second =>
      rw [outcome, other] at ends final
      cases ends
      cases reply with
      | ok _ => exact ⟨rfl, final⟩
      | error issue => exact ⟨rfl, final⟩

theorem Respects.attempt (valid : Respects relation action) : Respects relation (attempt action) := by
  intro left right related
  obtain ⟨same, after⟩ := valid left right related
  exact ⟨congrArg Except.ok same, after⟩

theorem Respects.fold {step : β → α → Action σ ε β} {items : List α}
    (keeps : ∀ item ∈ items, ∀ value, Respects relation (step value item)) (value : β) :
    Respects relation (fold step items value) := by
  induction items generalizing value with
  | nil => exact Respects.done
  | cons item rest ih =>
    apply Respects.bind (keeps item List.mem_cons_self value)
    intro next
    exact ih (fun other member => keeps other (List.mem_cons_of_mem item member)) next

theorem Respects.each {step : α → Action σ ε Unit} {items : List α} (keeps : ∀ item ∈ items, Respects relation (step item)) :
    Respects relation (each items step) := Respects.fold (fun item member _ => keeps item member) ()

/-- The same outcome from states that are related, in states that are related as the outcome has it. -/
def Relates (pre : σ → σ → Prop) (action : Action σ ε α) (post : α → σ → σ → Prop) (fails : σ → σ → Prop) : Prop :=
  ∀ left right, pre left right →
    (∃ value after final, action left = (.ok value, after) ∧ action right = (.ok value, final) ∧ post value after final) ∨
    ∃ issue after final, action left = (.error issue, after) ∧ action right = (.error issue, final) ∧ fails after final

variable {pre fails : σ → σ → Prop} {mid : α → σ → σ → Prop} {post : β → σ → σ → Prop}

theorem Relates.bind {next : α → Action σ ε β} (first : Relates pre action mid fails)
    (rest : ∀ value, Relates (mid value) (next value) post fails) : Relates pre (action >>= next) post fails := by
  intro left right related
  obtain ⟨value, after, final, run, other, between⟩ | ⟨issue, after, final, run, other, failed⟩ := first left right related
  · rw [bind_of_ok run, bind_of_ok other]
    exact rest value after final between
  · exact .inr ⟨issue, after, final, bind_of_error run, bind_of_error other, failed⟩

theorem Relates.respects (relates : Relates relation action (fun _ => relation) relation) : Respects relation action := by
  intro left right related
  obtain ⟨value, after, final, run, other, ends⟩ | ⟨issue, after, final, run, other, ends⟩ := relates left right related
  · rw [run, other]
    exact ⟨rfl, ends⟩
  · rw [run, other]
    exact ⟨rfl, ends⟩

/-- What a computation establishes of every state holds of both. -/
theorem Respects.establishes {holds : α → σ → Prop} (respects : Respects relation action)
    (valid : Triple (fun _ => True) action holds fun _ _ => True) :
    Relates relation action (fun value left right => relation left right ∧ holds value left ∧ holds value right) relation := by
  intro left right related
  obtain ⟨same, after⟩ := respects left right related
  have first := valid left trivial
  have second := valid right trivial
  cases run : action left with
  | mk reply ended => cases other : action right with
    | mk answer last =>
      rw [run, other] at same after
      rw [run] at first
      rw [other] at second
      subst same
      cases reply with
      | ok value => exact .inl ⟨value, ended, last, rfl, rfl, after, first, second⟩
      | error issue => exact .inr ⟨issue, ended, last, rfl, rfl, after⟩

theorem Respects.relates (respects : Respects relation action) (implies : ∀ left right, pre left right → relation left right) :
    Relates pre action (fun _ => relation) relation := by
  intro left right related
  obtain ⟨same, after⟩ := respects left right (implies left right related)
  cases run : action left with
  | mk reply ended => cases other : action right with
    | mk answer last =>
      rw [run, other] at same after
      subst same
      cases reply with
      | ok value => exact .inl ⟨value, ended, last, rfl, rfl, after⟩
      | error issue => exact .inr ⟨issue, ended, last, rfl, rfl, after⟩

end Indistinguishable

end Action

end Nslab
