import Mathlib.Data.List.Basic
import Mathlib.Tactic.Common

/-! A table of network devices in several namespaces. Names and indexes are unique
within a namespace. A device keeps its identity when it is moved or renamed, and one
of a pair is removed together with its peer. -/

namespace NetDevices

/-- The root namespace, or a named one. -/
abbrev Home := Option String

structure Device where
  serial : Nat
  home : Home
  index : Nat
  name : String
  ifalias : Option String := none
  peer : Option Nat := none
deriving DecidableEq

/-- The devices, of which no two agree where they have to differ. -/
structure Kernel where
  devices : List Device
  next : Nat
  serials : ∀ left ∈ devices, ∀ right ∈ devices, left.serial = right.serial → left = right
  names : ∀ left ∈ devices, ∀ right ∈ devices, left.home = right.home → left.name = right.name → left = right
  indexes : ∀ left ∈ devices, ∀ right ∈ devices, left.home = right.home → left.index = right.index → left = right
  bounded : ∀ device ∈ devices, device.serial < next

namespace Kernel

def empty : Kernel where
  devices := []
  next := 0
  serials := nofun
  names := nofun
  indexes := nofun
  bounded := nofun

variable (kernel : Kernel)

/-- No other device has the name or the index of a device in its namespace. -/
def Free (device : Device) : Prop :=
  ∀ other ∈ kernel.devices, other.serial ≠ device.serial → other.home = device.home →
    other.name ≠ device.name ∧ other.index ≠ device.index

instance (device : Device) : Decidable (kernel.Free device) :=
  inferInstanceAs (Decidable (∀ other ∈ kernel.devices, other.serial ≠ device.serial → other.home = device.home →
    other.name ≠ device.name ∧ other.index ≠ device.index))

/-- A device takes its place, which may be a new one. -/
def place (device : Device) (free : kernel.Free device) : Kernel where
  devices := device :: kernel.devices.filter (·.serial ≠ device.serial)
  next := max kernel.next (device.serial + 1)
  serials := by
    intro left first right second same
    simp only [List.mem_cons, List.mem_filter, decide_eq_true_eq] at first second
    rcases first with rfl | ⟨first, apart⟩ <;> rcases second with rfl | ⟨second, other⟩
    · rfl
    · exact absurd same.symm other
    · exact absurd same apart
    · exact kernel.serials left first right second same
  names := by
    intro left first right second home same
    simp only [List.mem_cons, List.mem_filter, decide_eq_true_eq] at first second
    rcases first with rfl | ⟨first, apart⟩ <;> rcases second with rfl | ⟨second, other⟩
    · rfl
    · exact absurd same.symm (free right second other home.symm).1
    · exact absurd same (free left first apart home).1
    · exact kernel.names left first right second home same
  indexes := by
    intro left first right second home same
    simp only [List.mem_cons, List.mem_filter, decide_eq_true_eq] at first second
    rcases first with rfl | ⟨first, apart⟩ <;> rcases second with rfl | ⟨second, other⟩
    · rfl
    · exact absurd same.symm (free right second other home.symm).2
    · exact absurd same (free left first apart home).2
    · exact kernel.indexes left first right second home same
  bounded := by
    intro other member
    simp only [List.mem_cons, List.mem_filter, decide_eq_true_eq] at member
    rcases member with rfl | ⟨member, _⟩
    · omega
    · have := kernel.bounded other member
      omega

def place? (device : Device) : Option Kernel := if free : kernel.Free device then some (kernel.place device free) else none

/-- The kernel without some devices. -/
def remove (gone : Device → Bool) : Kernel where
  devices := kernel.devices.filter fun device => !gone device
  next := kernel.next
  serials := fun left first right second => kernel.serials left (List.mem_of_mem_filter first) right (List.mem_of_mem_filter second)
  names := fun left first right second => kernel.names left (List.mem_of_mem_filter first) right (List.mem_of_mem_filter second)
  indexes := fun left first right second =>
    kernel.indexes left (List.mem_of_mem_filter first) right (List.mem_of_mem_filter second)
  bounded := fun device member => kernel.bounded device (List.mem_of_mem_filter member)

def lookup (home : Home) (name : String) : List Nat :=
  (kernel.devices.filter fun device => device.home = home && device.name = name).map Device.index

def find? (home : Home) (index : Nat) : Option Device :=
  kernel.devices.find? fun device => device.home = home && device.index = index

/-- An index that no device of a namespace has. -/
def freshIndex (home : Home) : Nat :=
  (kernel.devices.filter fun device => device.home = home).foldr (fun device bound => max bound (device.index + 1)) 1

/-- The errors of the kernel. -/
inductive Refusal where
  | missing
  | taken
deriving DecidableEq

/-- Change the device at an index. -/
def change (home : Home) (index : Nat) (update : Device → Device) : Except Refusal Kernel :=
  match kernel.find? home index with
  | none => .error .missing
  | some device => match kernel.place? (update device) with
    | none => .error .taken
    | some after => .ok after

/-- A device that is moved keeps its index where it is free. -/
def moved (target : Home) (device : Device) : Device :=
  let taken := kernel.devices.any fun other => other.serial ≠ device.serial && other.home = target && other.index = device.index
  { device with home := target, index := if taken then kernel.freshIndex target else device.index }

/-- Two devices that are each other's peers. -/
def addPair (home : Home) (left right : String) (leftAlias rightAlias : Option String) : Except Refusal Kernel :=
  let first : Device :=
    { serial := kernel.next, home, index := kernel.freshIndex home, name := left, ifalias := leftAlias, peer := some (kernel.next + 1) }
  match kernel.place? first with
  | none => .error .taken
  | some between =>
    let second : Device :=
      { serial := kernel.next + 1, home, index := between.freshIndex home, name := right, ifalias := rightAlias,
        peer := some kernel.next }
    match between.place? second with
    | none => .error .taken
    | some after => .ok after

/-- Removing one of a pair removes both. -/
def delete (home : Home) (index : Nat) : Except Refusal (Device × Kernel) :=
  match kernel.find? home index with
  | none => .error .missing
  | some device => .ok (device, kernel.remove fun other => other.serial = device.serial || some other.serial = device.peer)

end Kernel

section Facts

variable {kernel after : Kernel} {device other : Device} {home : Home} {index : Nat} {name : String}

theorem mem_place {free : kernel.Free device} : other ∈ (kernel.place device free).devices ↔
    other = device ∨ (other ∈ kernel.devices ∧ other.serial ≠ device.serial) := by
  simp [Kernel.place]

theorem place?_some (placed : kernel.place? device = some after) : other ∈ after.devices ↔
    other = device ∨ (other ∈ kernel.devices ∧ other.serial ≠ device.serial) := by
  unfold Kernel.place? at placed
  split at placed
  next free =>
    cases placed
    exact mem_place
  next => cases placed

theorem place?_free (placed : kernel.place? device = some after) : kernel.Free device := by
  unfold Kernel.place? at placed
  split at placed
  next free => exact free
  next => cases placed

theorem mem_remove {gone : Device → Bool} : other ∈ (kernel.remove gone).devices ↔ other ∈ kernel.devices ∧ gone other = false := by
  simp [Kernel.remove]

theorem find?_some (found : kernel.find? home index = some device) :
    device ∈ kernel.devices ∧ device.home = home ∧ device.index = index := by
  have member := List.mem_of_find?_eq_some found
  have holds := List.find?_some found
  simp only [Bool.and_eq_true, decide_eq_true_eq] at holds
  exact ⟨member, holds⟩

theorem find?_of_mem (member : device ∈ kernel.devices) : kernel.find? device.home device.index = some device := by
  cases found : kernel.find? device.home device.index with
  | none =>
    have absent := List.find?_eq_none.mp found device member
    simp at absent
  | some other =>
    obtain ⟨among, home, index⟩ := find?_some found
    rw [kernel.indexes other among device member home index]

theorem mem_lookup : index ∈ kernel.lookup home name ↔
    ∃ device ∈ kernel.devices, device.home = home ∧ device.name = name ∧ device.index = index := by
  simp [Kernel.lookup, and_assoc]

/-- A name is looked up where a device has it. -/
theorem lookup_head (found : (kernel.lookup home name).head? = some index) :
    ∃ device ∈ kernel.devices, device.home = home ∧ device.name = name ∧ device.index = index :=
  mem_lookup.mp (List.mem_of_mem_head? found)

theorem lookup_of_mem (member : device ∈ kernel.devices) :
    (kernel.lookup device.home device.name).head? = some device.index := by
  cases found : (kernel.lookup device.home device.name).head? with
  | none =>
    have listed : device.index ∈ kernel.lookup device.home device.name := mem_lookup.mpr ⟨device, member, rfl, rfl, rfl⟩
    rw [List.head?_eq_none_iff.mp found] at listed
    cases listed
  | some index =>
    obtain ⟨other, among, home, name, rfl⟩ := lookup_head found
    rw [kernel.names other among device member home name]

end Facts

section Pairs

variable {kernel after : Kernel} {token : String} {left right serial other : Nat} {home : Home} {index : Nat} {name : String}

/-- The two devices with an alias are each other's peers. -/
structure Pair (kernel : Kernel) (token : String) (left right : Nat) : Prop where
  apart : left ≠ right
  first : ∃ device ∈ kernel.devices, device.serial = left ∧ device.ifalias = some token ∧ device.peer = some right
  second : ∃ device ∈ kernel.devices, device.serial = right ∧ device.ifalias = some token ∧ device.peer = some left
  only : ∀ device ∈ kernel.devices, device.ifalias = some token → device.serial = left ∨ device.serial = right

def At (kernel : Kernel) (serial : Nat) (home : Home) (name : String) : Prop :=
  ∃ device ∈ kernel.devices, device.serial = serial ∧ device.home = home ∧ device.name = name

/-- Nobody else has a name. -/
def Reserved (kernel : Kernel) (serial : Nat) (home : Home) (name : String) : Prop :=
  ∀ device ∈ kernel.devices, device.home = home → device.name = name → device.serial = serial

/-- No device has an alias. -/
def Gone (kernel : Kernel) (token : String) : Prop := ∀ device ∈ kernel.devices, device.ifalias ≠ some token

instance (kernel : Kernel) (token : String) : Decidable (Gone kernel token) :=
  inferInstanceAs (Decidable (∀ device ∈ kernel.devices, device.ifalias ≠ some token))

/-- A step that changes one device, and neither its alias nor its peer. -/
structure Alters (serial : Nat) (before after : Kernel) : Prop where
  others : ∀ device, device.serial ≠ serial → (device ∈ after.devices ↔ device ∈ before.devices)
  own : ∃ device ∈ before.devices, ∃ changed ∈ after.devices, device.serial = serial ∧ changed.serial = serial ∧
    changed.ifalias = device.ifalias ∧ changed.peer = device.peer

theorem At.reserved (placed : At kernel serial home name) : Reserved kernel serial home name := by
  obtain ⟨device, member, rfl, rfl, rfl⟩ := placed
  intro found among home name
  rw [kernel.names found among device member home name]

theorem change_alters {update : Device → Device} {device : Device} (changed : kernel.change home index update = .ok after)
    (found : kernel.find? home index = some device)
    (keeps : (update device).serial = device.serial ∧ (update device).ifalias = device.ifalias ∧ (update device).peer = device.peer) :
    Alters device.serial kernel after ∧ update device ∈ after.devices := by
  simp only [Kernel.change, found] at changed
  split at changed
  next => cases changed
  next placed same =>
    cases changed
    have members := fun other => @place?_some _ _ _ other same
    rw [keeps.1] at members
    have own : update device ∈ after.devices := (members _).mpr (.inl rfl)
    refine ⟨⟨?_, device, (find?_some found).1, update device, own, rfl, keeps.1, keeps.2.1, keeps.2.2⟩, own⟩
    intro other apart
    rw [members]
    constructor
    · rintro (rfl | ⟨member, _⟩)
      · exact absurd keeps.1 apart
      · exact member
    · exact fun member => .inr ⟨member, apart⟩

theorem Pair.symm (pair : Pair kernel token left right) : Pair kernel token right left :=
  ⟨pair.apart.symm, pair.second, pair.first, fun device member mine => (pair.only device member mine).symm⟩

theorem Pair.first_alters (pair : Pair kernel token left right) (alters : Alters serial kernel after) :
    ∃ device ∈ after.devices, device.serial = left ∧ device.ifalias = some token ∧ device.peer = some right := by
  obtain ⟨device, member, same, mine, peer⟩ := pair.first
  by_cases own : serial = left
  · obtain ⟨found, among, changed, final, serialFound, serialChanged, kept, peerKept⟩ := alters.own
    have twin := kernel.serials found among device member (by rw [serialFound, own, same])
    exact ⟨changed, final, serialChanged.trans own, by rw [kept, twin, mine], by rw [peerKept, twin, peer]⟩
  · exact ⟨device, (alters.others device (by rw [same]; exact fun other => own other.symm)).mpr member, same, mine, peer⟩

/-- Steps on single devices keep a pair together. -/
theorem Pair.alters (pair : Pair kernel token left right) (alters : Alters serial kernel after) : Pair after token left right where
  apart := pair.apart
  first := pair.first_alters alters
  second := pair.symm.first_alters alters
  only := by
    intro device member mine
    by_cases own : device.serial = serial
    · obtain ⟨found, among, changed, final, serialFound, serialChanged, kept, _⟩ := alters.own
      have twin := after.serials device member changed final (own.trans serialChanged.symm)
      rw [own, ← serialFound]
      exact pair.only found among (by rw [← kept, ← twin, mine])
    · exact pair.only device ((alters.others device own).mp member) mine

theorem At.alters (placed : At kernel other home name) (apart : other ≠ serial) (alters : Alters serial kernel after) :
    At after other home name := by
  obtain ⟨device, member, rfl, place⟩ := placed
  exact ⟨device, (alters.others device apart).mpr member, rfl, place⟩

theorem Reserved.alters (reserved : Reserved kernel serial home name) (alters : Alters serial kernel after) :
    Reserved after serial home name := by
  intro device member atHome named
  by_cases own : device.serial = serial
  · exact own
  · exact reserved device ((alters.others device own).mp member) atHome named

/-- Removing one of the pair leaves none of it. -/
theorem Pair.delete (pair : Pair kernel token left right) {device : Device} (deleted : kernel.delete home index = .ok (device, after))
    (mine : device.ifalias = some token) : Gone after token := by
  unfold Kernel.delete at deleted
  split at deleted
  next => cases deleted
  next found same =>
    cases deleted
    have member := (find?_some same).1
    intro rest remains bears
    obtain ⟨among, kept⟩ := mem_remove.mp remains
    simp only [Bool.or_eq_false_iff, decide_eq_false_iff_not] at kept
    have partner : ∀ first second : Nat, Pair kernel token first second → device.serial = first → device.peer = some second := by
      intro first second pair own
      obtain ⟨twin, inside, serial, _, peer⟩ := pair.first
      rw [kernel.serials device member twin inside (own.trans serial.symm), peer]
    rcases pair.only device member mine with own | own <;> rcases pair.only rest among bears with its | its
    · exact kept.1 (its.trans own.symm)
    · exact kept.2 (by rw [partner _ _ pair own, its])
    · exact kept.2 (by rw [partner _ _ pair.symm own, its])
    · exact kept.1 (its.trans own.symm)

/-- The devices without an alias are the same ones. -/
def SameBut (token : String) (before after : Kernel) : Prop :=
  ∀ device, device.ifalias ≠ some token → (device ∈ after.devices ↔ device ∈ before.devices)

theorem SameBut.trans {before : Kernel} (first : SameBut token before kernel) (second : SameBut token kernel after) :
    SameBut token before after := fun device foreign => (second device foreign).trans (first device foreign)

theorem Pair.mine (pair : Pair kernel token left right) {device : Device} (member : device ∈ kernel.devices)
    (same : device.serial = left) : device.ifalias = some token := by
  obtain ⟨twin, inside, serial, mine, _⟩ := pair.first
  rw [kernel.serials device member twin inside (same.trans serial.symm), mine]

/-- What happens to one of the pair happens to no other device. -/
theorem Pair.sameBut (pair : Pair kernel token left right) (alters : Alters left kernel after) : SameBut token kernel after := by
  intro device foreign
  by_cases own : device.serial = left
  · constructor
    · exact fun member => absurd ((pair.alters alters).mine member own) foreign
    · exact fun member => absurd (pair.mine member own) foreign
  · exact alters.others device own

theorem Pair.delete_sameBut (pair : Pair kernel token left right) {device : Device}
    (deleted : kernel.delete home index = .ok (device, after)) (mine : device.ifalias = some token) : SameBut token kernel after := by
  unfold Kernel.delete at deleted
  split at deleted
  next => cases deleted
  next found same =>
    cases deleted
    have member := (find?_some same).1
    have partner : device.peer = some left ∨ device.peer = some right := by
      have peers : ∀ first second : Nat, Pair kernel token first second → device.serial = first → device.peer = some second := by
        intro first second pair own
        obtain ⟨twin, inside, serial, _, peer⟩ := pair.first
        rw [kernel.serials device member twin inside (own.trans serial.symm), peer]
      rcases pair.only device member mine with own | own
      · exact .inr (peers left right pair own)
      · exact .inl (peers right left pair.symm own)
    intro rest foreign
    rw [mem_remove]
    refine ⟨And.left, fun remains => ⟨remains, ?_⟩⟩
    have apart : rest.serial ≠ left ∧ rest.serial ≠ right :=
      ⟨fun same => foreign (pair.mine remains same), fun same => foreign (pair.symm.mine remains same)⟩
    simp only [Bool.or_eq_false_iff, decide_eq_false_iff_not]
    constructor
    · intro same
      rcases pair.only device member mine with own | own
      · exact apart.1 (same.trans own)
      · exact apart.2 (same.trans own)
    · intro same
      rcases partner with peer | peer <;> rw [peer, Option.some.injEq] at same
      · exact apart.1 same
      · exact apart.2 same

theorem Gone.delete {device : Device} (gone : Gone kernel token) (deleted : kernel.delete home index = .ok (device, after)) :
    Gone after token := by
  unfold Kernel.delete at deleted
  split at deleted
  next => cases deleted
  next =>
    cases deleted
    exact fun rest remains => gone rest (mem_remove.mp remains).1

/-- A new pair, where nobody had its alias. -/
theorem addPair_pair {first second : String} (fresh : Gone kernel token)
    (added : kernel.addPair home first second (some token) (some token) = .ok after) :
    Pair after token kernel.next (kernel.next + 1) ∧ At after kernel.next home first ∧ At after (kernel.next + 1) home second ∧
      first ≠ second := by
  simp only [Kernel.addPair] at added
  split at added
  next => cases added
  next between one =>
    split at added
    next => cases added
    next placed two =>
      cases added
      have inside := fun other => @place?_some _ _ _ other one
      have outside := fun other => @place?_some _ _ _ other two
      have firstIn := (outside _).mpr (.inr ⟨(inside _).mpr (.inl rfl), by simp⟩)
      have secondIn := (outside _).mpr (.inl rfl)
      refine ⟨⟨by omega, ⟨_, firstIn, rfl, rfl, rfl⟩, ⟨_, secondIn, rfl, rfl, rfl⟩, ?_⟩, ⟨_, firstIn, rfl, rfl, rfl⟩,
        ⟨_, secondIn, rfl, rfl, rfl⟩, ?_⟩
      · intro device member mine
        rcases (outside device).mp member with rfl | ⟨member, _⟩
        · exact .inr rfl
        · rcases (inside device).mp member with rfl | ⟨member, _⟩
          · exact .inl rfl
          · exact absurd mine (fresh device member)
      · exact (place?_free two _ ((inside _).mpr (.inl rfl)) (by simp) rfl).1

theorem addPair_sameBut {first second : String} (added : kernel.addPair home first second (some token) (some token) = .ok after) :
    SameBut token kernel after := by
  simp only [Kernel.addPair] at added
  split at added
  next => cases added
  next between one =>
    split at added
    next => cases added
    next placed two =>
      cases added
      intro device foreign
      rw [place?_some two, place?_some one]
      constructor
      · rintro (rfl | ⟨rfl | ⟨member, _⟩, _⟩)
        · exact absurd rfl foreign
        · exact absurd rfl foreign
        · exact member
      · intro member
        have below := kernel.bounded device member
        refine .inr ⟨.inr ⟨member, ?_⟩, ?_⟩ <;> dsimp only <;> omega

end Pairs

end NetDevices
