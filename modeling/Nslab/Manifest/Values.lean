import Nslab.Library.IpAddress
import Nslab.Library.Normal
import Nslab.Tc

/-! The values that occur in manifests: names, hardware addresses, IP addresses,
rates and sizes. -/

namespace Nslab

open Schema IpAddress

def kernelTunnelFallbackNames : List String := ["gre0", "gretap0", "erspan0", "tunl0"]

def pimRegisterInterfaceName : String := "pimreg"

def allowedSysctls : List String := ["net.ipv4.ip_forward", "net.ipv6.conf.all.forwarding"]

def mainRouteTable : Int := 254

def ipv6MinimumLinkMtu : Int := 1280

def reservedVrfTables : List Int := [253, 254, 255]

section Names

def isLower (char : Char) : Bool := 'a' ≤ char ∧ char ≤ 'z'

def isUpper (char : Char) : Bool := 'A' ≤ char ∧ char ≤ 'Z'

/-- `NAME_PATTERN`: a lowercase letter and at most 31 more characters. -/
def isName (text : String) : Bool :=
  match text.toList with
  | [] => false
  | first :: rest =>
    isLower first && rest.length ≤ 31 && rest.all fun char => isLower char || char.isDigit || char = '_' || char = '-'

/-- `IFNAME_PATTERN`: one to fifteen characters. -/
def isInterfaceName (text : String) : Bool :=
  1 ≤ text.toList.length && text.toList.length ≤ 15 && text.toList.all fun char =>
    isUpper char || isLower char || char.isDigit || char = '_' || char = '.' || char = '-'

def issue (message : String) : Issue := ⟨[], message⟩

def requireName (pattern : String → Bool) (label value : String) : Except Issue Unit :=
  Checks.raiseIf (pattern value = false) (issue ("invalid " ++ label ++ ": " ++ quoted value))

def requireInterfaceName (label value : String) : Except Issue Unit := do
  requireName isInterfaceName label value
  Checks.raiseIf (value ∈ kernelTunnelFallbackNames) (issue (label ++ " is reserved by the kernel: " ++ quoted value))

/-- The name of an interface. -/
def interfaceName (label : String) : Codec String :=
  Codec.text.validated (requireInterfaceName label)

/-- The name of an interface other than the loopback. -/
def linkName (label role : String) : Codec String :=
  Codec.text.validated fun value => do
    requireInterfaceName label value
    Checks.raiseIf (value = "lo") (issue (role ++ " cannot be 'lo'"))

/-- Distinct names of interfaces other than the loopback. -/
def memberNames (device : String) (minimum : Nat) : Codec (List String) :=
  ((Codec.listed (device ++ " interfaces") .text).validated fun names =>
    Checks.raiseIf (names.length < minimum)
      (issue ("Tuple should have at least " ++ toString minimum ++ " item(s) after validation"))).validated fun names => do
    Checks.each names fun name => do
      requireInterfaceName (device ++ " member interface name") name
      Checks.raiseIf (name = "lo") (issue (device ++ " member interface cannot be 'lo'"))
    Checks.raiseIf (¬ names.Nodup) (issue (device ++ " member interfaces must be unique"))

/-- Distinct names of interfaces, the loopback included. -/
def uniqueNames (role label : String) : Codec (List String) :=
  (Codec.listed role .text).validated fun names => do
    Checks.each names (requireInterfaceName label)
    Checks.raiseIf (¬ names.Nodup) (issue (role ++ " must be unique"))

instance {label : String} : (interfaceName label).Exact := by unfold interfaceName; infer_instance

instance {label role : String} : (linkName label role).Exact := by unfold linkName; infer_instance

instance {device : String} {minimum : Nat} : (memberNames device minimum).Exact := by
  unfold memberNames; infer_instance

instance {role label : String} : (uniqueNames role label).Exact := by unfold uniqueNames; infer_instance

end Names

section Hardware

def isMacAt (index : Nat) (char : Char) : Bool :=
  if index % 3 = 2 then char = ':'
  else char ∈ ['0', '1', '2', '3', '4', '5', '6', '7', '8', '9', 'a', 'b', 'c', 'd', 'e', 'f', 'A', 'B', 'C', 'D', 'E', 'F']

/-- `MAC_PATTERN`: six pairs of hexadecimal digits. -/
def isMac (text : List Char) : Bool := text.length = 17 && text.zipIdx.all fun (char, index) => isMacAt index char

/-- A unicast hardware address in lowercase. -/
def normalizeMacAddress (label : String) (text : List Char) : Except String (List Char) :=
  if isMac text = false then .error ("invalid " ++ label ++ ": " ++ quoted (String.ofList text))
  else
    let normalized := text.map Char.toLower
    if (Text.hexadecimal? (normalized.take 2)).any (· % 2 = 1) ∨ normalized = "00:00:00:00:00:00".toList then
      .error (label ++ " must be a unicast address: " ++ quoted (String.ofList text))
    else .ok normalized

theorem isMacAt_lower {index : Nat} {char : Char} (valid : isMacAt index char = true) :
    isMacAt index char.toLower = true ∧ char.toLower.toLower = char.toLower := by
  unfold isMacAt at valid ⊢
  split at valid
  next colon =>
    obtain rfl : char = ':' := by simpa using valid
    rw [if_pos colon]
    decide
  next digit =>
    rw [if_neg digit]
    have all : "0123456789abcdefABCDEF".toList.all (fun char => decide (char.toLower ∈ ['0', '1', '2', '3', '4', '5', '6',
        '7', '8', '9', 'a', 'b', 'c', 'd', 'e', 'f', 'A', 'B', 'C', 'D', 'E', 'F']) &&
        char.toLower.toLower == char.toLower) = true := by decide
    simpa using List.all_eq_true.mp all char (by simpa using valid)

theorem normalizeMacAddress_idem {label other : String} {text normalized : List Char}
    (normal : normalizeMacAddress label text = .ok normalized) : normalizeMacAddress other normalized = .ok normalized := by
  unfold normalizeMacAddress at normal
  split at normal
  · simp at normal
  next shape =>
    have mac : text.length = 17 ∧ ∀ entry ∈ text.zipIdx, isMacAt entry.2 entry.1 = true := by
      simpa [isMac] using shape
    dsimp only at normal
    split at normal
    · simp at normal
    next unicast =>
      obtain rfl := Except.ok.inj normal
      have again : isMac (text.map Char.toLower) = true := by
        simp only [isMac, List.length_map, mac.1, decide_true, Bool.true_and, List.all_eq_true, List.zipIdx_map,
          List.mem_map]
        rintro _ ⟨entry, member, rfl⟩
        exact (isMacAt_lower (mac.2 entry member)).1
      have fixed : (text.map Char.toLower).map Char.toLower = text.map Char.toLower := by
        rw [List.map_map]
        refine List.map_congr_left fun char member => ?_
        obtain ⟨index, bound, rfl⟩ := List.mem_iff_getElem.mp member
        have entry : (text[index], index) ∈ text.zipIdx := by
          rw [List.mem_zipIdx_iff_getElem?]
          simp [bound]
        exact (isMacAt_lower (mac.2 _ entry)).2
      simp only [normalizeMacAddress, again, Bool.true_eq_false, if_false, fixed]
      exact if_neg unicast

structure MacAddress where
  chars : List Char
  canonical : ∀ label, normalizeMacAddress label chars = .ok chars
deriving DecidableEq

def macAddress (label : String) : Codec MacAddress where
  read
    | .str text => match normal : normalizeMacAddress label text.toList with
      | .ok chars => .ok ⟨chars, fun _ => normalizeMacAddress_idem normal⟩
      | .error message => refuse message
    | _ => refuse ("invalid " ++ label)
  dump mac := .str (String.ofList mac.chars)
  settle _ mac := mac
  holds _ := True
  given _ := by simp
  plain _ := rfl
  reads mac _ _ _ := by
    simp only [Document.reshape]
    split
    next chars normal =>
      rw [String.toList_ofList] at normal
      have same : mac.chars = chars := Except.ok.inj ((mac.canonical label).symm.trans normal)
      cases mac
      simp_all
    next message normal =>
      rw [String.toList_ofList] at normal
      simp [mac.canonical label] at normal
  sound _ _ _ _ := trivial

instance {label : String} : (macAddress label).Exact := ⟨fun _ _ => rfl⟩

end Hardware

section Addresses

def addressText (other : String) : Codec IPAddress :=
  Codec.ofText IPAddress.parse IPAddress.chars other "value is not a valid IPv4 or IPv6 address" IPAddress.parse_chars

def interfaceText (other : String) : Codec IPInterface :=
  Codec.ofText IPInterface.parse IPInterface.chars other "value is not a valid IPv4 or IPv6 interface" IPInterface.parse_chars

def address4Text (other : String) : Codec IPv4Address :=
  Codec.ofText IPv4Address.parse IPv4Address.chars other "Input is not a valid IPv4 address" IPv4Address.parse_chars

def networkText (other : String) : Codec IPNetwork :=
  Codec.ofText IPNetwork.parse IPNetwork.chars other "value is not a valid IPv4 or IPv6 network" IPNetwork.parse_chars

/-- `default` stands for the IPv4 default route. -/
def parseDestination (text : List Char) : Option IPNetwork :=
  IPNetwork.parse (if text = "default".toList then "0.0.0.0/0".toList else text)

theorem parseDestination_chars (network : IPNetwork) : parseDestination network.chars = some network := by
  have slash : network.chars ≠ "default".toList := by
    intro same
    have member : '/' ∈ network.chars := List.mem_append_right _ (by simp)
    rw [same] at member
    exact absurd member (by decide)
  rw [parseDestination, if_neg slash, IPNetwork.parse_chars]

def destinationText (other : String) : Codec IPNetwork :=
  Codec.ofText parseDestination IPNetwork.chars other "value is not a valid IPv4 or IPv6 network" parseDestination_chars

/-- `IPv4Address(value)` of a text or an integer. -/
def readAddress4 : Document → Option IPv4Address
  | .str text => IPv4Address.parse text.toList
  | .int value => if 0 ≤ value then IPv4Address.ofNat? value.toNat else none
  | .bool value => IPv4Address.ofNat? value.toNat
  | _ => none

/-- A field of type `IPv4Address` without further checks of its input. -/
def address4 : Codec IPv4Address where
  read document := match readAddress4 document with
    | some address => .ok address
    | none => refuse "Input is not a valid IPv4 address"
  dump address := .str (String.ofList address.chars)
  settle _ address := address
  holds _ := True
  given _ := by simp
  plain _ := rfl
  reads address _ _ _ := by simp [Document.reshape, readAddress4, IPv4Address.parse_chars]
  sound _ _ _ _ := trivial

def network4? (network : IPNetwork) : Option IPv4Network :=
  if version : network.version = 4 then some ⟨network, version⟩ else none

/-- A netmask given as a prefix length or as a text. -/
def readMask4 (address : IPAddress) : Document → Option Nat
  | .int value => if 0 ≤ value ∧ value ≤ 32 then some value.toNat else none
  | .bool value => some value.toNat
  | .str text => prefixOf address (some text.toList)
  | _ => none

/-- `IPv4Network(value)` of a text, an integer, or a tuple of an address and a mask. -/
def readNetwork4 : Document → Option IPv4Network
  | .str text => (IPNetwork.parse text.toList).bind network4?
  | .sequence true [address] => (readAddress4 address).bind fun address =>
    (IPNetwork.make? (.v4 address) 32).bind network4?
  | .sequence true [address, mask] => (readAddress4 address).bind fun address =>
    (readMask4 (.v4 address) mask).bind fun length => (IPNetwork.make? (.v4 address) length).bind network4?
  | document => (readAddress4 document).bind fun address => (IPNetwork.make? (.v4 address) 32).bind network4?

/-- A field of type `IPv4Network` without further checks of its input. -/
def network4 : Codec IPv4Network where
  read document := match readNetwork4 document with
    | some network => .ok network
    | none => refuse "Input is not a valid IPv4 network"
  dump network := .str (String.ofList network.val.chars)
  settle _ network := network
  holds _ := True
  given _ := by simp
  plain _ := rfl
  reads network _ _ _ := by
    simp [Document.reshape, readNetwork4, IPNetwork.parse_chars, network4?, network.property]
  sound _ _ _ _ := trivial

instance {other : String} : (addressText other).Exact := ⟨fun _ _ => rfl⟩

instance {other : String} : (interfaceText other).Exact := ⟨fun _ _ => rfl⟩

instance {other : String} : (address4Text other).Exact := ⟨fun _ _ => rfl⟩

instance {other : String} : (networkText other).Exact := ⟨fun _ _ => rfl⟩

instance {other : String} : (destinationText other).Exact := ⟨fun _ _ => rfl⟩

instance : address4.Exact := ⟨fun _ _ => rfl⟩

instance : network4.Exact := ⟨fun _ _ => rfl⟩

end Addresses

section Amounts

structure Rate where
  chars : List Char
  canonical : Tc.normalizeRate chars = .ok chars
deriving DecidableEq

def tcIssue {α : Type} : Tc.TcError → Except Issue α
  | .valueError message => refuse message
  | .keyError unit => refuse ("KeyError: " ++ quoted (String.ofList unit))

def rate : Codec Rate where
  read
    | .str text => match normal : Tc.normalizeRate text.toList with
      | .ok chars => .ok ⟨chars, Tc.normalizeRate_idem normal⟩
      | .error error => tcIssue error
    | _ => refuse "rate must be a string such as '10mbit'"
  dump rate := .str (String.ofList rate.chars)
  settle _ rate := rate
  holds _ := True
  given _ := by simp
  plain _ := rfl
  reads rate _ _ _ := by
    simp only [Document.reshape]
    split
    next chars normal =>
      rw [String.toList_ofList] at normal
      have same : rate.chars = chars := Except.ok.inj (rate.canonical.symm.trans normal)
      cases rate
      simp_all
    next error normal =>
      rw [String.toList_ofList] at normal
      simp [rate.canonical] at normal
  sound _ _ _ _ := trivial

/-- `parse_size`, on a count of bytes or a text with a unit. -/
def parseSize : Document → Except Issue Int
  | .int amount => do
    Checks.raiseIf (amount ≤ 0 ∨ (Tc.maxSizeBytes : Int) < amount) (issue "size must be in the range 1..4294967295 bytes")
    pure amount
  | .str text => match Tc.parseSizeText text.toList with
    | .ok amount => .ok amount
    | .error error => tcIssue error
  | _ => refuse "size must be an integer or use b/kb/mb/gb"

def size : Codec Int where
  read := parseSize
  dump := .int
  settle _ amount := amount
  holds amount := 0 < amount ∧ amount ≤ Tc.maxSizeBytes
  given := Codec.strictInt.given
  plain := Codec.strictInt.plain
  reads amount _ _ holds := by
    simp only [Document.reshape, parseSize, Checks.bind_ok, Checks.raiseIf_ok, Checks.exists_unit, Checks.pure_ok,
      and_true]
    omega
  sound document amount _ read := by
    cases document with
    | int given =>
      simp only [parseSize, Checks.bind_ok, Checks.raiseIf_ok, Checks.exists_unit, Checks.pure_ok] at read
      omega
    | str text =>
      simp only [parseSize] at read
      split at read
      next parsed found =>
        simp only [Tc.parseSizeText, Checks.bind_ok] at found
        obtain ⟨whole, _, valid⟩ := found
        split at valid
        · simp at valid
        next range =>
          have same := Except.ok.inj valid
          have given := Except.ok.inj read
          omega
      next error _ => cases error <;> simp [tcIssue] at read
    | _ => simp [parseSize] at read

instance : rate.Exact := ⟨fun _ _ => rfl⟩

instance : size.Exact := ⟨fun _ _ => rfl⟩

end Amounts

end Nslab
