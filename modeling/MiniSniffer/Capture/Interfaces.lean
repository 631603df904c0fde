import MiniSniffer.Cli.Arguments
import MiniSniffer.Foundation.FirstBest

/-!
Contract: the interfaces that a capture may run on (`capture_list_interfaces`,
`choose_default_device` and `interface_exists` in `src/capture.c`).

Owns what is printed of an interface, which one is the default and which names are accepted; and
that the default is the first of the best interfaces, whose name would be accepted too.

Does not own how interfaces are found: they are the list that `pcap_findalldevs` returns. Names are
without their terminators.
-/

namespace MiniSniffer

open Foundation

/-! ### Interfaces -/

inductive AddressFamily where
  | inet
  | inet6
  | other
deriving DecidableEq, Repr

def pcapIfLoopback : UInt32 := 1

/-- `pcap_if_t`; pointers may be null. -/
structure PcapInterface where
  name : Option (List UInt8)
  description : Option (List UInt8) := none
  addresses : List (Option AddressFamily) := []
  flags : UInt32 := 0
deriving DecidableEq, Repr

def hasIpv4Address (device : PcapInterface) : Bool :=
  device.addresses.any fun address => address = some .inet

def hasIpv6Address (device : PcapInterface) : Bool :=
  device.addresses.any fun address => address = some .inet6

def isLoopbackDevice (device : PcapInterface) : Bool := device.flags &&& pcapIfLoopback ≠ 0

def isAppleInternalDeviceName : Option (List UInt8) → Bool
  | none => false
  | some name =>
      [ascii "ap", ascii "awdl", ascii "llw", ascii "utun"].any fun internal =>
        internal.isPrefixOf name

def hasPreferredName : Option (List UInt8) → Bool
  | none => false
  | some name => (ascii "en").isPrefixOf name

def isPreferredDefaultDevice (device : PcapInterface) : Bool :=
  hasPreferredName device.name && !isLoopbackDevice device &&
    !isAppleInternalDeviceName device.name && hasIpv4Address device

/-! ### Listing -/

/-- The hints of an interface, in order. -/
def interfaceHints (device : PcapInterface) : List (List UInt8) :=
  (if isPreferredDefaultDevice device then [ascii "default-candidate"] else []) ++
    (if isLoopbackDevice device then [ascii "loopback"] else []) ++
    (if isAppleInternalDeviceName device.name then [ascii "internal"] else []) ++
    (if hasIpv4Address device then [ascii "ipv4"] else []) ++
    if hasIpv6Address device then [ascii "ipv6"] else []

def printInterfaceHints (device : PcapInterface) : List UInt8 :=
  ascii " [" ++
    (if interfaceHints device = [] then ascii "no-addresses"
    else (ascii ", ").intercalate (interfaceHints device)) ++ ascii "]"

def interfaceDescription : Option (List UInt8) → List UInt8
  | none | some [] => ascii "(no description)"
  | some description => description

def printInterfaceLine (device : PcapInterface) : List UInt8 :=
  (if isPreferredDefaultDevice device then ascii "*" else ascii " ") ++ ascii " " ++
    device.name.getD (ascii "(unnamed)") ++ ascii " - " ++
    interfaceDescription device.description ++ printInterfaceHints device ++ ascii "\n"

def captureListInterfaces (devices : List PcapInterface) : List UInt8 :=
  ascii "Capture interfaces:\n" ++ devices.flatMap printInterfaceLine ++
    if devices = [] then ascii "(none)\n" else []

/-! ### The default -/

def captureDeviceNameLen : Nat := 128

/-- A name that does not fit is an error. -/
def copyDeviceName (destinationSize : Nat) : Option (List UInt8) → Option (List UInt8)
  | none => none
  | some name => if name.length ≥ destinationSize then none else some name

def isExternalDevice (device : PcapInterface) : Bool :=
  device.name.isSome && !isLoopbackDevice device && !isAppleInternalDeviceName device.name

/-- Four scans, the later ones for less. -/
def chooseDefaultDevice (deviceNameSize : Nat) (devices : List PcapInterface) :
    Option (List UInt8) :=
  match devices.find? isPreferredDefaultDevice with
  | some device => copyDeviceName deviceNameSize device.name
  | none =>
      match devices.find? fun device => isExternalDevice device && hasIpv4Address device with
      | some device => copyDeviceName deviceNameSize device.name
      | none =>
          match devices.find? isExternalDevice with
          | some device => copyDeviceName deviceNameSize device.name
          | none =>
              match devices.find? fun device =>
                device.name.isSome && !isLoopbackDevice device with
              | some device => copyDeviceName deviceNameSize device.name
              | none => none

/-- `none` is a null pointer that is compared. -/
def interfaceExists (device : List UInt8) : List PcapInterface → Option Bool
  | [] => some false
  | current :: rest =>
      match current.name with
      | none => none
      | some name => if name = device then some true else interfaceExists device rest

/-- What is captured from: a savefile, or the default interface, or an interface that exists. -/
def captureDevice (config : MiniSnifferConfig) (devices : Option (List PcapInterface)) :
    Option (List UInt8) :=
  if config.readPathEnabled then some config.readPath
  else if config.interfaceName = [] then devices.bind (chooseDefaultDevice captureDeviceNameLen)
  else if devices.bind (interfaceExists config.interfaceName) = some true then
    some config.interfaceName
  else none

/-! ### Ranks -/

def isSelectable (device : PcapInterface) : Bool :=
  device.name.isSome && !isLoopbackDevice device

/-- How well an interface suits as the default. -/
def deviceRank (device : PcapInterface) : Nat :=
  if isAppleInternalDeviceName device.name then 0
  else if !hasIpv4Address device then 1
  else if !hasPreferredName device.name then 2
  else 3

section Default

variable {devices : List PcapInterface} {chosen : List UInt8}

theorem deviceRank_le (device : PcapInterface) : deviceRank device ≤ 3 := by
  unfold deviceRank
  split_ifs <;> omega

/-- The scans look for an interface of at least their rank. -/
theorem scans_eq_ranks (device : PcapInterface) :
    isPreferredDefaultDevice device = (isSelectable device && decide (3 ≤ deviceRank device)) ∧
      (isExternalDevice device && hasIpv4Address device) =
        (isSelectable device && decide (2 ≤ deviceRank device)) ∧
      isExternalDevice device = (isSelectable device && decide (1 ≤ deviceRank device)) ∧
      (device.name.isSome && !isLoopbackDevice device) =
        (isSelectable device && decide (0 ≤ deviceRank device)) := by
  unfold isPreferredDefaultDevice isExternalDevice isSelectable deviceRank
  cases device.name with
  | none => simp [hasPreferredName]
  | some name =>
      cases isLoopbackDevice device <;> cases isAppleInternalDeviceName (some name) <;>
        cases hasIpv4Address device <;> cases hasPreferredName (some name) <;> simp

/-- The interface that suits best as the default; of equals the first. -/
def bestInterface (devices : List PcapInterface) : Option PcapInterface :=
  (devices.filter isSelectable).argmax deviceRank

theorem find?_selectable (least : Nat) (devices : List PcapInterface) :
    (devices.filter isSelectable).find? (fun device => decide (least ≤ deviceRank device)) =
      devices.find? fun device => isSelectable device && decide (least ≤ deviceRank device) := by
  rw [List.find?_filter]
  simp only [Bool.decide_and, Bool.decide_eq_true]

/-- The four scans, as one search for each rank. -/
theorem bestInterface_eq_scans (devices : List PcapInterface) :
    bestInterface devices = (devices.find? isPreferredDefaultDevice).or
      ((devices.find? fun device => isExternalDevice device && hasIpv4Address device).or
        ((devices.find? isExternalDevice).or
          (devices.find? fun device => device.name.isSome && !isLoopbackDevice device))) := by
  have bounded : ∀ device ∈ devices.filter isSelectable, deviceRank device ≤ 3 :=
    fun device _ => deviceRank_le device
  rw [bestInterface, ← firstOfRank_eq_argmax bounded]
  simp only [firstOfRank, find?_selectable]
  have preferred : isPreferredDefaultDevice = fun device =>
      isSelectable device && decide (3 ≤ deviceRank device) :=
    funext fun device => (scans_eq_ranks device).1
  have addressed : (fun device => isExternalDevice device && hasIpv4Address device) = fun device =>
      isSelectable device && decide (2 ≤ deviceRank device) :=
    funext fun device => (scans_eq_ranks device).2.1
  have external : isExternalDevice = fun device =>
      isSelectable device && decide (1 ≤ deviceRank device) :=
    funext fun device => (scans_eq_ranks device).2.2.1
  have selectable : (fun device : PcapInterface =>
      device.name.isSome && !isLoopbackDevice device) = fun device =>
        isSelectable device && decide (0 ≤ deviceRank device) :=
    funext fun device => (scans_eq_ranks device).2.2.2
  rw [addressed, selectable, preferred, external]

/-- The default is the best interface, if its name fits. -/
theorem chooseDefaultDevice_eq (size : Nat) (devices : List PcapInterface) :
    chooseDefaultDevice size devices =
      (bestInterface devices).bind fun device => copyDeviceName size device.name := by
  rw [bestInterface_eq_scans, chooseDefaultDevice]
  cases devices.find? isPreferredDefaultDevice with
  | some device => rfl
  | none =>
      cases devices.find? fun device => isExternalDevice device && hasIpv4Address device with
      | some device => rfl
      | none =>
          cases devices.find? isExternalDevice with
          | some device => rfl
          | none =>
              cases devices.find? fun device =>
                  device.name.isSome && !isLoopbackDevice device with
              | some device => rfl
              | none => rfl

/-- The default is one of the interfaces and no loopback. -/
theorem chooseDefaultDevice_member {size : Nat}
    (chose : chooseDefaultDevice size devices = some chosen) :
    ∃ device ∈ devices, device.name = some chosen ∧ isLoopbackDevice device = false := by
  rw [chooseDefaultDevice_eq] at chose
  obtain ⟨device, best, copied⟩ := Option.bind_eq_some_iff.mp chose
  obtain ⟨member, selectable⟩ := List.mem_filter.mp (List.argmax_mem best)
  refine ⟨device, member, ?_, ?_⟩
  · cases named : device.name with
    | none =>
        rw [named] at copied
        contradiction
    | some name =>
        rw [named, copyDeviceName] at copied
        split at copied
        · contradiction
        · exact copied
  · rw [isSelectable, Bool.and_eq_true, Bool.not_eq_true'] at selectable
    exact selectable.2

theorem interfaceExists_eq (named : ∀ device ∈ devices, device.name.isSome = true)
    (name : List UInt8) :
    interfaceExists name devices =
      some (devices.any fun device => device.name = some name) := by
  induction devices with
  | nil => rfl
  | cons current devices inductionHypothesis =>
      rw [List.forall_mem_cons] at named
      obtain ⟨currentName, same⟩ := Option.isSome_iff_exists.mp named.1
      rw [interfaceExists, inductionHypothesis named.2, List.any_cons, same]
      by_cases found : currentName = name
      · simp [found]
      · simp [found]

theorem printInterfaceLine_head (device : PcapInterface) :
    (printInterfaceLine device).head? = some 42 ↔ isPreferredDefaultDevice device = true := by
  have star : ascii "*" = [42] := rfl
  have blank : ascii " " = [32] := rfl
  unfold printInterfaceLine
  rw [star, blank]
  cases isPreferredDefaultDevice device <;> simp

/-- Whatever interfaces there are: the default is the best of them, which the listing marks if any
line of it is marked; and a live capture runs on an interface that exists, and without `--interface`
on no loopback. -/
theorem default_interface_best (devices : List PcapInterface)
    (named : ∀ device ∈ devices, device.name.isSome = true) :
    (chooseDefaultDevice captureDeviceNameLen devices =
      (bestInterface devices).bind fun device =>
        copyDeviceName captureDeviceNameLen device.name) ∧
    (∀ line, (devices.map printInterfaceLine).find? (fun line => line.head? = some 42) =
        some line →
      ∃ device, bestInterface devices = some device ∧ printInterfaceLine device = line) ∧
    ∀ (config : MiniSnifferConfig) (chosen : List UInt8), config.readPathEnabled = false →
      captureDevice config (some devices) = some chosen →
      interfaceExists chosen devices = some true ∧
        (config.interfaceName = [] → ∃ device ∈ devices, device.name = some chosen ∧
          isLoopbackDevice device = false) := by
  refine ⟨chooseDefaultDevice_eq _ devices, ?_, ?_⟩
  · intro line marked
    have starred : ((fun line : List UInt8 => decide (line.head? = some 42)) ∘
        printInterfaceLine) = isPreferredDefaultDevice := by
      funext device
      rw [Function.comp_apply, Bool.eq_iff_iff, decide_eq_true_iff]
      exact printInterfaceLine_head device
    rw [List.find?_map, starred] at marked
    obtain ⟨device, found, rfl⟩ := Option.map_eq_some_iff.mp marked
    refine ⟨device, ?_, rfl⟩
    rw [bestInterface_eq_scans, found]
    rfl
  · intro config chosen live captured
    unfold captureDevice at captured
    rw [live, if_neg Bool.false_ne_true] at captured
    split at captured
    next unnamed =>
      obtain ⟨device, member, same, external⟩ := chooseDefaultDevice_member captured
      refine ⟨?_, fun _ => ⟨device, member, same, external⟩⟩
      rw [interfaceExists_eq named, Option.some.injEq, List.any_eq_true]
      exact ⟨device, member, by simpa using same⟩
    next given =>
      split at captured
      next found =>
        obtain rfl := Option.some.inj captured
        exact ⟨found, fun empty => absurd empty given⟩
      next => contradiction

/-- A loopback, a tunnel and two network cards. -/
def sampleInterfaces : List PcapInterface :=
  [{ name := some (ascii "lo0"), addresses := [some .inet], flags := pcapIfLoopback },
    { name := some (ascii "utun0"), addresses := [some .inet] },
    { name := some (ascii "bridge0"), description := some (ascii "Bridge") },
    { name := some (ascii "en0"), addresses := [none, some .inet6, some .inet] }]

theorem default_interface_best_sampleInterfaces :
    chooseDefaultDevice captureDeviceNameLen sampleInterfaces =
        (bestInterface sampleInterfaces).bind (fun device =>
          copyDeviceName captureDeviceNameLen device.name) ∧
      chooseDefaultDevice captureDeviceNameLen sampleInterfaces = some (ascii "en0") :=
  ⟨(default_interface_best sampleInterfaces (by decide)).1, by decide +kernel⟩

end Default

end MiniSniffer
