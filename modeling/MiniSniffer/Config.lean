import MiniSniffer.Common

/-!
Contract: the run-time configuration (`include/config.h`).

Owns the options that capture and filtering read, with their defaults, and the hard caps that table
initialisation enforces.

Left out: options that only choose the capture source or shape the output.
-/

namespace MiniSniffer

def minisnifferMaxFlows : Nat := 1024

def minisnifferMaxStreamBufferBytes : Nat := 1048576

def minisnifferMaxTotalReassemblyBytes : Nat := 134217728

def minisnifferMaxIpv4FragmentDatagrams : Nat := 1024

def minisnifferMaxIpv4FragmentBytes : Nat := 16777216

def minisnifferDefaultPayloadDecodeBytes : Nat := 2048

def minisnifferMaxPayloadDecodeBytes : Nat := 65535

inductive DomainMatchMode where
  | normalized
  | exact
  | idna
deriving DecidableEq, Repr

/-- The defaults are those of `config_init_defaults`. A pattern holds the bytes its length counts,
the host filter the address that `inet_ntop` printed, and `maxPackets` is read as unsigned. -/
structure AppConfig where
  decodeApp : Bool := false
  reassemble : Bool := false
  payloadDecodeBytes : Nat := minisnifferDefaultPayloadDecodeBytes
  maxFlows : Nat := 512
  streamBufferBytes : Nat := 32768
  flowTimeoutSeconds : Nat := 60
  ipv4FragmentMaxDatagrams : Nat := 64
  ipv4FragmentMaxBytes : Nat := 1048576
  ipv4FragmentTimeoutSeconds : Nat := 30
  maxPackets : UInt32 := 0
  jsonOutput : Bool := false
  noBpf : Bool := false
  filterProtocolEnabled : Bool := false
  filterProtocol : Protocol := .other
  filterPortEnabled : Bool := false
  filterPort : UInt16 := 0
  filterHostEnabled : Bool := false
  filterHost : IpText := .empty
  filterPayloadTextEnabled : Bool := false
  filterPayloadText : List UInt8 := []
  filterPayloadHexEnabled : Bool := false
  filterPayloadHex : List UInt8 := []
  filterAppEnabled : Bool := false
  filterAppProtocol : AppProtocol := .unknown
  filterHttpHostEnabled : Bool := false
  filterHttpHost : List UInt8 := []
  filterHttpMethodEnabled : Bool := false
  filterHttpMethod : List UInt8 := []
  filterDnsQueryEnabled : Bool := false
  filterDnsQuery : List UInt8 := []
  filterDnsTypeEnabled : Bool := false
  filterDnsType : UInt16 := 0
  filterTlsSniEnabled : Bool := false
  filterTlsSni : List UInt8 := []
  filterTlsAlpnEnabled : Bool := false
  filterTlsAlpn : List UInt8 := []
  domainMatchMode : DomainMatchMode := .normalized
  filterDhcpTypeEnabled : Bool := false
  filterDhcpType : UInt8 := 0
  filterQuicVersionEnabled : Bool := false
  filterQuicVersion : UInt32 := 0
deriving DecidableEq, Repr

end MiniSniffer
