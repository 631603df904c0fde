import MiniSniffer.Output.PacketText
import MiniSniffer.Parser.Parse

/-!
Contract: the lines that readable output is made of.

Owns, for each writer, the lines of its text: they show printable characters only, the packet line
starts with a bracket, the lines below it with blanks and the announcement of a flow with its name,
whatever the packet said.

Does not own which of them a capture prints.
-/

namespace MiniSniffer

open Foundation

/-! ### Kinds of lines -/

/-- A line below a packet line. -/
def DetailLine (line : List UInt8) : Prop := ascii "      " <+: line

/-- The line that announces a flow. -/
def AnnouncementLine (line : List UInt8) : Prop := ascii "flow " <+: line

/-- A text made of printable lines of one kind. -/
def PrintsLines (kind : List UInt8 → Prop) (text : List UInt8) : Prop :=
  ∃ lines, text = linesText lines ∧ ∀ line ∈ lines, Printable line ∧ kind line

section Kinds

variable {kind : List UInt8 → Prop} {line text other : List UInt8}

theorem PrintsLines.nil : PrintsLines kind [] := ⟨[], rfl, fun _ member => by contradiction⟩

theorem PrintsLines.single (printable : Printable line) (matched : kind line) :
    PrintsLines kind (line ++ ascii "\n") := by
  refine ⟨[line], ?_, ?_⟩
  · rw [linesText_cons, linesText_nil, List.append_nil]
    rfl
  · intro only member
    rw [List.mem_singleton.mp member]
    exact ⟨printable, matched⟩

theorem PrintsLines.append (first : PrintsLines kind text) (second : PrintsLines kind other) :
    PrintsLines kind (text ++ other) := by
  obtain ⟨lines, rfl, each⟩ := first
  obtain ⟨others, rfl, eachOther⟩ := second
  refine ⟨lines ++ others, (linesText_append lines others).symm, ?_⟩
  intro line member
  rcases List.mem_append.mp member with front | back
  · exact each line front
  · exact eachOther line back

theorem DetailLine.head (detail : DetailLine line) : line.head? = some 32 := by
  obtain ⟨rest, rfl⟩ := detail
  rfl

theorem AnnouncementLine.head (announcement : AnnouncementLine line) : line.head? = some 102 := by
  obtain ⟨rest, rfl⟩ := announcement
  rfl

end Kinds

/-! ### Pieces -/

section Pieces

variable {addressText : IpText → List UInt8} {statusName name value : List UInt8}

theorem printable_escapedText (text : List UInt8) : Printable (printEscapedText text) :=
  fun _ member => csvPrintable_of_mem_printEscapedText member

theorem printable_textField (named : Printable name) (value : List UInt8) :
    Printable (printTextField name value) := by
  unfold printTextField
  split
  · exact printable_nil
  · simp only [printable_append]
    exact ⟨⟨⟨by decide, named⟩, by decide⟩, printable_escapedText value⟩

theorem printable_named (named : Printable name) (value : Nat) :
    Printable (printNamed name value) :=
  named.ite (printable_decimalText value)

theorem printable_protocolToString (protocol : Protocol) :
    Printable (protocolToString protocol) := by
  cases protocol <;> decide

theorem printable_appProtocolName (protocol : AppProtocol) :
    Printable (appProtocolName protocol) := by
  cases protocol <;> decide

theorem printable_decodeStatus (status : AppDecodeStatus) :
    Printable (appDecodeStatusToString status) := by
  cases status <;> decide

theorem printable_arpOperation (operation : UInt16) : Printable (arpOperationText operation) :=
  Printable.ite (by decide) (Printable.ite (by decide) (by decide))

theorem printable_dnsTypeName (type : UInt16) : Printable (dnsTypeName type) := by
  unfold dnsTypeName
  split <;> decide

theorem printable_dhcpMessageTypeName (type : UInt8) :
    Printable (outputDhcpMessageTypeName type) := by
  unfold outputDhcpMessageTypeName
  split <;> decide

theorem printable_payloadHex (preview : List UInt8) : Printable (payloadHex preview) := by
  intro byte member
  rcases payloadHex_digitOrBlank byte member with digit | rfl
  · exact isPrint_of_lowerHexDigit byte digit
  · rfl

theorem printable_endpoint {ip : List UInt8} (printed : Printable ip) (port : UInt16) :
    Printable (printEndpointWithPort ip port) := by
  have number := printable_decimalText port.toNat
  apply Printable.ite
  · simp only [printable_append]
    exact ⟨⟨⟨by decide, printed⟩, by decide⟩, number⟩
  · simp only [printable_append]
    exact ⟨⟨printed, by decide⟩, number⟩

theorem printable_httpFields (named : Printable statusName) (app : AppInfo) :
    Printable (printHttpFields statusName app) := by
  have status : Printable (ascii " " ++ statusName ++ ascii "=" ++
      decimalText app.httpStatusCode.toNat) := by
    simp only [printable_append]
    exact ⟨⟨⟨by decide, named⟩, by decide⟩, printable_decimalText _⟩
  simp only [printHttpFields, printable_append]
  exact ⟨⟨⟨printable_textField (by decide) _, status.ite printable_nil⟩,
    printable_textField (by decide) _⟩, printable_textField (by decide) _⟩

theorem printable_dnsFields (app : AppInfo) : Printable (printDnsFields app) := by
  have type : Printable (ascii " type=" ++ printDnsType app.dnsQueryType) :=
    printable_append.mpr ⟨by decide, printable_named (printable_dnsTypeName _) _⟩
  exact printable_append.mpr ⟨printable_textField (by decide) _, type.ite printable_nil⟩

theorem printable_tlsFields (app : AppInfo) : Printable (printTlsFields app) :=
  printable_append.mpr ⟨printable_textField (by decide) _, printable_textField (by decide) _⟩

theorem printable_dhcpFields (app : AppInfo) : Printable (printDhcpFields addressText app) := by
  simp only [printDhcpFields, printable_append]
  exact ⟨⟨⟨by decide, printable_named (printable_dhcpMessageTypeName _) _⟩,
    printable_textField (by decide) _⟩, printable_textField (by decide) _⟩

theorem printable_quicFields (app : AppInfo) : Printable (printQuicFields app) := by
  simp only [printQuicFields, printable_append]
  exact ⟨⟨⟨by decide, printable_hexText 8 _⟩, printable_textField (by decide) _⟩,
    printable_textField (by decide) _⟩

theorem printable_protocolFields (named : Printable statusName) (app : AppInfo) :
    Printable (printProtocolFields addressText statusName app) := by
  refine printable_append.mpr ⟨printable_appProtocolName _, ?_⟩
  cases app.protocol with
  | unknown => exact printable_nil
  | http => exact printable_httpFields named app
  | dns => exact printable_dnsFields app
  | tls => exact printable_tlsFields app
  | dhcp => exact printable_dhcpFields app
  | mdns => exact printable_dnsFields app
  | quic => exact printable_quicFields app

theorem printable_flowAppFields (app : AppInfo) : Printable (printFlowAppFields app) := by
  unfold printFlowAppFields
  split
  · exact printable_nil
  · simp only [printable_append]
    refine ⟨⟨by decide, printable_appProtocolName _⟩, ?_⟩
    cases app.protocol with
    | unknown => exact printable_nil
    | http => exact printable_httpFields (by decide) app
    | dns => exact printable_dnsFields app
    | tls => exact printable_tlsFields app
    | dhcp => exact printable_nil
    | mdns => exact printable_nil
    | quic => exact printable_nil

end Pieces

/-! ### Lines -/

section Writers

variable {addressText : IpText → List UInt8}

/-- `inet_ntop` prints digits, letters of hexadecimal, dots and colons. -/
def PrintsAddresses (addressText : IpText → List UInt8) : Prop :=
  ∀ address, ∀ byte ∈ addressText address, addressByte byte = true

theorem printsAddresses_dottedDecimal : PrintsAddresses dottedDecimal := by
  intro address byte member
  cases address with
  | ipv4 bytes =>
      have dot : ∀ byte ∈ ascii ".", addressByte byte = true := by
        intro byte inside
        rw [List.mem_singleton.mp inside]
        rfl
      refine forall_mem_intercalate (P := fun byte => addressByte byte = true) dot ?_ byte member
      intro piece listed byte inside
      obtain ⟨shown, -, rfl⟩ := List.mem_map.mp listed
      simp [addressByte, lowerHexDigit, decimalDigit_of_mem_decimalText inside]
  | empty => contradiction
  | ipv6 bytes => contradiction

theorem PrintsAddresses.printable (printed : PrintsAddresses addressText) (address : IpText) :
    Printable (cString (addressText address)) := by
  have shown : ∀ byte, addressByte byte = true → isPrint byte = true :=
    forall_byte (by decide +kernel)
  exact Printable.cString fun byte member => shown byte (printed address byte member)

theorem packetInfoLine_head (addressText : IpText → List UInt8) (info : StampedPacket) :
    (packetInfoLine addressText info).head? = some 91 := by
  unfold packetInfoLine
  simp only
  split_ifs <;> rfl

/-- A packet line is printable where the texts of its addresses are. -/
theorem packetInfoLine_printable (printed : PrintsAddresses addressText) {info : StampedPacket}
    (sender : Printable info.arpSenderMac) (target : Printable info.arpTargetMac) :
    Printable (packetInfoLine addressText info) := by
  have srcIp := printed.printable info.srcIp
  have dstIp := printed.printable info.dstIp
  have lead : Printable (ascii "[" ++ paddedDecimal 3 info.packetNumber.toNat ++ ascii "] " ++
      padRight 6 (packetProtocolDisplay info.toPacketInfo) ++ ascii " ") := by
    have shown : Printable (packetProtocolDisplay info.toPacketInfo) :=
      Printable.ite (by decide) (printable_protocolToString _)
    simp only [printable_append]
    exact ⟨⟨⟨⟨by decide, printable_paddedDecimal 3 _⟩, by decide⟩, shown.padRight 6⟩, by decide⟩
  have icmp : Printable (ascii " type=" ++ decimalText info.icmpType.toNat ++ ascii " code=" ++
      decimalText info.icmpCode.toNat) := by
    simp only [printable_append]
    exact ⟨⟨⟨by decide, printable_decimalText _⟩, by decide⟩, printable_decimalText _⟩
  have arp : Printable (ascii " op=" ++ arpOperationText info.arpOperation ++
      ascii " sender_mac=" ++ cString info.arpSenderMac ++ ascii " target_mac=" ++
        cString info.arpTargetMac) := by
    simp only [printable_append]
    exact ⟨⟨⟨⟨⟨by decide, printable_arpOperation _⟩, by decide⟩, sender.cString⟩, by decide⟩,
      target.cString⟩
  have size := printable_decimalText info.size
  unfold packetInfoLine
  simp only
  generalize ascii "[" ++ paddedDecimal 3 info.packetNumber.toNat ++ ascii "] " ++
    padRight 6 (packetProtocolDisplay info.toPacketInfo) ++ ascii " " = leadText at lead ⊢
  apply Printable.ite
  · apply Printable.ite
    · simp only [printable_append]
      exact ⟨⟨⟨⟨⟨lead, printable_endpoint srcIp _⟩, by decide⟩, printable_endpoint dstIp _⟩,
        by decide⟩, size⟩
    · simp only [printable_append]
      exact ⟨⟨⟨⟨⟨⟨⟨lead, srcIp⟩, by decide⟩, dstIp⟩, by decide⟩, size⟩,
        icmp.ite printable_nil⟩, arp.ite printable_nil⟩
  · simp only [printable_append]
    exact ⟨⟨lead, by decide⟩, size⟩

theorem packetInfoPrintPayload_lines (info : PacketInfo) (previewLimit : Nat) :
    PrintsLines DetailLine (packetInfoPrintPayload info previewLimit) := by
  have captured := printable_decimalText info.payloadCaptureLength
  have total : Printable (ascii "/" ++ decimalText info.payloadCaptureLength) :=
    printable_append.mpr ⟨by decide, captured⟩
  have shown : ∀ preview : List UInt8,
      Printable (preview.map fun value => if isPrint value then value else 46) := by
    intro preview byte member
    obtain ⟨value, -, rfl⟩ := List.mem_map.mp member
    split
    next visible => exact visible
    next => rfl
  unfold packetInfoPrintPayload
  split
  · exact PrintsLines.nil
  · refine (PrintsLines.append (.single ?_ ?_) (.single ?_ ?_)).append (.single ?_ ?_)
    · simp only [printable_append]
      exact ⟨⟨⟨⟨by decide, captured⟩, by decide⟩, printable_decimalText _⟩,
        total.ite printable_nil⟩
    · simp only [List.append_assoc]
      exact (List.prefix_append _ _).trans (List.prefix_append _ _)
    · exact printable_append.mpr ⟨by decide, printable_payloadHex _⟩
    · exact (by decide : ascii "      " <+: ascii "      hex: ").trans (List.prefix_append _ _)
    · exact printable_append.mpr ⟨by decide, shown _⟩
    · exact (by decide : ascii "      " <+: ascii "      ascii: ").trans (List.prefix_append _ _)

theorem outputPrintPacketAppStatus_lines (addressText : IpText → List UInt8)
    (status : AppDecodeStatus) (app : Option AppInfo) :
    PrintsLines DetailLine (outputPrintPacketAppStatus addressText status app) := by
  refine PrintsLines.single ?_ ?_
  · refine printable_append.mpr ⟨printable_append.mpr ⟨by decide, printable_decodeStatus _⟩, ?_⟩
    cases app with
    | none => exact printable_nil
    | some decoded =>
        refine Printable.ite printable_nil (printable_append.mpr ⟨by decide, ?_⟩)
        exact printable_protocolFields (by decide) decoded
  · rw [DetailLine, List.append_assoc]
    exact (by decide : ascii "      " <+: ascii "      app: status=").trans
      (List.prefix_append _ _)

theorem printable_flowEndpoint (printed : PrintsAddresses addressText) (address : IPAddress)
    (port : UInt16) : Printable (printFlowEndpoint addressText address port) := by
  have number := printable_decimalText port.toNat
  apply Printable.ite
  · simp only [printable_append]
    exact ⟨⟨⟨by decide, printed.printable _⟩, by decide⟩, number⟩
  · apply Printable.ite
    · simp only [printable_append]
      exact ⟨⟨printed.printable _, by decide⟩, number⟩
    · exact printable_append.mpr ⟨by decide, number⟩

theorem outputPrintFlowAppEvent_lines (printed : PrintsAddresses addressText) (flow : FlowInfo) :
    PrintsLines AnnouncementLine (outputPrintFlowAppEvent addressText flow) := by
  unfold outputPrintFlowAppEvent
  split
  · exact PrintsLines.nil
  · refine PrintsLines.single ?_ ?_
    · have transport : Printable (transportName flow.key.transportProtocol) :=
        Printable.ite (by decide) (Printable.ite (by decide) (by decide))
      simp only [printable_append]
      exact ⟨⟨⟨⟨⟨⟨by decide, transport⟩, by decide⟩, printable_flowEndpoint printed _ _⟩,
        by decide⟩, printable_flowEndpoint printed _ _⟩, printable_flowAppFields _⟩
    · simp only [List.append_assoc]
      exact List.prefix_append _ _

end Writers

end MiniSniffer
