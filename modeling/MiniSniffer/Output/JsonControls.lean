import MiniSniffer.Output.JsonLine
import MiniSniffer.Output.PacketLines

/-!
Contract: control characters and JSON lines.

Owns that a JSON line holds no control character but its newline, whatever texts it is printed from,
so that lines and packets match one to one.

Does not own whether the line is UTF-8: see `Output.JsonObjects`.
-/

namespace MiniSniffer

open Foundation

section Controls

variable (addressText : IpText → List UInt8)

theorem controlFree_jsonString (text : List UInt8) : ControlFree (printJsonString text) := by
  have escaped : ∀ byte : UInt8, ControlFree (jsonEscape byte) := forall_byte (by decide +kernel)
  simp only [printJsonString, controlFree_append]
  exact ⟨⟨Printable.controlFree (by decide), ControlFree.flatMap fun byte _ => escaped byte⟩,
    Printable.controlFree (by decide)⟩

theorem controlFree_textField {name : List UInt8} (named : Printable name) (value : List UInt8) :
    ControlFree (printJsonTextField name value) := by
  refine controlFree_nil.ite ?_
  simp only [controlFree_append]
  exact ⟨⟨⟨Printable.controlFree (by decide), named.controlFree⟩,
    Printable.controlFree (by decide)⟩, controlFree_jsonString value⟩

theorem controlFree_number {lead : List UInt8} (named : Printable lead) (value : Nat) :
    ControlFree (lead ++ decimalText value) :=
  (printable_append.mpr ⟨named, printable_decimalText value⟩).controlFree

theorem controlFree_nonzero {lead : List UInt8} (named : Printable lead) (value : Nat) :
    ControlFree (printJsonNonzero lead value) :=
  (controlFree_number named value).ite controlFree_nil

theorem controlFree_hex {lead : List UInt8} (named : Printable lead) (digits value : Nat) :
    ControlFree (lead ++ hexText digits value ++ ascii "\"") := by
  apply Printable.controlFree
  simp only [printable_append]
  exact ⟨⟨named, printable_hexText digits value⟩, by decide⟩

theorem controlFree_member {lead value : List UInt8} (named : Printable lead)
    (shown : ControlFree value) : ControlFree (lead ++ value) :=
  controlFree_append.mpr ⟨named.controlFree, shown⟩

theorem controlFree_dns (app : AppInfo) : ControlFree (printJsonDns app) := by
  simp only [printJsonDns, controlFree_append]
  exact ⟨⟨⟨controlFree_textField (by decide) _, controlFree_nonzero (by decide) _⟩,
    controlFree_nonzero (by decide) _⟩,
    controlFree_append.mp (controlFree_number (by decide) _)⟩

theorem controlFree_appFields (app : AppInfo) :
    ControlFree (printJsonAppFields addressText app) := by
  unfold printJsonAppFields
  cases app.protocol with
  | unknown => exact controlFree_nil
  | http =>
      simp only [printJsonHttp, controlFree_append]
      exact ⟨⟨⟨⟨controlFree_textField (by decide) _, controlFree_textField (by decide) _⟩,
        controlFree_textField (by decide) _⟩, controlFree_textField (by decide) _⟩,
        controlFree_nonzero (by decide) _⟩
  | dns => exact controlFree_dns app
  | tls =>
      simp only [printJsonTls]
      refine controlFree_append.mpr ⟨controlFree_append.mpr ⟨controlFree_append.mpr
        ⟨controlFree_textField (by decide) _, controlFree_textField (by decide) _⟩, ?_⟩, ?_⟩
      · exact (controlFree_hex (by decide) 4 _).ite controlFree_nil
      · exact (controlFree_hex (by decide) 4 _).ite controlFree_nil
  | mdns => exact controlFree_dns app
  | dhcp =>
      have field := fun (name value : List UInt8) (named : Printable name) =>
        controlFree_textField named value
      simp only [printJsonDhcp]
      refine controlFree_append.mpr ⟨controlFree_append.mpr ⟨controlFree_append.mpr
        ⟨controlFree_append.mpr ⟨controlFree_append.mpr ⟨controlFree_append.mpr
          ⟨controlFree_member (by decide) (controlFree_jsonString _),
            controlFree_hex (by decide) 8 _⟩, ?_⟩, ?_⟩, ?_⟩, ?_⟩, ?_⟩
      all_goals exact field _ _ (by decide)
  | quic =>
      simp only [printJsonQuic]
      exact controlFree_append.mpr ⟨controlFree_append.mpr
        ⟨controlFree_hex (by decide) 8 _, controlFree_textField (by decide) _⟩,
        controlFree_textField (by decide) _⟩

theorem controlFree_app (app : Option AppInfo) : ControlFree (printJsonApp addressText app) := by
  cases app with
  | none => exact Printable.controlFree (show Printable (ascii "null") by decide)
  | some decoded =>
      refine ControlFree.ite (Printable.controlFree (by decide)) ?_
      refine controlFree_append.mpr ⟨controlFree_append.mpr ⟨controlFree_member (by decide)
        (controlFree_jsonString _), controlFree_appFields addressText decoded⟩,
        Printable.controlFree (by decide)⟩

theorem controlFree_transport (packet : PacketInfo) :
    ControlFree (printJsonTransport addressText packet) := by
  have port := fun (lead : List UInt8) (named : Printable lead) (value : UInt16) =>
    @ControlFree.ite _ [] (packet.hasPorts = true) _ (controlFree_number named value.toNat)
      controlFree_nil
  simp only [printJsonTransport]
  refine controlFree_append.mpr ⟨controlFree_append.mpr ⟨controlFree_member (by decide)
    (controlFree_jsonString _), ?_⟩, Printable.controlFree (by decide)⟩
  refine controlFree_append.mpr ⟨controlFree_append.mpr ⟨controlFree_append.mpr
    ⟨controlFree_append.mpr ⟨controlFree_textField (by decide) _, port _ (by decide) _⟩,
      controlFree_textField (by decide) _⟩, port _ (by decide) _⟩, ?_⟩
  exact ControlFree.ite (controlFree_append.mpr ⟨controlFree_number (by decide) _,
    controlFree_number (by decide) _⟩) controlFree_nil

theorem controlFree_arp (packet : PacketInfo) :
    ControlFree (printJsonArp addressText packet) := by
  have text := fun (lead : List UInt8) (named : Printable lead) (value : List UInt8) =>
    controlFree_member named (controlFree_jsonString value)
  simp only [printJsonArp]
  refine controlFree_append.mpr ⟨controlFree_append.mpr ⟨text _ (by decide) _, ?_⟩,
    Printable.controlFree (by decide)⟩
  exact controlFree_append.mpr ⟨controlFree_append.mpr ⟨controlFree_append.mpr
    ⟨text _ (by decide) _, text _ (by decide) _⟩, text _ (by decide) _⟩, text _ (by decide) _⟩

theorem controlFree_payload (packet : PacketInfo) (payloadLimit : Nat) :
    ControlFree (printJsonPayload packet payloadLimit) := by
  have hex : ControlFree (printJsonPayloadHex (packet.payloadPreview.take payloadLimit)) := by
    apply Printable.controlFree
    simp only [printJsonPayloadHex, printable_append]
    exact ⟨⟨by decide, printable_payloadHex _⟩, by decide⟩
  have characters :
      ControlFree (printJsonPayloadAscii (packet.payloadPreview.take payloadLimit)) := by
    have shown : ∀ byte : UInt8, ControlFree (if byte = 34 || byte = 92 then [92, byte]
        else if 32 ≤ byte && byte ≤ 126 then [byte] else ascii ".") :=
      forall_byte (by decide +kernel)
    simp only [printJsonPayloadAscii, controlFree_append]
    exact ⟨⟨Printable.controlFree (by decide), ControlFree.flatMap fun byte _ => shown byte⟩,
      Printable.controlFree (by decide)⟩
  have truncated : ControlFree (ascii ",\"truncated\":" ++
      if packet.payloadCaptureLength > payloadLimit then ascii "true" else ascii "false") :=
    controlFree_member (by decide) (Printable.ite (by decide) (by decide)).controlFree
  simp only [printJsonPayload]
  refine controlFree_append.mpr ⟨controlFree_append.mpr ⟨controlFree_number (by decide) _, ?_⟩,
    Printable.controlFree (by decide)⟩
  exact controlFree_append.mpr ⟨controlFree_append.mpr ⟨controlFree_append.mpr
    ⟨controlFree_number (by decide) _, truncated⟩, controlFree_member (by decide) hex⟩,
    controlFree_member (by decide) characters⟩

/-- A JSON line is its newline behind bytes that are no control characters. -/
theorem outputPrintPacketJson_controlFree (packet : StampedPacket) (app : Option AppInfo)
    (appSource : Option (List UInt8)) (payloadEnabled : Bool) (payloadPreviewLimit : Nat) :
    ∃ body, outputPrintPacketJson addressText packet app appSource payloadEnabled
      payloadPreviewLimit = body ++ [10] ∧ ControlFree body := by
  have text := fun (lead : List UInt8) (named : Printable lead) (value : List UInt8) =>
    controlFree_member named (controlFree_jsonString value)
  refine ⟨_, rfl, controlFree_append.mpr ⟨controlFree_append.mpr ⟨text _ (by decide) _, ?_⟩,
    Printable.controlFree (by decide)⟩⟩
  refine controlFree_append.mpr ⟨controlFree_append.mpr ⟨controlFree_append.mpr
    ⟨controlFree_append.mpr ⟨controlFree_append.mpr ⟨controlFree_append.mpr
      ⟨controlFree_append.mpr ⟨controlFree_number (by decide) _, ?_⟩,
        controlFree_number (by decide) _⟩, ?_⟩, ?_⟩, ?_⟩, text _ (by decide) _⟩,
    text _ (by decide) _⟩
  · exact controlFree_member (by decide) (controlFree_transport addressText _)
  · exact (controlFree_member (by decide) (controlFree_arp addressText _)).ite controlFree_nil
  · exact (controlFree_member (by decide) (controlFree_payload _ _)).ite controlFree_nil
  · exact controlFree_member (by decide) (controlFree_app addressText app)

end Controls

end MiniSniffer
