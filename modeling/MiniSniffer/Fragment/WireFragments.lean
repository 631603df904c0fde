import MiniSniffer.Fragment.Inversion
import MiniSniffer.Parser.Segments

/-!
Contract: a datagram as fragments on the wire.

Owns the frames that carry the fragments of a datagram, each under a header of its own, that the
parser makes of them what reassembly undoes, and that the packet it rebuilds is the datagram as it
would have been sent whole, without a checksum.

Does not own when the frames arrive: see `Capture.FragmentedDatagrams`.
-/

namespace MiniSniffer

open Foundation

/-! ### Frames -/

/-- A fragment in its frame. The flags of its header are those of its fragment field. -/
structure FragmentFrame where
  framing : IpFraming .v4
  header : Ipv4Header
  fragmentField : UInt16
  piece : List UInt8
  padding : List UInt8

namespace FragmentFrame

/-- The bytes in front of the piece, behind the link header. -/
def front (frame : FragmentFrame) (number : UInt8) : List UInt8 :=
  frame.header.encodeWith number frame.piece.length frame.fragmentField

def bytes (frame : FragmentFrame) (number : UInt8) : List UInt8 :=
  frame.framing.bytes ++ (frame.front number ++ (frame.piece ++ frame.padding))

def offset (frame : FragmentFrame) : Nat :=
  (frame.fragmentField &&& ipv4FragmentOffsetMask).toNat * 8

def more (frame : FragmentFrame) : Bool := frame.fragmentField &&& ipv4MoreFragmentsFlag ≠ 0

/-- What the parser reports of a fragment. -/
def info (frame : FragmentFrame) (number : UInt8) : PacketInfo :=
  ({ frame.header.metadata number frame.fragmentField (frame.piece.length + frame.padding.length)
      frame.piece with isIpv4Fragment := true }.relocate (frame.front number).length).relocate
    frame.framing.bytes.length

end FragmentFrame

/-- Frames that cut the payload from a position on: consecutive non-empty pieces, all but the last
of a length divisible by eight and announcing more. -/
def CutInto (payload : List UInt8) : Nat → List FragmentFrame → Prop
  | start, [] => start = payload.length
  | start, frame :: rest =>
      frame.offset = start ∧ 0 < frame.piece.length ∧
        frame.piece = slice payload start (start + frame.piece.length) ∧
        frame.more = (rest ≠ [] : Bool) ∧ (rest ≠ [] → frame.piece.length % 8 = 0) ∧
        CutInto payload (start + frame.piece.length) rest

def Ipv4Header.withChecksum (header : Ipv4Header) (checksum : UInt16) : Ipv4Header :=
  { header with checksum := checksum }

/-- The first fragment has the datagram's header, flags included, but for the checksum; later ones
may have shorter headers. -/
structure FragmentedInto (header : Ipv4Header) (payload : List UInt8)
    (frames : List FragmentFrame) : Prop where
  fits : 20 + header.optionWords * 4 + payload.length < 65536
  counted : 2 ≤ frames.length ∧ frames.length ≤ minisnifferIpv4FragmentMaxRanges
  first : ∀ frame ∈ frames.head?, frame.header.withChecksum header.checksum = header ∧
    frame.fragmentField &&& 0xc000 = header.fragmentWord
  same : ∀ frame ∈ frames, frame.header.source = header.source ∧
    frame.header.destination = header.destination ∧
    frame.header.identification = header.identification ∧
    frame.header.optionWords ≤ header.optionWords
  cuts : CutInto payload 0 frames

/-- The datagram's key in the fragment table. -/
def Ipv4Header.fragmentKey (header : Ipv4Header) (number : UInt8) : IPv4FragmentKey where
  srcIp := .ipv4 header.source
  dstIp := .ipv4 header.destination
  protocol := number
  identification := header.identification

section Frames

variable {payloadDecodeLimit : Nat} {number : UInt8} {frame : FragmentFrame}
variable {frames : List FragmentFrame} {header : Ipv4Header} {payload : List UInt8} {start : Nat}

/-- A field with either part set is a fragment's. -/
theorem FragmentFrame.field_ne_zero (fragmented : frame.offset ≠ 0 ∨ frame.more = true) :
    frame.fragmentField &&& (ipv4FragmentOffsetMask ||| ipv4MoreFragmentsFlag) ≠ 0 := by
  intro none
  have parts : ∀ part : UInt16, (ipv4FragmentOffsetMask ||| ipv4MoreFragmentsFlag) &&& part = part →
      frame.fragmentField &&& part = 0 := by
    intro part inside
    rw [← inside, ← UInt16.and_assoc, none]
    exact UInt16.zero_and
  have noOffset := parts ipv4FragmentOffsetMask (by decide)
  have noMore := parts ipv4MoreFragmentsFlag (by decide)
  rcases fragmented with offset | more
  · rw [FragmentFrame.offset, noOffset] at offset
    exact offset rfl
  · rw [FragmentFrame.more, noMore] at more
    contradiction

/-- A fragment's frame is read field by field. -/
theorem FragmentFrame.parsed
    (fits : 20 + frame.header.optionWords * 4 + frame.piece.length < 65536)
    (fragmented : frame.offset ≠ 0 ∨ frame.more = true) :
    parserParsePacketWithDatalink payloadDecodeLimit (frame.bytes number) frame.framing.datalink =
      frame.info number := by
  have announced := frame.header.encodeWith_version number frame.piece.length frame.fragmentField
    (frame.piece ++ frame.padding)
  have read := @parseIpv4Packet_encodeWith payloadDecodeLimit frame.header number
    frame.fragmentField _ frame.piece frame.padding fits rfl
  simp only [if_pos (FragmentFrame.field_ne_zero fragmented)] at read
  rw [FragmentFrame.bytes, FragmentFrame.front, frame.framing.parse_eq payloadDecodeLimit announced]
  exact congrArg _ read

theorem CutInto.after (cuts : CutInto payload start frames) :
    start ≤ payload.length ∧ ∀ frame ∈ frames, start ≤ frame.offset ∧
      frame.offset + frame.piece.length ≤ payload.length := by
  induction frames generalizing start with
  | nil => exact ⟨Nat.le_of_eq cuts, by simp⟩
  | cons first rest inductionHypothesis =>
      obtain ⟨offset, -, -, -, -, restCuts⟩ := cuts
      obtain ⟨inside, later⟩ := inductionHypothesis restCuts
      refine ⟨by omega, ?_⟩
      rw [List.forall_mem_cons]
      refine ⟨by omega, ?_⟩
      intro frame member
      have after := later frame member
      omega

/-- Every frame of a datagram that was cut in two or more is a fragment's. -/
theorem CutInto.fragmented (cuts : CutInto payload 0 frames) (several : 2 ≤ frames.length) :
    ∀ frame ∈ frames, frame.offset ≠ 0 ∨ frame.more = true := by
  cases frames with
  | nil => simp
  | cons first rest =>
      obtain ⟨-, positive, -, more, -, restCuts⟩ := cuts
      rw [List.forall_mem_cons]
      refine ⟨Or.inr ?_, ?_⟩
      · have someRest : rest ≠ [] := by
          rintro rfl
          simp at several
        rw [more]
        simpa using someRest
      · intro frame member
        have after := (restCuts.after.2 frame member).1
        left
        omega

/-- What is parsed of the frames cuts the payload as they do. -/
theorem CutInto.parsed (cuts : CutInto payload start frames) (number : UInt8) :
    CutsFrom payload start (frames.map fun frame => frame.info number) := by
  induction frames generalizing start with
  | nil => exact cuts
  | cons first rest inductionHypothesis =>
      obtain ⟨offset, positive, piece, more, divisible, restCuts⟩ := cuts
      have rest' : (rest ≠ [] : Bool) =
          (rest.map (fun frame => frame.info number) ≠ [] : Bool) := by simp
      have stop : (fragmentRange (first.info number)).stop = start + first.piece.length := by
        rw [← offset]
        rfl
      refine ⟨offset, positive, ?_, more.trans rest', ?_, ?_⟩
      · rw [stop]
        exact piece
      · intro someRest
        exact divisible (by simpa using someRest)
      · rw [stop]
        exact inductionHypothesis restCuts

/-- The frames of a datagram are parsed to a fragmentation of it. -/
theorem FragmentedInto.fragmentation (fragmented : FragmentedInto header payload frames)
    (number : UInt8) {first : FragmentFrame} (head : frames.head? = some first) :
    Fragmentation (first.front number) payload (header.fragmentKey number)
      (frames.map fun frame => frame.info number) := by
  have leads := fragmented.first first head
  have words : (first.header.withChecksum header.checksum).optionWords = header.optionWords :=
    congrArg Ipv4Header.optionWords leads.1
  rw [Ipv4Header.withChecksum] at words
  have length : (first.front number).length = 20 + header.optionWords * 4 := by
    rw [FragmentFrame.front, Ipv4Header.length_encodeWith, words]
  have small : header.optionWords.val < 11 := header.optionWords.isLt
  have fits := fragmented.fits
  refine ⟨?_, ?_, ?_, ?_, ?_, fragmented.cuts.parsed number⟩
  · rw [length, minisnifferMaxIpv4HeaderBytes]
    omega
  · rw [length, ipv4MaxTotalLength]
    omega
  · rw [List.length_map]
    exact fragmented.counted
  · rw [List.head?_map, head]
    rfl
  · intro fragment member
    obtain ⟨frame, inFrames, rfl⟩ := List.mem_map.mp member
    obtain ⟨source, destination, identification, shorter⟩ := fragmented.same frame inFrames
    have sized : (frame.info number).ipv4HeaderLength = 20 + frame.header.optionWords * 4 :=
      frame.header.length_encodeWith number frame.piece.length frame.fragmentField
    have least : frame.header.optionWords.val ≤ header.optionWords.val := shorter
    refine ⟨rfl, rfl, ?_, ?_, ?_⟩
    · rw [sized]
      omega
    · rw [sized, length]
      omega
    · have key : makeKey (frame.info number) = frame.header.fragmentKey number := rfl
      rw [key, Ipv4Header.fragmentKey, source, destination, identification]
      rfl

/-- The rebuilt header is the datagram's, without a checksum. -/
theorem rebuiltHeader_encodeWith (header : Ipv4Header) (number : UInt8) (cut whole : Nat)
    (fragmentField : UInt16) (flags : fragmentField &&& 0xc000 = header.fragmentWord) :
    rebuiltHeader (header.encodeWith number cut fragmentField)
        (20 + header.optionWords * 4 + whole) =
      (header.withChecksum 0).encode number whole := by
  have field : readU16 (header.encodeWith number cut fragmentField) 6 = fragmentField := by
    have reads := header.reads_encodeWith number cut fragmentField []
    rw [List.append_nil] at reads
    exact reads.fragmentField_eq
  have kept : (fragmentField &&& 0xe000) &&& ~~~0x2000 = header.fragmentWord := by
    rw [UInt16.and_assoc, ← flags]
    rfl
  rw [rebuiltHeader, field, kept]
  rfl

/-- What reassembly rebuilds from the frames is the datagram without a checksum. -/
theorem FragmentedInto.rebuilt (fragmented : FragmentedInto header payload frames)
    (number : UInt8) {first : FragmentFrame} (head : frames.head? = some first) :
    rebuiltHeader (first.front number) ((first.front number).length + payload.length) ++ payload =
      (header.withChecksum 0).encode number payload.length ++ payload := by
  obtain ⟨same, flags⟩ := fragmented.first first head
  have word : (first.header.withChecksum header.checksum).fragmentWord = header.fragmentWord :=
    congrArg Ipv4Header.fragmentWord same
  have unchecked : (first.header.withChecksum header.checksum).withChecksum 0 =
      header.withChecksum 0 := congrArg (Ipv4Header.withChecksum · 0) same
  rw [← word] at flags
  rw [FragmentFrame.front, Ipv4Header.length_encodeWith,
    rebuiltHeader_encodeWith first.header number first.piece.length payload.length
      first.fragmentField flags, ← unchecked]
  rfl

end Frames

end MiniSniffer
