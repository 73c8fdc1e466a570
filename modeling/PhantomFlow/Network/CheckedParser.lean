import PhantomFlow.Library.Panics
import PhantomFlow.Network.WireFormat

namespace PhantomFlow.Network
open Library.Panics

-- The parser once more with every check that the language makes: a slice or an index
-- out of range, a copy between lengths that differ and an overflow are a panic.
abbrev Checked := ExceptT ParseError Option

def byteChecked (data : List UInt8) (i : ℕ) : Checked UInt8 := liftM (index data i)

def octetsChecked (data : List UInt8) (first n : ℕ) : Checked (List UInt8) := liftM (indices data first n)

def word16Checked (data : List UInt8) (i : ℕ) : Checked UInt16 := do
  return be16 (← byteChecked data i) (← byteChecked data (i + 1))

def word32Checked (data : List UInt8) (i : ℕ) : Checked UInt32 := do
  return be32 (← byteChecked data i) (← byteChecked data (i + 1)) (← byteChecked data (i + 2)) (← byteChecked data (i + 3))

def mulU8 (a b : UInt8) : Checked UInt8 := liftM ((within 8 (a.toNat * b.toNat)).map UInt8.ofNat)

section Headers

def parseEthernetHeaderChecked (data : List UInt8) : Checked EthernetHeader := do
  if data.length < 14 then throw .insufficientData
  else
    let dstMac ← copyFromSlice 6 (← slice data 0 6)
    let srcMac ← copyFromSlice 6 (← slice data 6 12)
    let ethertype ← word16Checked data 12
    return { srcMac, dstMac, ethertype }

def parseIpv4HeaderChecked (data : List UInt8) : Checked IpHeader := do
  if data.length < 20 then throw .insufficientData
  else
    let version := ((← byteChecked data 0) >>> 4) &&& 0x0F
    let headerLength ← mulU8 ((← byteChecked data 0) &&& 0x0F) 4
    let typeOfService ← byteChecked data 1
    let totalLength ← word16Checked data 2
    let identification ← word16Checked data 4
    let flags := ((← byteChecked data 6) >>> 5) &&& 0x07
    let fragmentOffset := be16 ((← byteChecked data 6) &&& 0x1F) (← byteChecked data 7)
    let timeToLive ← byteChecked data 8
    let protocol ← byteChecked data 9
    let headerChecksum ← word16Checked data 10
    let srcAddr ← octetsChecked data 12 4
    let dstAddr ← octetsChecked data 16 4
    return .v4 {
      version, headerLength, typeOfService, totalLength, identification, flags, fragmentOffset, timeToLive, protocol,
      headerChecksum, srcAddr, dstAddr }

def parseIpv6HeaderChecked (data : List UInt8) : Checked IpHeader := do
  if data.length < 40 then throw .insufficientData
  else
    let version := ((← byteChecked data 0) >>> 4) &&& 0x0F
    let trafficClass := (((← byteChecked data 0) &&& 0x0F) <<< 4) ||| (((← byteChecked data 1) >>> 4) &&& 0x0F)
    let flowLabel := be32 0 ((← byteChecked data 1) &&& 0x0F) (← byteChecked data 2) (← byteChecked data 3)
    let payloadLength ← word16Checked data 4
    let nextHeader ← byteChecked data 6
    let hopLimit ← byteChecked data 7
    let srcAddr ← octetsChecked data 8 16
    let dstAddr ← octetsChecked data 24 16
    return .v6 { version, trafficClass, flowLabel, payloadLength, nextHeader, hopLimit, srcAddr, dstAddr }

def parseTcpHeaderChecked (data : List UInt8) : Checked TcpHeader := do
  if data.length < 20 then throw .insufficientData
  else
    let srcPort ← word16Checked data 0
    let dstPort ← word16Checked data 2
    let sequenceNumber ← word32Checked data 4
    let acknowledgmentNumber ← word32Checked data 8
    let headerLength ← mulU8 ((← byteChecked data 12) >>> 4) 4
    let flags ← byteChecked data 13
    let windowSize ← word16Checked data 14
    let checksum ← word16Checked data 16
    let urgentPointer ← word16Checked data 18
    return {
      srcPort, dstPort, sequenceNumber, acknowledgmentNumber, headerLength, flags, windowSize, checksum, urgentPointer }

def parseUdpHeaderChecked (data : List UInt8) : Checked UdpHeader := do
  if data.length < 8 then throw .insufficientData
  else
    let srcPort ← word16Checked data 0
    let dstPort ← word16Checked data 2
    let length ← word16Checked data 4
    let checksum ← word16Checked data 6
    return { srcPort, dstPort, length, checksum }

def parseIcmpHeaderChecked (data : List UInt8) : Checked IcmpHeader := do
  if data.length < 8 then throw .insufficientData
  else
    let icmpType ← byteChecked data 0
    let code ← byteChecked data 1
    let checksum ← word16Checked data 2
    let restOfHeader ← word32Checked data 4
    return { icmpType, code, checksum, restOfHeader }

def parseTransportHeaderChecked (protocol : UInt8) (data : List UInt8) : Checked (Option TransportHeader) := do
  if protocol = 6 then return some (.tcp (← parseTcpHeaderChecked data))
  else if protocol = 17 then return some (.udp (← parseUdpHeaderChecked data))
  else if protocol = 1 then return some (.icmp (← parseIcmpHeaderChecked data))
  else return none

end Headers

section Packet
variable (rawData : List UInt8) (offset : ℕ)

def parseIpHeaderChecked (ethertype : UInt16) : Checked (Option IpHeader) := do
  if ethertype = 0x0800 then return some (← parseIpv4HeaderChecked (← sliceFrom rawData offset))
  else if ethertype = 0x86DD then return some (← parseIpv6HeaderChecked (← sliceFrom rawData offset))
  else return none

def transportChecked (ipHeader : Option IpHeader) : Checked (Option TransportHeader) := do
  match ipHeader with
  | some ip => parseTransportHeaderChecked ip.protocol (← sliceFrom rawData offset)
  | none => return none

def payloadChecked : Checked (List UInt8) :=
  if offset < rawData.length then liftM (sliceFrom rawData offset) else pure []

end Packet

def parsePacketChecked (id timestamp : ℕ) (rawData : List UInt8) : Checked Packet := do
  let ethernetHeader ← parseEthernetHeaderChecked (← slice rawData 0 14)
  let offset := 14
  let ipHeader ← parseIpHeaderChecked rawData offset ethernetHeader.ethertype
  let offset ← within 64 (offset + (ipHeader.map IpHeader.skipped).getD 0)
  let transportHeader ← transportChecked rawData offset ipHeader
  let offset ← within 64 (offset + (transportHeader.map TransportHeader.skipped).getD 0)
  let payload ← payloadChecked rawData offset
  return { id, timestamp, ethernetHeader, ipHeader, transportHeader, payload }

def PacketParser.parseChecked (parser : PacketParser) (now : ℕ) (rawData : List UInt8) :
    Option (Except ParseError Packet × PacketParser) := do
  let count ← within 64 (parser.packetCount + 1)
  if rawData.length < 14 then
    let errors ← within 64 (parser.parseErrors + 1)
    return (.error .insufficientData,{ parser with packetCount := count, parseErrors := errors })
  else
    let result ← (parsePacketChecked count now rawData).run
    return (result,{ parser with packetCount := count })

section Calm
variable {data : List UInt8}

theorem byteChecked_eq (inside : i < data.length) : byteChecked data i = pure (byteAt data i) := by
  rw [byteChecked,index_eq 0 inside]
  rfl

theorem octetsChecked_eq (inside : first + n ≤ data.length) : octetsChecked data first n = pure (octets data first n) := by
  rw [octetsChecked,indices_eq 0 inside]
  rfl

theorem word16Checked_eq (inside : i + 1 < data.length) : word16Checked data i = pure (word16 data i) := by
  rw [word16Checked,byteChecked_eq (Nat.lt_of_succ_lt inside),byteChecked_eq inside]
  rfl

theorem word32Checked_eq (inside : i + 3 < data.length) : word32Checked data i = pure (word32 data i) := by
  rw [word32Checked,byteChecked_eq (by omega),byteChecked_eq (by omega),byteChecked_eq (by omega),byteChecked_eq inside]
  rfl

theorem mulU8_eq (small : a.toNat * b.toNat < 256) : mulU8 a b = pure (a * b) := by
  have product : UInt8.ofNat (a.toNat * b.toNat) = a * b := by
    apply UInt8.toNat_inj.mp
    rw [UInt8.toNat_ofNat',UInt8.toNat_mul]
  rw [mulU8,within_eq small,← product]
  rfl

theorem nibble_four (b : UInt8) : mulU8 (b &&& 0x0F) 4 = pure ((b &&& 0x0F) * 4) := by
  apply mulU8_eq
  have low : (b &&& 0x0F).toNat ≤ 15 := by
    rw [UInt8.toNat_and]
    exact Nat.and_le_right
  have four : (4 : UInt8).toNat = 4 := rfl
  rw [four]
  omega

theorem shifted_four (b : UInt8) : mulU8 (b >>> 4) 4 = pure ((b >>> 4) * 4) := by
  apply mulU8_eq
  have small := b.toNat_lt
  have high : (b >>> 4).toNat = b.toNat / 16 := by
    rw [UInt8.toNat_shiftRight]
    exact Nat.shiftRight_eq_div_pow _ _
  have four : (4 : UInt8).toNat = 4 := rfl
  rw [four]
  omega

theorem length_octets (data : List UInt8) (i n : ℕ) : (octets data i n).length = n := by
  rw [octets,List.length_map,List.length_range]

theorem octets_take (inside : first + n ≤ data.length) : (data.drop first).take n = octets data first n := by
  apply List.ext_getElem
  · simp [octets]
    omega
  · intro i below _
    have small : i < n := by simp at below; omega
    simp [octets,byteAt,List.getD_eq_getElem?_getD,List.getElem?_eq_getElem (show first + i < data.length by omega)]

theorem parseEthernetHeader_calm (data : List UInt8) :
    parseEthernetHeaderChecked data = calm (parseEthernetHeader data) := by
  unfold parseEthernetHeaderChecked parseEthernetHeader
  by_cases short : data.length < 14
  · rw [if_pos short,if_pos short]
    rfl
  · have destination : copyFromSlice 6 ((data.drop 0).take 6) = some (octets data 0 6) := by
      rw [octets_take (by omega),copyFromSlice_eq (length_octets data 0 6)]
    have source : copyFromSlice 6 ((data.drop 6).take 6) = some (octets data 6 6) := by
      rw [octets_take (by omega),copyFromSlice_eq (length_octets data 6 6)]
    rw [if_neg short,if_neg short,slice_eq (by omega) (by omega),slice_eq (by omega) (by omega),
      word16Checked_eq (by omega)]
    simp only [lift_some,pure_bind,destination,source]
    rfl

theorem parseIpv4Header_calm (data : List UInt8) : parseIpv4HeaderChecked data = calm (parseIpv4Header data) := by
  unfold parseIpv4HeaderChecked parseIpv4Header
  by_cases short : data.length < 20
  · rw [if_pos short,if_pos short]
    rfl
  · rw [if_neg short,if_neg short]
    simp (disch := omega) only [byteChecked_eq,octetsChecked_eq,word16Checked_eq,nibble_four,pure_bind]
    rfl

theorem parseIpv6Header_calm (data : List UInt8) : parseIpv6HeaderChecked data = calm (parseIpv6Header data) := by
  unfold parseIpv6HeaderChecked parseIpv6Header
  by_cases short : data.length < 40
  · rw [if_pos short,if_pos short]
    rfl
  · rw [if_neg short,if_neg short]
    simp (disch := omega) only [byteChecked_eq,octetsChecked_eq,word16Checked_eq,pure_bind]
    rfl

theorem parseTcpHeader_calm (data : List UInt8) : parseTcpHeaderChecked data = calm (parseTcpHeader data) := by
  unfold parseTcpHeaderChecked parseTcpHeader
  by_cases short : data.length < 20
  · rw [if_pos short,if_pos short]
    rfl
  · rw [if_neg short,if_neg short]
    simp (disch := omega) only [byteChecked_eq,word16Checked_eq,word32Checked_eq,shifted_four,pure_bind]
    rfl

theorem parseUdpHeader_calm (data : List UInt8) : parseUdpHeaderChecked data = calm (parseUdpHeader data) := by
  unfold parseUdpHeaderChecked parseUdpHeader
  by_cases short : data.length < 8
  · rw [if_pos short,if_pos short]
    rfl
  · rw [if_neg short,if_neg short]
    simp (disch := omega) only [word16Checked_eq,pure_bind]
    rfl

theorem parseIcmpHeader_calm (data : List UInt8) : parseIcmpHeaderChecked data = calm (parseIcmpHeader data) := by
  unfold parseIcmpHeaderChecked parseIcmpHeader
  by_cases short : data.length < 8
  · rw [if_pos short,if_pos short]
    rfl
  · rw [if_neg short,if_neg short]
    simp (disch := omega) only [byteChecked_eq,word16Checked_eq,word32Checked_eq,pure_bind]
    rfl

theorem parseTransportHeader_calm (protocol : UInt8) (data : List UInt8) :
    parseTransportHeaderChecked protocol data = calm (parseTransportHeader protocol data) := by
  rw [parseTransportHeaderChecked,parseTcpHeader_calm,parseUdpHeader_calm,parseIcmpHeader_calm,parseTransportHeader]
  split
  · exact calm_map _ _
  · split
    · exact calm_map _ _
    · split
      · exact calm_map _ _
      · rfl

-- What a parsed IP header moves on by has been checked to be there.
theorem parseIpHeader_room (parsed : parseIpHeader ethertype data = .ok (some ip)) : ip.skipped ≤ data.length := by
  unfold parseIpHeader parseIpv4Header parseIpv6Header at parsed
  split at parsed
  · split at parsed
    · cases parsed
    · rename_i enough
      cases parsed
      exact Nat.le_of_not_lt enough
  · split at parsed
    · split at parsed
      · cases parsed
      · rename_i enough
        cases parsed
        exact Nat.le_of_not_lt enough
    · cases parsed

theorem IpHeader.skipped_le (ip : IpHeader) : ip.skipped ≤ 40 := by
  cases ip with
  | v4 header => change 20 ≤ 40; decide
  | v6 header => exact Nat.le_refl 40

theorem TransportHeader.skipped_le (transport : Option TransportHeader) :
    (transport.map TransportHeader.skipped).getD 0 ≤ 20 := by
  cases transport with
  | none => exact Nat.zero_le _
  | some header =>
      cases header with
      | tcp header => exact Nat.le_refl 20
      | udp header => change 8 ≤ 20; decide
      | icmp header => change 8 ≤ 20; decide

theorem parseIpHeader_calm (long : 14 ≤ raw.length) (ethertype : UInt16) :
    parseIpHeaderChecked raw 14 ethertype = calm (parseIpHeader ethertype (raw.drop 14)) := by
  rw [parseIpHeaderChecked,sliceFrom_eq long,parseIpHeader]
  simp only [lift_some,pure_bind,parseIpv4Header_calm,parseIpv6Header_calm]
  split
  · exact calm_map _ _
  · split
    · exact calm_map _ _
    · rfl

theorem payload_calm (raw : List UInt8) (offset : ℕ) :
    payloadChecked raw offset = pure (if offset < raw.length then raw.drop offset else []) := by
  unfold payloadChecked
  split
  · rename_i below
    rw [sliceFrom_eq (Nat.le_of_lt below),lift_some]
  · rfl

theorem parsePacket_calm (id now : ℕ) (long : 14 ≤ raw.length) :
    parsePacketChecked id now raw = calm (parsePacket id now raw) := by
  obtain ⟨header,ethernet,_⟩ := parseEthernetHeader_ethertype long
  rw [parsePacketChecked,slice_eq (Nat.zero_le 14) long,List.drop_zero,parsePacket,ethernet]
  simp only [lift_some,pure_bind,parseEthernetHeader_calm,ethernet,calm_ok_bind,ok_bind,parseIpHeader_calm long]
  cases network : parseIpHeader header.ethertype (raw.drop 14) with
  | error reason => rfl
  | ok ipHeader =>
      cases ipHeader with
      | none =>
          have start : within 64 14 = some 14 := within_eq (by decide)
          simp only [calm_ok_bind,ok_bind,Option.map_none,Option.getD_none,Nat.add_zero,start,lift_some,pure_bind,
            transportChecked,payload_calm]
          rfl
      | some ip =>
          have room := parseIpHeader_room network
          have near := ip.skipped_le
          rw [List.length_drop] at room
          have first : within 64 (14 + ip.skipped) = some (14 + ip.skipped) := within_eq (by omega)
          have inside : 14 + ip.skipped ≤ raw.length := by omega
          simp only [calm_ok_bind,ok_bind,Option.map_some,Option.getD_some,first,lift_some,pure_bind,transportChecked,
            sliceFrom_eq inside,parseTransportHeader_calm]
          cases parsed : parseTransportHeader ip.protocol (raw.drop (14 + ip.skipped)) with
          | error reason => rfl
          | ok transport =>
              have further := TransportHeader.skipped_le transport
              have second : within 64 (14 + ip.skipped + (transport.map TransportHeader.skipped).getD 0) =
                  some (14 + ip.skipped + (transport.map TransportHeader.skipped).getD 0) := within_eq (by omega)
              simp only [calm_ok_bind,ok_bind,second,lift_some,pure_bind,payload_calm]
              rfl

end Calm

section Outcomes

def LongEnough (raw : List UInt8) : Prop :=
  14 ≤ raw.length ∧ (ethertypeOf raw = 0x0800 → 14 + 20 + skippedBy (byteAt raw 23) ≤ raw.length) ∧
    (ethertypeOf raw = 0x86DD → 14 + 40 + skippedBy (byteAt raw 20) ≤ raw.length)

instance (raw : List UInt8) : Decidable (LongEnough raw) := inferInstanceAs (Decidable (_ ∧ _ ∧ _))

def OnlyShort (result : Except ParseError α) : Prop := ∀ reason, result = .error reason → reason = .insufficientData

theorem OnlyShort.checked (short : Prop) [Decidable short] (a : α) :
    OnlyShort (if short then .error .insufficientData else .ok a) := by
  intro reason failed
  split at failed
  · exact (Except.error.inj failed).symm
  · cases failed

theorem OnlyShort.ok (a : α) : OnlyShort (.ok a) := by
  intro reason failed
  cases failed

theorem OnlyShort.map {result : Except ParseError α} (f : α → β) (only : OnlyShort result) :
    OnlyShort (result.map f) := by
  cases result with
  | error reason =>
      intro reason' failed
      cases failed
      exact only reason rfl
  | ok a => exact .ok (f a)

theorem OnlyShort.bind {result : Except ParseError α} {f : α → Except ParseError β} (only : OnlyShort result)
    (later : ∀ a, OnlyShort (f a)) : OnlyShort (result >>= f) := by
  cases result with
  | error reason =>
      intro reason' failed
      cases failed
      exact only reason rfl
  | ok a => exact later a

theorem parseTransportHeader_short (protocol : UInt8) (data : List UInt8) :
    OnlyShort (parseTransportHeader protocol data) := by
  unfold parseTransportHeader
  split
  · exact (OnlyShort.checked _ _).map _
  · split
    · exact (OnlyShort.checked _ _).map _
    · split
      · exact (OnlyShort.checked _ _).map _
      · exact .ok none

theorem parseIpHeader_short (ethertype : UInt16) (data : List UInt8) : OnlyShort (parseIpHeader ethertype data) := by
  unfold parseIpHeader
  split
  · exact (OnlyShort.checked _ _).map _
  · split
    · exact (OnlyShort.checked _ _).map _
    · exact .ok none

theorem parsePacket_short (id now : ℕ) (raw : List UInt8) : OnlyShort (parsePacket id now raw) := by
  unfold parsePacket
  apply (OnlyShort.checked _ _).bind
  intro header
  apply (parseIpHeader_short _ _).bind
  intro ipHeader
  cases ipHeader with
  | none => exact .ok _
  | some ip =>
      apply (parseTransportHeader_short _ _).bind
      intro transport
      exact .ok _

theorem parse_short (parser : PacketParser) (now : ℕ) (raw : List UInt8) : OnlyShort (parser.parse now raw).1 := by
  rw [PacketParser.parse]
  split
  · intro reason failed
    exact (Except.error.inj failed).symm
  · exact parsePacket_short _ _ raw

theorem parse_plain (parser : PacketParser) (now : ℕ) (long : 14 ≤ raw.length) (v4 : ethertypeOf raw ≠ 0x0800)
    (v6 : ethertypeOf raw ≠ 0x86DD) : ∃ packet, (parser.parse now raw).1 = .ok packet := by
  obtain ⟨header,ethernet,ethertype⟩ := parseEthernetHeader_ethertype long
  have network : parseIpHeader header.ethertype (raw.drop 14) = .ok none := by
    rw [ethertype,parseIpHeader,if_neg v4,if_neg v6]
  rw [PacketParser.parse,if_neg (Nat.not_lt_of_le long)]
  refine ⟨⟨parser.packetCount + 1,now,header,none,none,if 14 < raw.length then raw.drop 14 else [],[]⟩,?_⟩
  simp only [parsePacket,ethernet,network,ok_bind]
  rfl

theorem parse_ok_iff (parser : PacketParser) (now : ℕ) (raw : List UInt8) :
    (∃ packet, (parser.parse now raw).1 = .ok packet) ↔ LongEnough raw := by
  have different : (0x0800 : UInt16) ≠ 0x86DD := by decide
  unfold LongEnough
  by_cases long : 14 ≤ raw.length
  · by_cases v4 : ethertypeOf raw = 0x0800
    · have v6 : ethertypeOf raw ≠ 0x86DD := by rw [v4]; exact different
      simp only [long,v4,true_and,true_implies,different,false_implies,and_true]
      by_cases room : 34 ≤ raw.length
      · obtain ⟨ip,network,skipped,_,_,protocol⟩ := parseIpHeader_v4 v4 room
        rw [parse_succeeds parser now network (by rw [skipped]; exact room),skipped,protocol]
      · refine iff_of_false ?_ (by omega)
        intro succeeds
        obtain ⟨packet,done⟩ := succeeds
        rcases parse_needs_ip parser now done (.inl v4) with ⟨_,enough⟩ | ⟨other,_⟩
        · exact room enough
        · exact v6 other
    · by_cases v6 : ethertypeOf raw = 0x86DD
      · simp only [long,v6,true_and,true_implies,different.symm,false_implies]
        by_cases room : 54 ≤ raw.length
        · obtain ⟨ip,network,skipped,_,_,protocol⟩ := parseIpHeader_v6 v6 room
          rw [parse_succeeds parser now network (by rw [skipped]; exact room),skipped,protocol]
        · refine iff_of_false ?_ (by omega)
          intro succeeds
          obtain ⟨packet,done⟩ := succeeds
          rcases parse_needs_ip parser now done (.inr v6) with ⟨other,_⟩ | ⟨_,enough⟩
          · exact v4 other
          · exact room enough
      · exact iff_of_true (parse_plain parser now long v4 v6)
          ⟨long,fun kind => absurd kind v4,fun kind => absurd kind v6⟩
  · refine iff_of_false ?_ (fun enough => long enough.1)
    intro succeeds
    obtain ⟨packet,done⟩ := succeeds
    rw [PacketParser.parse,if_pos (Nat.lt_of_not_le long)] at done
    cases done

end Outcomes

section Runs

def frames (parser : PacketParser) (calls : List (ℕ × List UInt8)) : PacketParser :=
  calls.foldl (fun parser call => (parser.parse call.1 call.2).2) parser

theorem frames_counters (calls : List (ℕ × List UInt8)) (parser : PacketParser)
    (fewer : parser.parseErrors ≤ parser.packetCount) :
    (frames parser calls).packetCount = parser.packetCount + calls.length ∧
      (frames parser calls).parseErrors ≤ (frames parser calls).packetCount := by
  induction calls generalizing parser with
  | nil => exact ⟨rfl,fewer⟩
  | cons call rest ih =>
      have counted : (parser.parse call.1 call.2).2.packetCount = parser.packetCount + 1 := by
        unfold PacketParser.parse
        split <;> rfl
      have errors : (parser.parse call.1 call.2).2.parseErrors ≤ parser.parseErrors + 1 := by
        unfold PacketParser.parse
        split
        · exact Nat.le_refl _
        · exact Nat.le_succ _
      have later := ih (parser.parse call.1 call.2).2 (by omega)
      change (frames (parser.parse call.1 call.2).2 rest).packetCount = _ ∧
        (frames (parser.parse call.1 call.2).2 rest).parseErrors ≤ (frames (parser.parse call.1 call.2).2 rest).packetCount
      refine ⟨?_,later.2⟩
      rw [later.1,counted,List.length_cons]
      omega

theorem parseChecked_eq (parser : PacketParser) (now : ℕ) (raw : List UInt8) (counts : parser.packetCount + 1 < 2 ^ 64)
    (errors : parser.parseErrors + 1 < 2 ^ 64) : parser.parseChecked now raw = some (parser.parse now raw) := by
  rw [PacketParser.parseChecked,within_eq counts,PacketParser.parse]
  by_cases short : raw.length < 14
  · simp only [if_pos short,within_eq errors]
    rfl
  · have calmly := parsePacket_calm (parser.packetCount + 1) now (Nat.le_of_not_lt short)
    simp only [if_neg short]
    change ((parsePacketChecked (parser.packetCount + 1) now raw).run >>= _) = _
    rw [calmly]
    rfl

end Runs

-- Every part of `parse` but the counters is free of panics on any bytes. A counter of
-- 64 bits has room for the calls that came before.
theorem parse_total (calls : List (ℕ × List UInt8)) (now : ℕ) (raw : List UInt8) :
    (calls.length + 1 < 2 ^ 64 → (frames {} calls).parseChecked now raw = some ((frames {} calls).parse now raw)) ∧
      (14 ≤ raw.length → ∀ id, ∃ result, (parsePacketChecked id now raw).run = some result) ∧
      ((∃ packet, ((frames {} calls).parse now raw).1 = .ok packet) ↔ LongEnough raw) ∧
      (¬ LongEnough raw → ((frames {} calls).parse now raw).1 = .error .insufficientData) := by
  obtain ⟨counted,fewer⟩ := frames_counters calls {} (Nat.le_refl 0)
  change (frames {} calls).packetCount = 0 + calls.length at counted
  refine ⟨?_,?_,parse_ok_iff _ now raw,?_⟩
  · intro room
    exact parseChecked_eq _ now raw (by omega) (by omega)
  · intro long id
    exact ⟨parsePacket id now raw,by rw [parsePacket_calm id now long]; rfl⟩
  · intro short
    cases done : ((frames {} calls).parse now raw).1 with
    | error reason => rw [parse_short _ now raw reason done]
    | ok packet => exact absurd ((parse_ok_iff _ now raw).mp ⟨packet,done⟩) short

end PhantomFlow.Network
