import PhantomFlow.Network.CheckedParser

namespace PhantomFlow.Network
open Library

section Bits

theorem high_nibble (b : UInt8) : (b >>> 4).toNat = b.toNat / 16 := by
  rw [UInt8.toNat_shiftRight]
  exact Nat.shiftRight_eq_div_pow _ _

theorem low_nibble (b : UInt8) : (b &&& 0x0F).toNat = b.toNat % 16 := by
  rw [UInt8.toNat_and]
  exact Nat.and_two_pow_sub_one_eq_mod _ 4

theorem four_times (b : UInt8) (small : b.toNat < 64) : (b * 4).toNat = b.toNat * 4 := by
  rw [UInt8.toNat_mul]
  change b.toNat * 4 % 256 = _
  omega

theorem masked_nibble (b : UInt8) : ((b >>> 4) &&& 0x0F).toNat = b.toNat / 16 := by
  have small := b.toNat_lt
  rw [low_nibble,high_nibble]
  omega

theorem nibbles_eq {b b' : UInt8} (high : b.toNat / 16 = b'.toNat / 16) (low : b.toNat % 16 = b'.toNat % 16) : b = b' := by
  apply UInt8.toNat_inj.mp
  omega

theorem flags_eq {b b' : UInt8} (flags : (b >>> 5) &&& (0x07 : UInt8) = (b' >>> 5) &&& (0x07 : UInt8))
    (offset : b &&& 0x1F = b' &&& 0x1F) :
    b = b' := by
  have shifted (c : UInt8) : ((c >>> 5) &&& 0x07).toNat = c.toNat / 32 := by
    have small := c.toNat_lt
    have seven : (c >>> 5).toNat &&& 7 = (c >>> 5).toNat % 8 := Nat.and_two_pow_sub_one_eq_mod _ 3
    have high : (c >>> 5).toNat = c.toNat / 32 := by
      rw [UInt8.toNat_shiftRight]
      exact Nat.shiftRight_eq_div_pow _ _
    rw [UInt8.toNat_and]
    change (c >>> 5).toNat &&& 7 = _
    omega
  have masked (c : UInt8) : (c &&& 0x1F).toNat = c.toNat % 32 := by
    rw [UInt8.toNat_and]
    exact Nat.and_two_pow_sub_one_eq_mod _ 5
  have high := congrArg UInt8.toNat flags
  have low := congrArg UInt8.toNat offset
  rw [shifted,shifted] at high
  rw [masked,masked] at low
  apply UInt8.toNat_inj.mp
  omega

theorem trafficClass_toNat (a b : UInt8) :
    (((a &&& 0x0F) <<< 4) ||| ((b >>> 4) &&& 0x0F)).toNat = 16 * (a.toNat % 16) + b.toNat / 16 := by
  have small := b.toNat_lt
  have left : ((a &&& 0x0F) <<< 4).toNat = 16 * (a.toNat % 16) := by
    rw [UInt8.toNat_shiftLeft,low_nibble]
    change (a.toNat % 16) <<< 4 % 256 = _
    rw [Nat.shiftLeft_eq]
    omega
  have nibble : b.toNat / 16 < 2 ^ 4 := by omega
  rw [UInt8.toNat_or,left,masked_nibble]
  exact (Nat.two_pow_add_eq_or_of_lt nibble (a.toNat % 16)).symm

theorem be16_inj {a b a' b' : UInt8} (same : be16 a b = be16 a' b') : a = a' ∧ b = b' := by
  have number := congrArg UInt16.toNat same
  have := a.toNat_lt
  have := b.toNat_lt
  have := a'.toNat_lt
  have := b'.toNat_lt
  rw [be16,be16,UInt16.toNat_ofNat',UInt16.toNat_ofNat'] at number
  constructor <;> apply UInt8.toNat_inj.mp <;> omega

theorem be32_inj {a b c d a' b' c' d' : UInt8} (same : be32 a b c d = be32 a' b' c' d') :
    (a = a' ∧ b = b') ∧ c = c' ∧ d = d' := by
  have number := congrArg UInt32.toNat same
  have := a.toNat_lt
  have := b.toNat_lt
  have := c.toNat_lt
  have := d.toNat_lt
  have := a'.toNat_lt
  have := b'.toNat_lt
  have := c'.toNat_lt
  have := d'.toNat_lt
  rw [be32,be32,UInt32.toNat_ofNat',UInt32.toNat_ofNat'] at number
  refine ⟨⟨?_,?_⟩,?_,?_⟩ <;> apply UInt8.toNat_inj.mp <;> omega

end Bits

-- Two byte strings with the same bytes from `first` on up to `last`. A header is read
-- from left to right, and each of its fields takes this further.
def Match (first last : ℕ) (data data' : List UInt8) : Prop :=
  ∀ i, first ≤ i → i < last → byteAt data i = byteAt data' i

section Fields
variable {data data' : List UInt8}

theorem Match.empty (first : ℕ) (data data' : List UInt8) : Match first first data data' := by
  intro i above below
  omega

theorem Match.byte (before : Match first n data data') (same : byteAt data n = byteAt data' n) :
    Match first (n + 1) data data' := by
  intro i above below
  by_cases last : i = n
  · rw [last]
    exact same
  · exact before i above (by omega)

theorem Match.word16 (before : Match first n data data') (same : Network.word16 data n = Network.word16 data' n) :
    Match first (n + 2) data data' := by
  obtain ⟨high,low⟩ := be16_inj same
  exact (before.byte high).byte low

theorem Match.word32 (before : Match first n data data') (same : Network.word32 data n = Network.word32 data' n) :
    Match first (n + 4) data data' := by
  obtain ⟨⟨a,b⟩,c,d⟩ := be32_inj same
  exact (((before.byte a).byte b).byte c).byte d

theorem Match.octets (before : Match first n data data') (k : ℕ)
    (same : Network.octets data n k = Network.octets data' n k) : Match first (n + k) data data' := by
  intro i above below
  by_cases earlier : i < n
  · exact before i above earlier
  · have listed := List.map_inj_left.mp same (i - n) (List.mem_range.mpr (by omega))
    rw [Nat.add_sub_of_le (Nat.le_of_not_lt earlier)] at listed
    exact listed

theorem ethernet_match (parsed : parseEthernetHeader data = .ok header) (parsed' : parseEthernetHeader data' = .ok header) :
    Match 0 14 data data' := by
  unfold parseEthernetHeader at parsed parsed'
  split at parsed
  · cases parsed
  · split at parsed'
    · cases parsed'
    · cases parsed
      injection parsed' with fields
      injection fields with source destination ethertype
      exact (((Match.empty 0 _ _).octets 6 destination.symm).octets 6 source.symm).word16 ethertype.symm

theorem ipv4_match (parsed : parseIpv4Header data = .ok header) (parsed' : parseIpv4Header data' = .ok header) :
    Match 0 20 data data' := by
  unfold parseIpv4Header at parsed parsed'
  split at parsed
  · cases parsed
  · split at parsed'
    · cases parsed'
    · cases parsed
      injection parsed' with fields
      injection fields with fields
      injection fields with version headerLength service total identification flags fragment live protocol checksum
        source destination
      obtain ⟨masked,low⟩ := be16_inj fragment
      have first : byteAt data 0 = byteAt data' 0 := by
        have high := congrArg UInt8.toNat version
        have low := congrArg UInt8.toNat headerLength
        have nibble := low_nibble (byteAt data 0)
        have nibble' := low_nibble (byteAt data' 0)
        rw [masked_nibble,masked_nibble] at high
        rw [four_times _ (by omega),four_times _ (by omega)] at low
        exact nibbles_eq high.symm (by omega)
      exact (((((((((((Match.empty 0 _ _).byte first).byte service.symm).word16 total.symm).word16
        identification.symm).byte (flags_eq flags masked).symm).byte low.symm).byte live.symm).byte protocol.symm).word16
        checksum.symm).octets 4 source.symm).octets 4 destination.symm

theorem ipv6_match (parsed : parseIpv6Header data = .ok header) (parsed' : parseIpv6Header data' = .ok header) :
    Match 0 40 data data' := by
  unfold parseIpv6Header at parsed parsed'
  split at parsed
  · cases parsed
  · split at parsed'
    · cases parsed'
    · cases parsed
      injection parsed' with fields
      injection fields with fields
      injection fields with version traffic flow length next limit source destination
      obtain ⟨⟨_,label⟩,third,fourth⟩ := be32_inj flow
      have high := congrArg UInt8.toNat version
      have middle := congrArg UInt8.toNat traffic
      have low := congrArg UInt8.toNat label
      have small := (byteAt data 1).toNat_lt
      have small' := (byteAt data' 1).toNat_lt
      rw [masked_nibble,masked_nibble] at high
      rw [trafficClass_toNat,trafficClass_toNat] at middle
      rw [low_nibble,low_nibble] at low
      have first : byteAt data 0 = byteAt data' 0 := nibbles_eq high.symm (by omega)
      have second : byteAt data 1 = byteAt data' 1 := nibbles_eq (by omega) low.symm
      exact ((((((((((Match.empty 0 _ _).byte first).byte second).byte third.symm).byte fourth.symm).word16
        length.symm).byte next.symm).byte limit.symm).octets 16 source.symm).octets 16 destination.symm)

-- The low nibble of byte 12 is the one that no field keeps.
theorem tcp_match (parsed : parseTcpHeader data = .ok header) (parsed' : parseTcpHeader data' = .ok header) :
    Match 0 12 data data' ∧ byteAt data 12 >>> 4 = byteAt data' 12 >>> 4 ∧ Match 13 20 data data' := by
  unfold parseTcpHeader at parsed parsed'
  split at parsed
  · cases parsed
  · split at parsed'
    · cases parsed'
    · cases parsed
      injection parsed' with fields
      injection fields with source destination sequence acknowledgment headerLength flags window checksum urgent
      have nibble : byteAt data 12 >>> 4 = byteAt data' 12 >>> 4 := by
        have high := high_nibble (byteAt data 12)
        have high' := high_nibble (byteAt data' 12)
        have small := (byteAt data 12).toNat_lt
        have small' := (byteAt data' 12).toNat_lt
        have product := congrArg UInt8.toNat headerLength
        rw [four_times _ (by omega),four_times _ (by omega)] at product
        apply UInt8.toNat_inj.mp
        omega
      refine ⟨?_,nibble,?_⟩
      · exact ((((Match.empty 0 _ _).word16 source.symm).word16 destination.symm).word32 sequence.symm).word32
          acknowledgment.symm
      · exact ((((Match.empty 13 _ _).byte flags.symm).word16 window.symm).word16 checksum.symm).word16 urgent.symm

theorem udp_match (parsed : parseUdpHeader data = .ok header) (parsed' : parseUdpHeader data' = .ok header) :
    Match 0 8 data data' := by
  unfold parseUdpHeader at parsed parsed'
  split at parsed
  · cases parsed
  · split at parsed'
    · cases parsed'
    · cases parsed
      injection parsed' with fields
      injection fields with source destination length checksum
      exact ((((Match.empty 0 _ _).word16 source.symm).word16 destination.symm).word16 length.symm).word16 checksum.symm

theorem icmp_match (parsed : parseIcmpHeader data = .ok header) (parsed' : parseIcmpHeader data' = .ok header) :
    Match 0 8 data data' := by
  unfold parseIcmpHeader at parsed parsed'
  split at parsed
  · cases parsed
  · split at parsed'
    · cases parsed'
    · cases parsed
      injection parsed' with fields
      injection fields with icmpType code checksum remaining
      exact ((((Match.empty 0 _ _).byte icmpType.symm).byte code.symm).word16 checksum.symm).word32 remaining.symm

end Fields

section Packets
variable {raw raw' : List UInt8}

def tcpOffset : Option IpHeader → Option TransportHeader → Option ℕ
  | some ip, some (.tcp _) => some (14 + ip.skipped + 12)
  | _, _ => none

def headersEnd (packet : Packet) : ℕ :=
  14 + (packet.ipHeader.map IpHeader.skipped).getD 0 + (packet.transportHeader.map TransportHeader.skipped).getD 0

structure BuiltFrom (packet : Packet) (raw : List UInt8) : Prop where
  long : 14 ≤ raw.length
  ethernet : parseEthernetHeader (raw.take 14) = .ok packet.ethernetHeader
  network : parseIpHeader packet.ethernetHeader.ethertype (raw.drop 14) = .ok packet.ipHeader
  transport : ∀ ip, packet.ipHeader = some ip →
    parseTransportHeader ip.protocol (raw.drop (14 + ip.skipped)) = .ok packet.transportHeader
  alone : packet.ipHeader = none → packet.transportHeader = none
  payload : packet.payload = raw.drop (headersEnd packet)

theorem builtFrom (parser : PacketParser) (now : ℕ) (parsed : (parser.parse now raw).1 = .ok packet) :
    BuiltFrom packet raw := by
  rw [PacketParser.parse] at parsed
  split at parsed
  · cases parsed
  · rename_i enough
    change parsePacket _ now raw = _ at parsed
    unfold parsePacket at parsed
    obtain ⟨header,ethernet,parsed⟩ := bind_ok parsed
    obtain ⟨found,network,parsed⟩ := bind_ok parsed
    cases found with
    | none =>
        cases parsed
        refine ⟨Nat.le_of_not_lt enough,ethernet,network,?_,fun _ => rfl,drop_if_long raw 14⟩
        intro ip impossible
        cases impossible
    | some ip =>
        obtain ⟨transport,third,parsed⟩ := bind_ok parsed
        cases parsed
        refine ⟨Nat.le_of_not_lt enough,ethernet,network,?_,?_,drop_if_long raw _⟩
        · intro ip' same
          cases same
          exact third
        · intro impossible
          cases impossible

theorem BuiltFrom.inside (built : BuiltFrom packet raw) : headersEnd packet ≤ raw.length := by
  unfold headersEnd
  cases found : packet.ipHeader with
  | none =>
      rw [built.alone found]
      exact built.long
  | some ip =>
      have network := built.network
      rw [found] at network
      have room := parseIpHeader_room network
      have reads := reads_of_parsed (built.transport ip found)
      have enough := reads.enough
      have long := built.long
      rw [List.length_drop] at room enough
      rw [reads.skipped,Option.map_some,Option.getD_some]
      omega

theorem ip_match (parsed : parseIpHeader ethertype data = .ok (some ip))
    (parsed' : parseIpHeader ethertype data' = .ok (some ip)) : Match 0 ip.skipped data data' := by
  have unwrapped {result : Except ParseError IpHeader} (done : result.map some = .ok (some ip)) : result = .ok ip := by
    cases result with
    | error reason => cases done
    | ok header => cases done; rfl
  unfold parseIpHeader at parsed parsed'
  split at parsed
  · rename_i v4
    rw [if_pos v4] at parsed'
    have header := unwrapped parsed
    have matching := ipv4_match header (unwrapped parsed')
    unfold parseIpv4Header at header
    split at header
    · cases header
    · cases header
      exact matching
  · rename_i v4
    rw [if_neg v4] at parsed'
    split at parsed
    · rename_i v6
      rw [if_pos v6] at parsed'
      have header := unwrapped parsed
      have matching := ipv6_match header (unwrapped parsed')
      unfold parseIpv6Header at header
      split at header
      · cases header
      · cases header
        exact matching
    · cases parsed

def MatchTransport (transport : TransportHeader) (data data' : List UInt8) : Prop :=
  ∀ i < transport.skipped, byteAt data i = byteAt data' i ∨
    (∃ header, transport = .tcp header) ∧ i = 12 ∧ byteAt data i >>> 4 = byteAt data' i >>> 4

theorem transport_match (parsed : parseTransportHeader protocol data = .ok (some transport))
    (parsed' : parseTransportHeader protocol data' = .ok (some transport)) : MatchTransport transport data data' := by
  have mapped {α : Type} {result : Except ParseError α} {f : α → TransportHeader} {found : Option TransportHeader}
      (done : result.map (fun header => some (f header)) = .ok found) : ∃ header, result = .ok header ∧ found = some (f header) := by
    cases result with
    | error reason => cases done
    | ok header => cases done; exact ⟨header,rfl,rfl⟩
  by_cases recognised : known protocol
  · rcases recognised with rfl | rfl | rfl
    · obtain ⟨header,first,same⟩ := mapped (f:=.tcp) (show (parseTcpHeader data).map _ = _ from parsed)
      obtain ⟨header',second,same'⟩ := mapped (f:=.tcp) (show (parseTcpHeader data').map _ = _ from parsed')
      cases same
      cases same'
      obtain ⟨before,nibble,after⟩ := tcp_match first second
      intro i below
      change i < 20 at below
      by_cases twelve : i = 12
      · rw [twelve]
        exact .inr ⟨⟨header,rfl⟩,rfl,nibble⟩
      · by_cases early : i < 12
        · exact .inl (before i (Nat.zero_le i) early)
        · exact .inl (after i (by omega) below)
    · obtain ⟨header,first,same⟩ := mapped (f:=.udp) (show (parseUdpHeader data).map _ = _ from parsed)
      obtain ⟨header',second,same'⟩ := mapped (f:=.udp) (show (parseUdpHeader data').map _ = _ from parsed')
      cases same
      cases same'
      exact fun i below => .inl (udp_match first second i (Nat.zero_le i) below)
    · obtain ⟨header,first,same⟩ := mapped (f:=.icmp) (show (parseIcmpHeader data).map _ = _ from parsed)
      obtain ⟨header',second,same'⟩ := mapped (f:=.icmp) (show (parseIcmpHeader data').map _ = _ from parsed')
      cases same
      cases same'
      exact fun i below => .inl (icmp_match first second i (Nat.zero_le i) below)
  · rw [(parseTransportHeader_unknown recognised data).1] at parsed
    cases parsed

theorem byteAt_eq_of_drop (same : raw.drop n = raw'.drop n) (beyond : n ≤ i) : byteAt raw i = byteAt raw' i := by
  have read := congrArg (fun data => byteAt data (i - n)) same
  change byteAt (raw.drop n) (i - n) = byteAt (raw'.drop n) (i - n) at read
  rw [byteAt_drop,byteAt_drop,Nat.add_sub_of_le beyond] at read
  exact read

theorem BuiltFrom.congr (built : BuiltFrom packet' raw) (ethernet : packet.ethernetHeader = packet'.ethernetHeader)
    (network : packet.ipHeader = packet'.ipHeader) (transport : packet.transportHeader = packet'.transportHeader)
    (payload : packet.payload = packet'.payload) : BuiltFrom packet raw := by
  have ends : headersEnd packet = headersEnd packet' := by rw [headersEnd,headersEnd,network,transport]
  refine ⟨built.long,?_,?_,?_,?_,?_⟩
  · rw [ethernet]
    exact built.ethernet
  · rw [ethernet,network]
    exact built.network
  · rw [network,transport]
    exact built.transport
  · rw [network,transport]
    exact built.alone
  · rw [payload,ends]
    exact built.payload

section SameHeaders
variable (built : BuiltFrom packet raw) (built' : BuiltFrom packet raw')
include built built'

theorem same_length : raw.length = raw'.length := by
  have lengths := congrArg List.length (built.payload.symm.trans built'.payload)
  have inside := built.inside
  have inside' := built'.inside
  rw [List.length_drop,List.length_drop] at lengths
  omega

theorem same_frame (framed : i < 14) : byteAt raw i = byteAt raw' i := by
  have read := ethernet_match built.ethernet built'.ethernet i (Nat.zero_le i) framed
  rw [byteAt_take raw framed,byteAt_take raw' framed] at read
  exact read

theorem same_network (found : packet.ipHeader = some ip) (beyond : 14 ≤ i) (inside : i < 14 + ip.skipped) :
    byteAt raw i = byteAt raw' i := by
  have first := built.network
  have second := built'.network
  rw [found] at first second
  have read := ip_match first second (i - 14) (Nat.zero_le _) (by omega)
  rw [byteAt_drop,byteAt_drop,Nat.add_sub_of_le beyond] at read
  exact read

theorem same_transport (found : packet.ipHeader = some ip) (carried : packet.transportHeader = some header)
    (beyond : 14 + ip.skipped ≤ i) (inside : i < 14 + ip.skipped + header.skipped) :
    byteAt raw i = byteAt raw' i ∨
      tcpOffset packet.ipHeader packet.transportHeader = some i ∧ byteAt raw i >>> 4 = byteAt raw' i >>> 4 := by
  have first := built.transport ip found
  have second := built'.transport ip found
  rw [carried] at first second
  have read := transport_match first second (i - (14 + ip.skipped)) (by omega)
  rw [byteAt_drop,byteAt_drop,Nat.add_sub_of_le beyond] at read
  rcases read with equal | ⟨⟨tcp,kind⟩,twelve,nibble⟩
  · exact .inl equal
  · refine .inr ⟨?_,nibble⟩
    rw [found,carried,kind,tcpOffset]
    congr 1
    omega

theorem same_bytes (i : ℕ) : byteAt raw i = byteAt raw' i ∨
    tcpOffset packet.ipHeader packet.transportHeader = some i ∧ byteAt raw i >>> 4 = byteAt raw' i >>> 4 := by
  by_cases framed : i < 14
  · exact .inl (same_frame built built' framed)
  · by_cases beyond : headersEnd packet ≤ i
    · exact .inl (byteAt_eq_of_drop (built.payload.symm.trans built'.payload) beyond)
    · cases found : packet.ipHeader with
      | none =>
          rw [headersEnd,built.alone found,found] at beyond
          exact absurd (Nat.le_of_not_lt framed) beyond
      | some ip =>
          by_cases inIp : i < 14 + ip.skipped
          · exact .inl (same_network built built' found (Nat.le_of_not_lt framed) inIp)
          · cases carried : packet.transportHeader with
            | none =>
                rw [headersEnd,carried,found] at beyond
                exact absurd (Nat.le_of_not_lt inIp) beyond
            | some header =>
                rw [headersEnd,carried,found] at beyond
                change ¬ 14 + ip.skipped + header.skipped ≤ i at beyond
                have read := same_transport built built' found carried (Nat.le_of_not_lt inIp) (Nat.lt_of_not_le beyond)
                rw [found,carried] at read
                exact read

end SameHeaders

theorem parse_lossless (parser parser' : PacketParser) (now now' : ℕ) (raw raw' : List UInt8) (packet packet' : Packet)
    (parsed : (parser.parse now raw).1 = .ok packet) (parsed' : (parser'.parse now' raw').1 = .ok packet')
    (ethernet : packet.ethernetHeader = packet'.ethernetHeader) (network : packet.ipHeader = packet'.ipHeader)
    (transport : packet.transportHeader = packet'.transportHeader) (payload : packet.payload = packet'.payload) :
    raw.length = raw'.length ∧ ∀ i, byteAt raw i = byteAt raw' i ∨
      tcpOffset packet.ipHeader packet.transportHeader = some i ∧ byteAt raw i >>> 4 = byteAt raw' i >>> 4 := by
  have built := builtFrom parser now parsed
  have built' := (builtFrom parser' now' parsed').congr ethernet network transport payload
  exact ⟨same_length built built',same_bytes built built'⟩

-- Two segments of which only the reserved bits differ.
def segment (b : UInt8) : List UInt8 :=
  List.replicate 12 0 ++ [0x08,0x00] ++ [0x45,0,0,40,0,0,0,0,64,6,0,0,10,0,0,1,10,0,0,2] ++
    [0,80,0,80,0,0,0,1,0,0,0,2,b,0x10,1,0,0,0,0,0] ++ [7]

theorem parse_lossless_reserved : (segment 0x50).length = (segment 0x5F).length ∧
    ∀ i, byteAt (segment 0x50) i = byteAt (segment 0x5F) i ∨
      tcpOffset (some (.v4 ⟨4,20,0,40,0,0,0,64,6,0,[10,0,0,1],[10,0,0,2]⟩)) (some (.tcp ⟨80,80,1,2,20,0x10,256,0,0⟩)) = some i ∧
        byteAt (segment 0x50) i >>> 4 = byteAt (segment 0x5F) i >>> 4 :=
  parse_lossless {} {} 0 0 (segment 0x50) (segment 0x5F)
    ⟨1,0,⟨List.replicate 6 0,List.replicate 6 0,0x0800⟩,some (.v4 ⟨4,20,0,40,0,0,0,64,6,0,[10,0,0,1],[10,0,0,2]⟩),
      some (.tcp ⟨80,80,1,2,20,0x10,256,0,0⟩),[7],[]⟩
    ⟨1,0,⟨List.replicate 6 0,List.replicate 6 0,0x0800⟩,some (.v4 ⟨4,20,0,40,0,0,0,64,6,0,[10,0,0,1],[10,0,0,2]⟩),
      some (.tcp ⟨80,80,1,2,20,0x10,256,0,0⟩),[7],[]⟩ (by decide) (by decide) rfl rfl rfl rfl

end Packets
end PhantomFlow.Network
