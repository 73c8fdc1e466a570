import Mathlib.Order.Basic
import PhantomFlow.Library.Fallible
import PhantomFlow.Network.PacketParser

namespace PhantomFlow.Network
open Library

def IpHeader.wireLength : IpHeader → ℕ
  | .v4 header => header.headerLength.toNat
  | .v6 _ => 40

def IpHeader.wireEnd : IpHeader → ℕ
  | .v4 header => 14 + header.totalLength.toNat
  | .v6 header => 54 + header.payloadLength.toNat

def TransportHeader.wireLength : TransportHeader → ℕ
  | .tcp header => header.headerLength.toNat
  | .udp _ => 8
  | .icmp _ => 8

def AgreesWithWire (parser : PacketParser) (now : ℕ) (raw : List UInt8) : Prop :=
  ∀ packet ip, (parser.parse now raw).1 = .ok packet → packet.ipHeader = some ip →
    parseTransportHeader ip.protocol (raw.drop (14 + ip.wireLength)) = .ok packet.transportHeader ∧
      packet.payload = (raw.take ip.wireEnd).drop
        (14 + ip.wireLength + (packet.transportHeader.map TransportHeader.wireLength).getD 0)

section Transport

def known (protocol : UInt8) : Prop := protocol = 6 ∨ protocol = 17 ∨ protocol = 1

def skippedBy (protocol : UInt8) : ℕ :=
  if protocol = 6 then 20 else if protocol = 17 then 8 else if protocol = 1 then 8 else 0

def lengthBy (protocol : UInt8) (data : List UInt8) : ℕ :=
  if protocol = 6 then ((byteAt data 12 >>> 4) * 4).toNat
  else if protocol = 17 then 8 else if protocol = 1 then 8 else 0

-- The offsets of `parse` are those of the headers, and nothing comes after the end
-- they give; or there is no payload by either reading.
def Fits (base wire finish : ℕ) (protocol : UInt8) (raw : List UInt8) : Prop :=
  (known protocol → wire = base) ∧
    (base + skippedBy protocol = wire + lengthBy protocol (raw.drop base) ∧ raw.length ≤ finish ∨
      raw.length ≤ base + skippedBy protocol ∧
        min raw.length finish ≤ wire + lengthBy protocol (raw.drop base))

def TransportHeader.secondByte : TransportHeader → UInt8
  | .tcp header => header.srcPort.toUInt8
  | .udp header => header.srcPort.toUInt8
  | .icmp header => header.code

theorem be16_low (high low : UInt8) : (be16 high low).toUInt8 = low := by
  have large := high.toNat_lt
  have small := low.toNat_lt
  apply UInt8.toNat_inj.mp
  rw [UInt16.toNat_toUInt8,be16,UInt16.toNat_ofNat']
  omega

structure Reads (protocol : UInt8) (data : List UInt8) (transport : Option TransportHeader) : Prop where
  enough : skippedBy protocol ≤ data.length
  skipped : (transport.map TransportHeader.skipped).getD 0 = skippedBy protocol
  length : (transport.map TransportHeader.wireLength).getD 0 = lengthBy protocol data
  second : known protocol → transport.map TransportHeader.secondByte = some (byteAt data 1)

theorem reads_tcp (parsed : parseTransportHeader 6 data = .ok transport) : Reads 6 data transport := by
  change (parseTcpHeader data).map _ = _ at parsed
  unfold parseTcpHeader at parsed
  split at parsed
  · cases parsed
  · rename_i enough
    cases parsed
    exact ⟨Nat.le_of_not_lt enough,rfl,rfl,fun _ => congrArg some (be16_low _ _)⟩

theorem reads_udp (parsed : parseTransportHeader 17 data = .ok transport) : Reads 17 data transport := by
  change (parseUdpHeader data).map _ = _ at parsed
  unfold parseUdpHeader at parsed
  split at parsed
  · cases parsed
  · rename_i enough
    cases parsed
    exact ⟨Nat.le_of_not_lt enough,rfl,rfl,fun _ => congrArg some (be16_low _ _)⟩

theorem reads_icmp (parsed : parseTransportHeader 1 data = .ok transport) : Reads 1 data transport := by
  change (parseIcmpHeader data).map _ = _ at parsed
  unfold parseIcmpHeader at parsed
  split at parsed
  · cases parsed
  · rename_i enough
    cases parsed
    exact ⟨Nat.le_of_not_lt enough,rfl,rfl,fun _ => rfl⟩

theorem parseTransportHeader_unknown (unknown : ¬ known protocol) (data : List UInt8) :
    parseTransportHeader protocol data = .ok none ∧ skippedBy protocol = 0 ∧ lengthBy protocol data = 0 := by
  simp only [known,not_or] at unknown
  simp [parseTransportHeader,skippedBy,lengthBy,unknown]

theorem reads_of_parsed (parsed : parseTransportHeader protocol data = .ok transport) :
    Reads protocol data transport := by
  by_cases recognised : known protocol
  · rcases recognised with rfl | rfl | rfl
    · exact reads_tcp parsed
    · exact reads_udp parsed
    · exact reads_icmp parsed
  · obtain ⟨none,nothing,empty⟩ := parseTransportHeader_unknown recognised data
    rw [none] at parsed
    cases parsed
    exact ⟨by rw [nothing]; exact Nat.zero_le _,nothing.symm,empty.symm,fun impossible => absurd impossible recognised⟩

theorem parseTransportHeader_succeeds (enough : skippedBy protocol ≤ data.length) :
    ∃ transport, parseTransportHeader protocol data = .ok transport := by
  by_cases recognised : known protocol
  · rcases recognised with rfl | rfl | rfl
    · have long : ¬ data.length < 20 := Nat.not_lt_of_le enough
      exact ⟨_,by change (parseTcpHeader data).map _ = _; rw [parseTcpHeader,if_neg long]; rfl⟩
    · have long : ¬ data.length < 8 := Nat.not_lt_of_le enough
      exact ⟨_,by change (parseUdpHeader data).map _ = _; rw [parseUdpHeader,if_neg long]; rfl⟩
    · have long : ¬ data.length < 8 := Nat.not_lt_of_le enough
      exact ⟨_,by change (parseIcmpHeader data).map _ = _; rw [parseIcmpHeader,if_neg long]; rfl⟩
  · exact ⟨none,(parseTransportHeader_unknown recognised data).1⟩

end Transport

-- The bytes that decide where the headers end: the length, everything up to the end
-- of the fixed IP header, and the data offset of a TCP header.
structure SameLayout (base : ℕ) (protocol : UInt8) (raw raw' : List UInt8) : Prop where
  length : raw'.length = raw.length
  headers : ∀ i < base, byteAt raw' i = byteAt raw i
  offset : protocol = 6 → byteAt raw' (base + 12) = byteAt raw (base + 12)

section Layout
variable {base wire finish : ℕ} {protocol : UInt8} {raw raw' : List UInt8}

theorem byteAt_drop (raw : List UInt8) (n i : ℕ) : byteAt (raw.drop n) i = byteAt raw (n + i) := by
  simp [byteAt,List.getD_eq_getElem?_getD]

theorem byteAt_set (raw : List UInt8) (j i : ℕ) (b : UInt8) (inside : j < raw.length) :
    byteAt (raw.set j b) i = if i = j then b else byteAt raw i := by
  by_cases same : i = j
  · subst i; simp [byteAt,List.getD_eq_getElem?_getD,inside]
  · have other : j ≠ i := fun equal => same equal.symm
    simp [byteAt,List.getD_eq_getElem?_getD,same,other]

theorem succ_ne (b : UInt8) : b + 1 ≠ b := by
  intro same
  have values := congrArg UInt8.toNat same
  have small := b.toNat_lt
  rw [UInt8.toNat_add] at values
  have one : (1 : UInt8).toNat = 1 := rfl
  omega

theorem SameLayout.refl : SameLayout base protocol raw raw := ⟨rfl,fun _ _ => rfl,fun _ => rfl⟩

theorem SameLayout.set (inside : j < raw.length) (free : base ≤ j) (offset : protocol = 6 → j ≠ base + 12) (b : UInt8) :
    SameLayout base protocol raw (raw.set j b) := by
  refine ⟨List.length_set,?_,?_⟩
  · intro i below
    rw [byteAt_set raw j i b inside,if_neg (by omega)]
  · intro tcp
    rw [byteAt_set raw j _ b inside,if_neg (fun equal => offset tcp equal.symm)]

theorem SameLayout.lengthBy (same : SameLayout base protocol raw raw') :
    Network.lengthBy protocol (raw'.drop base) = Network.lengthBy protocol (raw.drop base) := by
  unfold Network.lengthBy
  split
  · rename_i tcp
    rw [byteAt_drop,byteAt_drop,same.offset tcp]
  · rfl

theorem SameLayout.parses (same : SameLayout base protocol raw raw') (enough : base + skippedBy protocol ≤ raw.length) :
    ∃ transport, parseTransportHeader protocol (raw'.drop base) = .ok transport := by
  apply parseTransportHeader_succeeds
  rw [List.length_drop,same.length]
  omega

theorem SameLayout.position (all : ∀ raw', SameLayout base protocol raw raw' → byteAt raw' j = byteAt raw' k)
    (inside : j < raw.length) (free : base ≤ j) (offset : protocol = 6 → j ≠ base + 12) : k = j := by
  by_contra different
  have before := all raw .refl
  have after := all _ (.set inside free offset (byteAt raw j + 1))
  rw [byteAt_set _ _ _ _ inside,byteAt_set _ _ _ _ inside,if_pos rfl,if_neg different,← before] at after
  exact absurd after (succ_ne _)

def Agree (base wire finish : ℕ) (protocol : UInt8) (raw : List UInt8) : Prop :=
  ∀ transport, parseTransportHeader protocol (raw.drop base) = .ok transport →
    parseTransportHeader protocol (raw.drop wire) = .ok transport ∧
      raw.drop (base + (transport.map TransportHeader.skipped).getD 0) =
        (raw.take finish).drop (wire + (transport.map TransportHeader.wireLength).getD 0)

theorem agree_of_fits (fits : Fits base wire finish protocol raw) (same : SameLayout base protocol raw raw') :
    Agree base wire finish protocol raw' := by
  intro transport parsed
  have reads := reads_of_parsed parsed
  constructor
  · by_cases recognised : known protocol
    · rw [fits.1 recognised]
      exact parsed
    · rw [(parseTransportHeader_unknown recognised _).1] at parsed ⊢
      exact parsed
  · rw [reads.skipped,reads.length,same.lengthBy]
    rcases fits.2 with ⟨offsets,whole⟩ | ⟨none,nothing⟩
    · rw [offsets,List.take_of_length_le (by rw [same.length]; exact whole)]
    · rw [List.drop_eq_nil_of_le (by rw [same.length]; exact none),List.drop_eq_nil_of_le]
      rw [List.length_take,same.length,Nat.min_comm]
      exact nothing

theorem wire_eq_of_agree (all : ∀ raw', SameLayout base protocol raw raw' → Agree base wire finish protocol raw')
    (enough : base + skippedBy protocol ≤ raw.length) (recognised : known protocol) : wire = base := by
  have inside : base + 1 < raw.length := by
    rcases recognised with rfl | rfl | rfl
    · exact Nat.lt_of_lt_of_le (show base + 1 < base + 20 by omega) enough
    · exact Nat.lt_of_lt_of_le (show base + 1 < base + 8 by omega) enough
    · exact Nat.lt_of_lt_of_le (show base + 1 < base + 8 by omega) enough
  have equal : ∀ raw', SameLayout base protocol raw raw' → byteAt raw' (base + 1) = byteAt raw' (wire + 1) := by
    intro raw' same
    obtain ⟨transport,parsed⟩ := same.parses enough
    have first := (reads_of_parsed parsed).second recognised
    have second := (reads_of_parsed (all raw' same transport parsed).1).second recognised
    rw [first,byteAt_drop,byteAt_drop] at second
    exact Option.some.inj second
  have position := SameLayout.position equal inside (by omega) (by omega)
  omega

theorem byteAt_take (raw : List UInt8) (below : i < n) : byteAt (raw.take n) i = byteAt raw i := by
  simp [byteAt,List.getD_eq_getElem?_getD,below]

-- A payload that stops short of the end is read on by `parse` up to the last byte,
-- which is free.
theorem ranges_of_agree (all : ∀ raw', SameLayout base protocol raw raw' → Agree base wire finish protocol raw')
    (enough : base + skippedBy protocol ≤ raw.length) :
    base + skippedBy protocol = wire + lengthBy protocol (raw.drop base) ∧ raw.length ≤ finish ∨
      raw.length ≤ base + skippedBy protocol ∧
        min raw.length finish ≤ wire + lengthBy protocol (raw.drop base) := by
  have equal : ∀ raw', SameLayout base protocol raw raw' → raw'.drop (base + skippedBy protocol) =
      (raw'.take finish).drop (wire + lengthBy protocol (raw.drop base)) := by
    intro raw' same
    obtain ⟨transport,parsed⟩ := same.parses enough
    have reads := reads_of_parsed parsed
    have payloads := (all raw' same transport parsed).2
    rw [reads.skipped,reads.length,same.lengthBy] at payloads
    exact payloads
  generalize start : base + skippedBy protocol = a at equal enough ⊢
  generalize wire + lengthBy protocol (raw.drop base) = a' at equal ⊢
  have sizes := congrArg List.length (equal raw .refl)
  rw [List.length_drop,List.length_drop,List.length_take] at sizes
  by_cases empty : raw.length ≤ a
  · exact .inr ⟨empty,by omega⟩
  · by_cases whole : raw.length ≤ finish
    · exact .inl ⟨by omega,whole⟩
    · have inside : raw.length - 1 < raw.length := by omega
      have apart : protocol = 6 → raw.length - 1 ≠ base + 12 := by
        intro tcp
        have header : skippedBy protocol = 20 := by rw [tcp]; rfl
        omega
      have last : ∀ raw', SameLayout base protocol raw raw' →
          byteAt raw' (raw.length - 1) = byteAt raw' (finish - 1) := by
        intro raw' same
        have reading := congrArg (byteAt · (raw.length - 1 - a)) (equal raw' same)
        simp only [byteAt_drop] at reading
        rw [byteAt_take _ (by omega)] at reading
        have left : a + (raw.length - 1 - a) = raw.length - 1 := by omega
        have right : a' + (raw.length - 1 - a) = finish - 1 := by omega
        rwa [left,right] at reading
      have position := SameLayout.position last inside (by omega) apart
      omega

theorem agree_iff (inside : base ≤ raw.length) :
    (∀ raw', SameLayout base protocol raw raw' → Agree base wire finish protocol raw') ↔
      (base + skippedBy protocol ≤ raw.length → Fits base wire finish protocol raw) := by
  constructor
  · intro all enough
    exact ⟨wire_eq_of_agree all enough,ranges_of_agree all enough⟩
  · intro fits raw' same
    by_cases enough : base + skippedBy protocol ≤ raw.length
    · exact agree_of_fits (fits enough) same
    · intro transport parsed
      have long := (reads_of_parsed parsed).enough
      rw [List.length_drop,same.length] at long
      omega

end Layout

section Packets
variable {raw : List UInt8}

def ethertypeOf (raw : List UInt8) : UInt16 := word16 raw 12
def protocolOf (raw : List UInt8) : UInt8 := if ethertypeOf raw = 0x86DD then byteAt raw 20 else byteAt raw 23
def fixedEnd (raw : List UInt8) : ℕ := if ethertypeOf raw = 0x86DD then 54 else 34

def Delimited (raw : List UInt8) : Prop :=
  (ethertypeOf raw = 0x0800 →
      Fits 34 (14 + ((byteAt raw 14 &&& 0x0F) * 4).toNat) (14 + (word16 raw 16).toNat) (byteAt raw 23) raw) ∧
    (ethertypeOf raw = 0x86DD → Fits 54 54 (54 + (word16 raw 18).toNat) (byteAt raw 20) raw)

theorem parseEthernetHeader_ethertype (long : 14 ≤ raw.length) :
    ∃ header, parseEthernetHeader (raw.take 14) = .ok header ∧ header.ethertype = ethertypeOf raw := by
  have size : ¬ (raw.take 14).length < 14 := by rw [List.length_take]; omega
  refine ⟨_,by rw [parseEthernetHeader,if_neg size],?_⟩
  simp only [ethertypeOf,word16]
  rw [byteAt_take raw (by omega),byteAt_take raw (by omega)]

theorem drop_if_long (raw : List UInt8) (n : ℕ) : (if n < raw.length then raw.drop n else []) = raw.drop n := by
  split
  · rfl
  · rw [List.drop_eq_nil_of_le (by omega)]

theorem parsePacket_builds (long : 14 ≤ raw.length)
    (network : parseIpHeader (ethertypeOf raw) (raw.drop 14) = .ok (some ip))
    (parsed : parseTransportHeader ip.protocol (raw.drop (14 + ip.skipped)) = .ok transport) (count now : ℕ) :
    ∃ packet, parsePacket count now raw = .ok packet ∧ packet.ipHeader = some ip ∧
      packet.transportHeader = transport ∧
      packet.payload = raw.drop (14 + ip.skipped + (transport.map TransportHeader.skipped).getD 0) := by
  obtain ⟨header,ethernet,ethertype⟩ := parseEthernetHeader_ethertype long
  rw [← ethertype] at network
  refine ⟨⟨count,now,header,some ip,transport,_,[]⟩,?_,rfl,rfl,rfl⟩
  simp only [parsePacket,ethernet,network,bind,Except.bind,Option.map_some,Option.getD_some,parsed,pure,Except.pure,
    drop_if_long]

theorem parsePacket_built (long : 14 ≤ raw.length) (done : parsePacket count now raw = .ok packet) :
    parseIpHeader (ethertypeOf raw) (raw.drop 14) = .ok packet.ipHeader ∧
      ∀ ip, packet.ipHeader = some ip →
        parseTransportHeader ip.protocol (raw.drop (14 + ip.skipped)) = .ok packet.transportHeader ∧
          packet.payload =
            raw.drop (14 + ip.skipped + (packet.transportHeader.map TransportHeader.skipped).getD 0) := by
  obtain ⟨header,ethernet,ethertype⟩ := parseEthernetHeader_ethertype long
  unfold parsePacket at done
  obtain ⟨header',first,done⟩ := bind_ok done
  rw [ethernet] at first
  cases first
  obtain ⟨found,second,done⟩ := bind_ok done
  rw [← ethertype]
  cases found with
  | none =>
      cases done
      exact ⟨second,by intro ip impossible; cases impossible⟩
  | some found =>
      obtain ⟨transport,third,done⟩ := bind_ok done
      cases done
      refine ⟨second,?_⟩
      intro ip same
      cases same
      exact ⟨third,drop_if_long raw _⟩

theorem agreesWithWire_iff (parser : PacketParser) (now : ℕ) (raw : List UInt8) :
    AgreesWithWire parser now raw ↔ ∀ ip, 14 ≤ raw.length →
      parseIpHeader (ethertypeOf raw) (raw.drop 14) = .ok (some ip) →
        Agree (14 + ip.skipped) (14 + ip.wireLength) ip.wireEnd ip.protocol raw := by
  have parses : 14 ≤ raw.length → (parser.parse now raw).1 = parsePacket (parser.packetCount + 1) now raw := by
    intro long
    rw [PacketParser.parse,if_neg (by omega)]
  constructor
  · intro agrees ip long network transport parsed
    obtain ⟨packet,done,sameIp,sameTransport,payload⟩ :=
      parsePacket_builds long network parsed (parser.packetCount + 1) now
    rw [← parses long] at done
    have result := agrees packet ip done sameIp
    rw [sameTransport,payload] at result
    exact result
  · intro agree packet ip done sameIp
    by_cases long : 14 ≤ raw.length
    · rw [parses long] at done
      obtain ⟨network,rest⟩ := parsePacket_built long done
      obtain ⟨parsed,payload⟩ := rest ip sameIp
      rw [sameIp] at network
      rw [payload]
      exact agree ip long network _ parsed
    · rw [PacketParser.parse,if_pos (by omega)] at done
      cases done

theorem word16_drop (raw : List UInt8) (n i : ℕ) : word16 (raw.drop n) i = word16 raw (n + i) := by
  rw [word16,word16,byteAt_drop,byteAt_drop,Nat.add_assoc]

theorem parseIpHeader_v4 (v4 : ethertypeOf raw = 0x0800) (long : 34 ≤ raw.length) :
    ∃ ip, parseIpHeader (ethertypeOf raw) (raw.drop 14) = .ok (some ip) ∧ ip.skipped = 20 ∧
      ip.wireLength = ((byteAt raw 14 &&& 0x0F) * 4).toNat ∧ ip.wireEnd = 14 + (word16 raw 16).toNat ∧
      ip.protocol = byteAt raw 23 := by
  have size : ¬ (raw.drop 14).length < 20 := by rw [List.length_drop]; omega
  refine ⟨_,by rw [v4,parseIpHeader,if_pos rfl,parseIpv4Header,if_neg size]; rfl,rfl,?_,?_,?_⟩
  · simp only [IpHeader.wireLength,byteAt_drop]
  · simp only [IpHeader.wireEnd,word16_drop]
  · simp only [IpHeader.protocol,byteAt_drop]

theorem parseIpHeader_v6 (v6 : ethertypeOf raw = 0x86DD) (long : 54 ≤ raw.length) :
    ∃ ip, parseIpHeader (ethertypeOf raw) (raw.drop 14) = .ok (some ip) ∧ ip.skipped = 40 ∧
      ip.wireLength = 40 ∧ ip.wireEnd = 54 + (word16 raw 18).toNat ∧ ip.protocol = byteAt raw 20 := by
  have size : ¬ (raw.drop 14).length < 40 := by rw [List.length_drop]; omega
  refine ⟨_,by rw [v6,parseIpHeader,if_neg (by decide),if_pos rfl,parseIpv6Header,if_neg size]; rfl,rfl,rfl,?_,?_⟩
  · simp only [IpHeader.wireEnd,word16_drop]
  · simp only [IpHeader.protocol,byteAt_drop]

theorem parseIpHeader_kinds (parsed : parseIpHeader (ethertypeOf raw) (raw.drop 14) = .ok (some ip)) :
    ethertypeOf raw = 0x0800 ∧ 34 ≤ raw.length ∨ ethertypeOf raw = 0x86DD ∧ 54 ≤ raw.length := by
  unfold parseIpHeader at parsed
  split at parsed
  · rename_i v4
    unfold parseIpv4Header at parsed
    split at parsed
    · cases parsed
    · rename_i size
      rw [List.length_drop] at size
      exact .inl ⟨v4,by omega⟩
  · split at parsed
    · rename_i v6
      unfold parseIpv6Header at parsed
      split at parsed
      · cases parsed
      · rename_i size
        rw [List.length_drop] at size
        exact .inr ⟨v6,by omega⟩
    · cases parsed

theorem agreesWithWire_by_kind (parser : PacketParser) (now : ℕ) (raw : List UInt8) :
    AgreesWithWire parser now raw ↔
      (ethertypeOf raw = 0x0800 → 34 ≤ raw.length →
        Agree 34 (14 + ((byteAt raw 14 &&& 0x0F) * 4).toNat) (14 + (word16 raw 16).toNat) (byteAt raw 23) raw) ∧
      (ethertypeOf raw = 0x86DD → 54 ≤ raw.length →
        Agree 54 54 (54 + (word16 raw 18).toNat) (byteAt raw 20) raw) := by
  rw [agreesWithWire_iff]
  constructor
  · intro agree
    constructor
    · intro v4 long
      obtain ⟨ip,parsed,skipped,length,finish,protocol⟩ := parseIpHeader_v4 v4 long
      have result := agree ip (by omega) parsed
      rw [skipped,length,finish,protocol] at result
      exact result
    · intro v6 long
      obtain ⟨ip,parsed,skipped,length,finish,protocol⟩ := parseIpHeader_v6 v6 long
      have result := agree ip (by omega) parsed
      rw [skipped,length,finish,protocol] at result
      exact result
  · intro both ip _ parsed
    rcases parseIpHeader_kinds parsed with ⟨v4,long⟩ | ⟨v6,long⟩
    · obtain ⟨ip',parsed',skipped,length,finish,protocol⟩ := parseIpHeader_v4 v4 long
      rw [parsed'] at parsed
      cases parsed
      rw [skipped,length,finish,protocol]
      exact both.1 v4 long
    · obtain ⟨ip',parsed',skipped,length,finish,protocol⟩ := parseIpHeader_v6 v6 long
      rw [parsed'] at parsed
      cases parsed
      rw [skipped,length,finish,protocol]
      exact both.2 v6 long

theorem parse_succeeds (parser : PacketParser) (now : ℕ)
    (network : parseIpHeader (ethertypeOf raw) (raw.drop 14) = .ok (some ip)) (long : 14 + ip.skipped ≤ raw.length) :
    (∃ packet, (parser.parse now raw).1 = .ok packet) ↔ 14 + ip.skipped + skippedBy ip.protocol ≤ raw.length := by
  rw [PacketParser.parse,if_neg (by omega)]
  constructor
  · intro succeeds
    obtain ⟨packet,done⟩ := succeeds
    obtain ⟨network',rest⟩ := parsePacket_built (by omega) done
    rw [network] at network'
    have found : packet.ipHeader = some ip := (Except.ok.inj network').symm
    have enough := (reads_of_parsed (rest ip found).1).enough
    rw [List.length_drop] at enough
    omega
  · intro enough
    have room : skippedBy ip.protocol ≤ (raw.drop (14 + ip.skipped)).length := by
      rw [List.length_drop]
      omega
    obtain ⟨transport,parsed⟩ := parseTransportHeader_succeeds room
    obtain ⟨packet,done,_⟩ := parsePacket_builds (by omega) network parsed (parser.packetCount + 1) now
    exact ⟨packet,done⟩

theorem parse_needs_ip (parser : PacketParser) (now : ℕ) (done : (parser.parse now raw).1 = .ok packet)
    (kind : ethertypeOf raw = 0x0800 ∨ ethertypeOf raw = 0x86DD) :
    ethertypeOf raw = 0x0800 ∧ 34 ≤ raw.length ∨ ethertypeOf raw = 0x86DD ∧ 54 ≤ raw.length := by
  by_cases long : raw.length < 14
  · rw [PacketParser.parse,if_pos long] at done
    cases done
  · rw [PacketParser.parse,if_neg long] at done
    have network := (parsePacket_built (by omega) done).1
    cases found : packet.ipHeader with
    | some ip => rw [found] at network; exact parseIpHeader_kinds network
    | none =>
        rw [found] at network
        have never : ∀ header : Except ParseError IpHeader, header.map some ≠ .ok none := by
          intro header impossible
          cases header with
          | error message => cases impossible
          | ok ip => cases impossible
        rcases kind with v4 | v6
        · rw [v4] at network
          exact absurd network (never _)
        · rw [v6] at network
          exact absurd network (never _)

theorem exact_of_kind {parser : PacketParser} {now base wire finish : ℕ} {protocol : UInt8}
    (agrees : ∀ raw', SameLayout base protocol raw raw' →
      (AgreesWithWire parser now raw' ↔ (base ≤ raw'.length → Agree base wire finish protocol raw')))
    (needs : (∃ packet, (parser.parse now raw).1 = .ok packet) → base ≤ raw.length)
    (succeeds : base ≤ raw.length →
      ((∃ packet, (parser.parse now raw).1 = .ok packet) ↔ base + skippedBy protocol ≤ raw.length)) :
    (∀ raw', SameLayout base protocol raw raw' → AgreesWithWire parser now raw') ↔
      ((∃ packet, (parser.parse now raw).1 = .ok packet) → Fits base wire finish protocol raw) := by
  by_cases long : base ≤ raw.length
  · rw [succeeds long,← agree_iff long]
    constructor
    · intro all raw' same
      exact (agrees raw' same).mp (all raw' same) (by rw [same.length]; exact long)
    · intro all raw' same
      exact (agrees raw' same).mpr (fun _ => all raw' same)
  · refine iff_of_true ?_ (fun parsed => absurd (needs parsed) long)
    intro raw' same
    refine (agrees raw' same).mpr (fun long' => ?_)
    rw [same.length] at long'
    exact absurd long' long

theorem SameLayout.word16 (same : SameLayout base protocol raw raw') (below : i + 1 < base) :
    Network.word16 raw' i = Network.word16 raw i := by
  rw [Network.word16,Network.word16,same.headers i (by omega),same.headers (i + 1) below]

theorem agreesWithWire_exact (parser : PacketParser) (now : ℕ) (raw : List UInt8) :
    (∀ raw', SameLayout (fixedEnd raw) (protocolOf raw) raw raw' → AgreesWithWire parser now raw') ↔
      ((∃ packet, (parser.parse now raw).1 = .ok packet) → Delimited raw) := by
  have different : (0x0800 : UInt16) ≠ 0x86DD := by decide
  by_cases v4 : ethertypeOf raw = 0x0800
  · have delimited : Delimited raw ↔ Fits 34 (14 + ((byteAt raw 14 &&& 0x0F) * 4).toNat)
        (14 + (word16 raw 16).toNat) (byteAt raw 23) raw := by
      simp [Delimited,v4]
    rw [delimited,fixedEnd,protocolOf,v4,if_neg different,if_neg different]
    apply exact_of_kind
    · intro raw' same
      have kind : ethertypeOf raw' = 0x0800 := (same.word16 (by omega)).trans v4
      rw [agreesWithWire_by_kind,same.headers 14 (by omega),same.headers 23 (by omega),same.word16 (i:=16) (by omega),
        kind]
      simp
    · intro parsed
      obtain ⟨packet,done⟩ := parsed
      rcases parse_needs_ip parser now done (.inl v4) with ⟨_,long⟩ | ⟨v6,_⟩
      · exact long
      · exact absurd (v4.symm.trans v6) different
    · intro long
      obtain ⟨ip,network,skipped,_,_,protocol⟩ := parseIpHeader_v4 v4 long
      rw [parse_succeeds parser now network (by rw [skipped]; exact long),skipped,protocol]
  · by_cases v6 : ethertypeOf raw = 0x86DD
    · have delimited : Delimited raw ↔ Fits 54 54 (54 + (word16 raw 18).toNat) (byteAt raw 20) raw := by
        simp [Delimited,v6]
      rw [delimited,fixedEnd,protocolOf,v6,if_pos rfl,if_pos rfl]
      apply exact_of_kind
      · intro raw' same
        have kind : ethertypeOf raw' = 0x86DD := (same.word16 (by omega)).trans v6
        rw [agreesWithWire_by_kind,same.headers 20 (by omega),same.word16 (i:=18) (by omega),kind]
        simp
      · intro parsed
        obtain ⟨packet,done⟩ := parsed
        rcases parse_needs_ip parser now done (.inr v6) with ⟨kind,_⟩ | ⟨_,long⟩
        · exact absurd kind v4
        · exact long
      · intro long
        obtain ⟨ip,network,skipped,_,_,protocol⟩ := parseIpHeader_v6 v6 long
        rw [parse_succeeds parser now network (by rw [skipped]; exact long),skipped,protocol]
    · refine iff_of_true ?_ (fun _ => ⟨fun kind => absurd kind v4,fun kind => absurd kind v6⟩)
      intro raw' same
      have fixed : 34 ≤ fixedEnd raw := by rw [fixedEnd]; split <;> omega
      have kind : ethertypeOf raw' = ethertypeOf raw := same.word16 (by omega)
      rw [agreesWithWire_by_kind,kind]
      exact ⟨fun kind => absurd kind v4,fun kind => absurd kind v6⟩

-- An IPv4 header of 24 bytes, with four bytes of options, before a UDP header.
def framed : List UInt8 :=
  List.replicate 12 0 ++ [0x08,0x00] ++
    [0x46,0,0,32,0,0,0,0,64,17,0,0,10,0,0,1,10,0,0,2,1,1,1,0] ++ [0,53,0,53,0,8,0,0]

-- The option bytes are taken for the ports.
theorem options_read_as_ports : ¬ ∀ raw, AgreesWithWire {} 0 raw := by
  intro all
  have parsed : ∃ packet, ((PacketParser.parse {} 0 framed).1 = .ok packet ∧
      packet.ipHeader.map IpHeader.wireLength = some 24 ∧
      parseTransportHeader 17 (framed.drop 38) ≠ .ok packet.transportHeader) ∧
      packet.ipHeader.map IpHeader.protocol = some 17 := by
    refine ⟨_,⟨rfl,rfl,?_⟩,rfl⟩
    decide
  obtain ⟨packet,⟨done,length,misread⟩,protocol⟩ := parsed
  obtain ⟨ip,found,length⟩ := Option.map_eq_some_iff.mp length
  rw [found] at protocol
  have agrees := (all framed packet ip done found).1
  rw [length,Option.some.inj protocol] at agrees
  exact misread agrees

end Packets

end PhantomFlow.Network
