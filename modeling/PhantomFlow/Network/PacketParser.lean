import Mathlib.Data.List.Basic

namespace PhantomFlow.Network

structure EthernetHeader where
  srcMac : List UInt8
  dstMac : List UInt8
  ethertype : UInt16
deriving DecidableEq

structure Ipv4Header where
  version : UInt8
  headerLength : UInt8
  typeOfService : UInt8
  totalLength : UInt16
  identification : UInt16
  flags : UInt8
  fragmentOffset : UInt16
  timeToLive : UInt8
  protocol : UInt8
  headerChecksum : UInt16
  srcAddr : List UInt8
  dstAddr : List UInt8
deriving DecidableEq

structure Ipv6Header where
  version : UInt8
  trafficClass : UInt8
  flowLabel : UInt32
  payloadLength : UInt16
  nextHeader : UInt8
  hopLimit : UInt8
  srcAddr : List UInt8
  dstAddr : List UInt8
deriving DecidableEq

inductive IpHeader where
  | v4 (header : Ipv4Header)
  | v6 (header : Ipv6Header)
deriving DecidableEq

structure TcpHeader where
  srcPort : UInt16
  dstPort : UInt16
  sequenceNumber : UInt32
  acknowledgmentNumber : UInt32
  headerLength : UInt8
  flags : UInt8
  windowSize : UInt16
  checksum : UInt16
  urgentPointer : UInt16
deriving DecidableEq

structure UdpHeader where
  srcPort : UInt16
  dstPort : UInt16
  length : UInt16
  checksum : UInt16
deriving DecidableEq

structure IcmpHeader where
  icmpType : UInt8
  code : UInt8
  checksum : UInt16
  restOfHeader : UInt32
deriving DecidableEq

inductive TransportHeader where
  | tcp (header : TcpHeader)
  | udp (header : UdpHeader)
  | icmp (header : IcmpHeader)
deriving DecidableEq

inductive ParseError where
  | insufficientData
  | invalidFormat
  | unsupportedProtocol (protocol : UInt8)
deriving DecidableEq

structure Packet where
  id : ℕ
  timestamp : ℕ
  ethernetHeader : EthernetHeader
  ipHeader : Option IpHeader
  transportHeader : Option TransportHeader
  payload : List UInt8
  metadata : List (String × String) := []
deriving DecidableEq

structure PacketParser where
  packetCount : ℕ := 0
  parseErrors : ℕ := 0
deriving DecidableEq

-- Read only below the length that was checked.
def byteAt (data : List UInt8) (i : ℕ) : UInt8 := data.getD i 0

def be16 (high low : UInt8) : UInt16 := UInt16.ofNat (256 * high.toNat + low.toNat)
def be32 (a b c d : UInt8) : UInt32 :=
  UInt32.ofNat (16777216 * a.toNat + 65536 * b.toNat + 256 * c.toNat + d.toNat)

def word16 (data : List UInt8) (i : ℕ) : UInt16 := be16 (byteAt data i) (byteAt data (i + 1))
def word32 (data : List UInt8) (i : ℕ) : UInt32 :=
  be32 (byteAt data i) (byteAt data (i + 1)) (byteAt data (i + 2)) (byteAt data (i + 3))
def octets (data : List UInt8) (i n : ℕ) : List UInt8 := (List.range n).map (fun k => byteAt data (i + k))

def parseEthernetHeader (data : List UInt8) : Except ParseError EthernetHeader :=
  if data.length < 14 then .error .insufficientData
  else .ok { dstMac := octets data 0 6, srcMac := octets data 6 6, ethertype := word16 data 12 }

def parseIpv4Header (data : List UInt8) : Except ParseError IpHeader :=
  if data.length < 20 then .error .insufficientData
  else .ok (.v4 {
    version := (byteAt data 0 >>> 4) &&& 0x0F
    headerLength := (byteAt data 0 &&& 0x0F) * 4
    typeOfService := byteAt data 1
    totalLength := word16 data 2
    identification := word16 data 4
    flags := (byteAt data 6 >>> 5) &&& 0x07
    fragmentOffset := be16 (byteAt data 6 &&& 0x1F) (byteAt data 7)
    timeToLive := byteAt data 8
    protocol := byteAt data 9
    headerChecksum := word16 data 10
    srcAddr := octets data 12 4
    dstAddr := octets data 16 4 })

def parseIpv6Header (data : List UInt8) : Except ParseError IpHeader :=
  if data.length < 40 then .error .insufficientData
  else .ok (.v6 {
    version := (byteAt data 0 >>> 4) &&& 0x0F
    trafficClass := ((byteAt data 0 &&& 0x0F) <<< 4) ||| ((byteAt data 1 >>> 4) &&& 0x0F)
    flowLabel := be32 0 (byteAt data 1 &&& 0x0F) (byteAt data 2) (byteAt data 3)
    payloadLength := word16 data 4
    nextHeader := byteAt data 6
    hopLimit := byteAt data 7
    srcAddr := octets data 8 16
    dstAddr := octets data 24 16 })

def parseTcpHeader (data : List UInt8) : Except ParseError TcpHeader :=
  if data.length < 20 then .error .insufficientData
  else .ok {
    srcPort := word16 data 0
    dstPort := word16 data 2
    sequenceNumber := word32 data 4
    acknowledgmentNumber := word32 data 8
    headerLength := (byteAt data 12 >>> 4) * 4
    flags := byteAt data 13
    windowSize := word16 data 14
    checksum := word16 data 16
    urgentPointer := word16 data 18 }

def parseUdpHeader (data : List UInt8) : Except ParseError UdpHeader :=
  if data.length < 8 then .error .insufficientData
  else .ok { srcPort := word16 data 0, dstPort := word16 data 2, length := word16 data 4, checksum := word16 data 6 }

def parseIcmpHeader (data : List UInt8) : Except ParseError IcmpHeader :=
  if data.length < 8 then .error .insufficientData
  else .ok { icmpType := byteAt data 0, code := byteAt data 1, checksum := word16 data 2, restOfHeader := word32 data 4 }

def parseTransportHeader (protocol : UInt8) (data : List UInt8) : Except ParseError (Option TransportHeader) :=
  if protocol = 6 then (parseTcpHeader data).map (fun header => some (.tcp header))
  else if protocol = 17 then (parseUdpHeader data).map (fun header => some (.udp header))
  else if protocol = 1 then (parseIcmpHeader data).map (fun header => some (.icmp header))
  else .ok none

def parseIpHeader (ethertype : UInt16) (data : List UInt8) : Except ParseError (Option IpHeader) :=
  if ethertype = 0x0800 then (parseIpv4Header data).map some
  else if ethertype = 0x86DD then (parseIpv6Header data).map some
  else .ok none

-- How far `parse` moves on past a header, whatever length the header gives.
def IpHeader.skipped : IpHeader → ℕ
  | .v4 _ => 20
  | .v6 _ => 40

def TransportHeader.skipped : TransportHeader → ℕ
  | .tcp _ => 20
  | .udp _ => 8
  | .icmp _ => 8

def IpHeader.protocol : IpHeader → UInt8
  | .v4 header => header.protocol
  | .v6 header => header.nextHeader

def parsePacket (id timestamp : ℕ) (rawData : List UInt8) : Except ParseError Packet := do
  let ethernetHeader ← parseEthernetHeader (rawData.take 14)
  let ipHeader ← parseIpHeader ethernetHeader.ethertype (rawData.drop 14)
  let offset := 14 + (ipHeader.map IpHeader.skipped).getD 0
  let transportHeader ←
    match ipHeader with
    | some ip => parseTransportHeader ip.protocol (rawData.drop offset)
    | none => .ok none
  let offset := offset + (transportHeader.map TransportHeader.skipped).getD 0
  let payload := if offset < rawData.length then rawData.drop offset else []
  return { id, timestamp, ethernetHeader, ipHeader, transportHeader, payload }

-- Only the first length check counts an error.
def PacketParser.parse (parser : PacketParser) (now : ℕ) (rawData : List UInt8) :
    Except ParseError Packet × PacketParser :=
  let count := parser.packetCount + 1
  if rawData.length < 14 then
    (.error .insufficientData,{ parser with packetCount := count, parseErrors := parser.parseErrors + 1 })
  else (parsePacket count now rawData,{ parser with packetCount := count })

end PhantomFlow.Network
