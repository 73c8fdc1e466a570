import PhantomFlow.Library.OrderedMap
import PhantomFlow.Network.PacketParser

namespace PhantomFlow.Network
open Library

inductive ProtocolType where
  | http | https | tcp | udp | icmp | dns | ftp | ssh | smtp | unknown
deriving DecidableEq

-- The constants are counted from zero.
def ProtocolType.number : ProtocolType → ℕ
  | .http => 0
  | .https => 1
  | .tcp => 2
  | .udp => 3
  | .icmp => 4
  | .dns => 5
  | .ftp => 6
  | .ssh => 7
  | .smtp => 8
  | .unknown => 9

inductive Field where
  | text (bytes : List UInt8)
  | uint8 (value : UInt8)
  | uint16 (value : UInt16)
  | uint32 (value : UInt32)
deriving DecidableEq

structure ProtocolResult where
  type : ProtocolType
  valid : Bool := false
  data : OrderedMap String Field := .empty
  metadata : OrderedMap (List UInt8) (List UInt8) := .empty
  timestamp : ℤ
  size : ℕ
  source : String := ""
  destination : String := ""

-- A result comes with the text of the error, where there is one.
structure ProtocolProcessor where
  process : ℤ → List UInt8 → ProtocolResult × Option String
  getType : ProtocolType
  validate : List UInt8 → Bool

def ascii (text : String) : List UInt8 := text.toList.map (fun c => UInt8.ofNat c.toNat)

def hasPrefix (data : List UInt8) (text : String) : Bool := (ascii text).isPrefixOf data

section Bytes

def splitLines (line : List UInt8) : List UInt8 → List (List UInt8)
  | [] => [line]
  | [b] => [line ++ [b]]
  | b :: c :: rest => if b = 13 ∧ c = 10 then line :: splitLines [] rest else splitLines (line ++ [b]) (c :: rest)

-- The encodings of the characters that count as space.
def spaces : List (List UInt8) :=
  [[9],[10],[11],[12],[13],[32],[0xC2,0x85],[0xC2,0xA0],[0xE1,0x9A,0x80],
    [0xE2,0x80,0x80],[0xE2,0x80,0x81],[0xE2,0x80,0x82],[0xE2,0x80,0x83],[0xE2,0x80,0x84],[0xE2,0x80,0x85],
    [0xE2,0x80,0x86],[0xE2,0x80,0x87],[0xE2,0x80,0x88],[0xE2,0x80,0x89],[0xE2,0x80,0x8A],
    [0xE2,0x80,0xA8],[0xE2,0x80,0xA9],[0xE2,0x80,0xAF],[0xE2,0x81,0x9F],[0xE3,0x80,0x80]]

def spaceWidth (spaces : List (List UInt8)) (data : List UInt8) : ℕ :=
  ((spaces.find? (fun space => space.isPrefixOf data)).map List.length).getD 0

def withField (field : List UInt8) (fields : List (List UInt8)) : List (List UInt8) :=
  if field = [] then fields else field :: fields

def fieldsFrom (skip : ℕ) (field : List UInt8) : List UInt8 → List (List UInt8)
  | [] => withField field []
  | b :: rest =>
    if 0 < skip then fieldsFrom (skip - 1) field rest
    else
      match spaceWidth spaces (b :: rest) with
      | 0 => fieldsFrom 0 (field ++ [b]) rest
      | width + 1 => withField field (fieldsFrom width [] rest)

def fields (data : List UInt8) : List (List UInt8) := fieldsFrom 0 [] data

def trimFront (spaces : List (List UInt8)) (skip : ℕ) : List UInt8 → List UInt8
  | [] => []
  | b :: rest =>
    if 0 < skip then trimFront spaces (skip - 1) rest
    else
      match spaceWidth spaces (b :: rest) with
      | 0 => b :: rest
      | width + 1 => trimFront spaces width rest

def trimSpace (data : List UInt8) : List UInt8 :=
  (trimFront (spaces.map List.reverse) 0 (trimFront spaces 0 data).reverse).reverse

theorem splitLines_ne_nil (line data : List UInt8) : splitLines line data ≠ [] := by
  fun_induction splitLines line data with
  | case1 => exact List.cons_ne_nil _ _
  | case2 => exact List.cons_ne_nil _ _
  | case3 => exact List.cons_ne_nil _ _
  | case4 line b c rest _ ih => exact ih

end Bytes

namespace HTTPProcessor

def validate (data : List UInt8) : Bool :=
  hasPrefix data "GET " ||
  hasPrefix data "POST " ||
  hasPrefix data "PUT " ||
  hasPrefix data "DELETE " ||
  hasPrefix data "HEAD " ||
  hasPrefix data "OPTIONS "

def requestData (requestLine : List UInt8) : OrderedMap String Field :=
  match fields requestLine with
  | method :: path :: version :: _ =>
    ((OrderedMap.empty.set "method" (.text method)).set "path" (.text path)).set "version" (.text version)
  | _ => .empty

-- The headers end at the first empty line; a line that has no colon, or begins with
-- one, says nothing.
def parseHeaders (metadata : OrderedMap (List UInt8) (List UInt8)) :
    List (List UInt8) → OrderedMap (List UInt8) (List UInt8)
  | [] => metadata
  | line :: rest =>
    if line = [] then metadata
    else
      let colonIndex := line.idxOf 58
      if 0 < colonIndex ∧ colonIndex < line.length then
        parseHeaders (metadata.set (line.take colonIndex) (trimSpace (line.drop (colonIndex + 1)))) rest
      else parseHeaders metadata rest

def process (now : ℤ) (data : List UInt8) : ProtocolResult × Option String :=
  match splitLines [] data with
  | [] => ({ type := .http, timestamp := now, size := data.length },some "invalid HTTP data")
  | requestLine :: headers =>
    ({ type := .http
       data := requestData requestLine
       metadata := parseHeaders .empty headers
       valid := validate data
       timestamp := now
       size := data.length },none)

end HTTPProcessor

def portMetadata (data : List UInt8) : OrderedMap (List UInt8) (List UInt8) :=
  (OrderedMap.empty.set (ascii "source") (ascii (":" ++ toString (word16 data 0).toNat))).set
    (ascii "destination") (ascii (":" ++ toString (word16 data 2).toNat))

def headerLong (headerLength : ℕ) (data : List UInt8) : Bool := headerLength ≤ data.length

-- What the three processors of binary headers share: the check of the length, and the
-- same length once more for the validity.
def processHeader (type : ProtocolType) (headerLength : ℕ) (tooShort : String)
    (readData : List UInt8 → OrderedMap String Field)
    (readMetadata : List UInt8 → OrderedMap (List UInt8) (List UInt8)) (now : ℤ) (data : List UInt8) :
    ProtocolResult × Option String :=
  if data.length < headerLength then
    ({ type := type, timestamp := now, size := data.length },some tooShort)
  else
    ({ type := type
       data := readData data
       metadata := readMetadata data
       valid := headerLong headerLength data
       timestamp := now
       size := data.length },none)

namespace TCPProcessor

def validate (data : List UInt8) : Bool := headerLong 20 data

def headerData (data : List UInt8) : OrderedMap String Field :=
  .ofList [("src_port",.uint16 (word16 data 0)),("dst_port",.uint16 (word16 data 2)),
    ("seq_num",.uint32 (word32 data 4)),("ack_num",.uint32 (word32 data 8)),
    ("flags",.uint8 (byteAt data 13)),("window",.uint16 (word16 data 14))]

def process (now : ℤ) (data : List UInt8) : ProtocolResult × Option String :=
  processHeader .tcp 20 "TCP header too short" headerData portMetadata now data

end TCPProcessor

namespace UDPProcessor

def validate (data : List UInt8) : Bool := headerLong 8 data

def headerData (data : List UInt8) : OrderedMap String Field :=
  .ofList [("src_port",.uint16 (word16 data 0)),("dst_port",.uint16 (word16 data 2)),
    ("length",.uint16 (word16 data 4)),("checksum",.uint16 (word16 data 6))]

def process (now : ℤ) (data : List UInt8) : ProtocolResult × Option String :=
  processHeader .udp 8 "UDP header too short" headerData portMetadata now data

end UDPProcessor

namespace DNSProcessor

def validate (data : List UInt8) : Bool := headerLong 12 data

def headerData (data : List UInt8) : OrderedMap String Field :=
  .ofList [("transaction_id",.uint16 (word16 data 0)),("flags",.uint16 (word16 data 2)),
    ("questions",.uint16 (word16 data 4)),("answers",.uint16 (word16 data 6))]

def process (now : ℤ) (data : List UInt8) : ProtocolResult × Option String :=
  processHeader .dns 12 "DNS header too short" headerData (fun _ => .empty) now data

end DNSProcessor

def httpProcessor : ProtocolProcessor := ⟨HTTPProcessor.process,.http,HTTPProcessor.validate⟩
def tcpProcessor : ProtocolProcessor := ⟨TCPProcessor.process,.tcp,TCPProcessor.validate⟩
def udpProcessor : ProtocolProcessor := ⟨UDPProcessor.process,.udp,UDPProcessor.validate⟩
def dnsProcessor : ProtocolProcessor := ⟨DNSProcessor.process,.dns,DNSProcessor.validate⟩

structure ProtocolHandler where
  handlers : OrderedMap ProtocolType ProtocolProcessor

-- The tests are made in this order; the third is behind the second.
def detectProtocol (data : List UInt8) : ProtocolType :=
  if data.length = 0 then .unknown
  else if hasPrefix data "GET " || hasPrefix data "POST " || hasPrefix data "PUT " || hasPrefix data "DELETE " then .http
  else if 12 ≤ data.length then .dns
  else if 20 ≤ data.length then .tcp
  else if 8 ≤ data.length then .udp
  else .unknown

namespace ProtocolHandler

def registerProcessor (handler : ProtocolHandler) (processor : ProtocolProcessor) : ProtocolHandler :=
  ⟨handler.handlers.set processor.getType processor⟩

def newProtocolHandler : ProtocolHandler :=
  [httpProcessor,tcpProcessor,udpProcessor,dnsProcessor].foldl registerProcessor ⟨.empty⟩

-- `src` and `dst` are the printed addresses; a failed processing leaves them out.
def processPacket (handler : ProtocolHandler) (now : ℤ) (data : List UInt8) (src dst : String) :
    ProtocolResult × Option String :=
  match handler.handlers.get (detectProtocol data) with
  | none =>
    ({ type := .unknown, timestamp := now, size := data.length, source := src, destination := dst },
      some ("no processor for protocol type " ++ toString (detectProtocol data).number))
  | some processor =>
    match processor.process now data with
    | (result,some err) => (result,some err)
    | (result,none) => ({ result with source := src, destination := dst },none)

def getSupportedProtocols (handler : ProtocolHandler) : List ProtocolType := handler.handlers.keys

def validatePacket (handler : ProtocolHandler) (data : List UInt8) (protocolType : ProtocolType) : Bool :=
  match handler.handlers.get protocolType with
  | none => false
  | some processor => processor.validate data

theorem newProtocolHandler_get (type : ProtocolType) : newProtocolHandler.handlers.get type =
    match type with
    | .http => some httpProcessor
    | .tcp => some tcpProcessor
    | .udp => some udpProcessor
    | .dns => some dnsProcessor
    | _ => none := by
  cases type <;> rfl

theorem registered_cases (registered : newProtocolHandler.handlers.get type = some processor) :
    type = .http ∧ processor = httpProcessor ∨ type = .tcp ∧ processor = tcpProcessor ∨
      type = .udp ∧ processor = udpProcessor ∨ type = .dns ∧ processor = dnsProcessor := by
  rw [newProtocolHandler_get] at registered
  cases type with
  | http => exact Or.inl ⟨rfl,(Option.some.inj registered).symm⟩
  | tcp => exact Or.inr (Or.inl ⟨rfl,(Option.some.inj registered).symm⟩)
  | udp => exact Or.inr (Or.inr (Or.inl ⟨rfl,(Option.some.inj registered).symm⟩))
  | dns => exact Or.inr (Or.inr (Or.inr ⟨rfl,(Option.some.inj registered).symm⟩))
  | _ => cases registered

end ProtocolHandler

theorem HTTPProcessor.process_done (now : ℤ) (data : List UInt8) : (HTTPProcessor.process now data).2 = none := by
  unfold HTTPProcessor.process
  split
  · rename_i empty
    exact absurd empty (splitLines_ne_nil [] data)
  · rfl

theorem processHeader_done (type : ProtocolType) (headerLength : ℕ) (tooShort : String)
    (readData : List UInt8 → OrderedMap String Field)
    (readMetadata : List UInt8 → OrderedMap (List UInt8) (List UInt8)) (now : ℤ) (data : List UInt8) :
    (processHeader type headerLength tooShort readData readMetadata now data).2 = none ↔
      headerLong headerLength data = true := by
  unfold processHeader headerLong
  rw [decide_eq_true_iff]
  split
  · rename_i short
    exact ⟨fun err => absurd err (Option.some_ne_none _),fun long => absurd short (Nat.not_lt.mpr long)⟩
  · rename_i long
    exact ⟨fun _ => Nat.not_lt.mp long,fun _ => rfl⟩

theorem ProtocolHandler.processes_validated (now : ℤ) (data : List UInt8)
    (registered : newProtocolHandler.handlers.get type = some processor) (validated : processor.validate data = true) :
    (processor.process now data).2 = none := by
  obtain ⟨_,rfl⟩ | ⟨_,rfl⟩ | ⟨_,rfl⟩ | ⟨_,rfl⟩ := registered_cases registered
  · exact HTTPProcessor.process_done now data
  · exact (processHeader_done _ _ _ _ _ now data).mpr validated
  · exact (processHeader_done _ _ _ _ _ now data).mpr validated
  · exact (processHeader_done _ _ _ _ _ now data).mpr validated

end PhantomFlow.Network
