import Mathlib.Data.List.Basic

namespace PhantomFlow.Compression

structure Lz4Compressor where
  compressionLevel : UInt32 := 1
  blockSize : ℕ := 64 * 1024

inductive CompressionError where
  | io (error : String)
  | compressionFailed (message : String)
  | decompressionFailed (message : String)
  | invalidFormat
deriving DecidableEq

def magic : List UInt8 := [0x4C,0x5A,0x34,0x01]

def toLeBytes (n : UInt32) : List UInt8 :=
  [n.toUInt8,(n >>> 8).toUInt8,(n >>> 16).toUInt8,(n >>> 24).toUInt8]

-- The inner loop: the length of the run of `byte`, of which `count` bytes are seen.
def countRun (byte : UInt8) (count : ℕ) : List UInt8 → ℕ
  | [] => count
  | next :: rest => if next = byte ∧ count < 255 then countRun byte (count + 1) rest else count

def encodeRun (byte : UInt8) (count : ℕ) : List UInt8 :=
  if 3 < count then [0xFF,UInt8.ofNat count,byte] else List.replicate count byte

-- The outer loop on the bytes from `i` on; `skip` bytes of them belong to a run
-- already written.
def encodeRuns : ℕ → List UInt8 → List UInt8
  | _,[] => []
  | skip + 1,_ :: rest => encodeRuns skip rest
  | 0,byte :: rest =>
    let count := countRun byte 1 rest
    encodeRun byte count ++ encodeRuns (count - 1) rest

-- An escape needs two more bytes; without them 0xFF is a byte like the others.
def decodeRuns : List UInt8 → List UInt8
  | byte :: count :: repeated :: rest =>
    if byte = 0xFF then List.replicate count.toNat repeated ++ decodeRuns rest
    else byte :: decodeRuns (count :: repeated :: rest)
  | byte :: rest => byte :: decodeRuns rest
  | [] => []

namespace Lz4Compressor

def simpleCompress (_ : Lz4Compressor) (data : List UInt8) : List UInt8 :=
  magic ++ toLeBytes (UInt32.ofNat data.length) ++ encodeRuns 0 data

-- The stored size only sets the capacity of the output.
def simpleDecompress (_ : Lz4Compressor) (data : List UInt8) : List UInt8 :=
  if data.length < 8 then []
  else if data.take 4 ≠ magic then []
  else decodeRuns (data.drop 8)

def compress (compressor : Lz4Compressor) (data : List UInt8) : Except CompressionError (List UInt8) :=
  if data.isEmpty then .ok [] else .ok (compressor.simpleCompress data)

def decompress (compressor : Lz4Compressor) (data : List UInt8) : Except CompressionError (List UInt8) :=
  if data.isEmpty then .ok [] else .ok (compressor.simpleDecompress data)

def withLevel (level : UInt32) : Lz4Compressor where
  compressionLevel := level

-- What the reader's calls return, up to the first that returns nothing. Every one is
-- written as a frame of its own; the writer takes them all.
def compressStream (compressor : Lz4Compressor) :
    List (Except String (List UInt8)) → Except CompressionError ℕ × List UInt8
  | [] => (.ok 0,[])
  | .error error :: _ => (.error (.io error),[])
  | .ok bytes :: reads =>
    if bytes.isEmpty then (.ok 0,[])
    else match compressor.compress bytes with
      | .error error => (.error error,[])
      | .ok compressed =>
        let later := compressStream compressor reads
        (later.1.map (compressed.length + ·),compressed ++ later.2)

end Lz4Compressor

end PhantomFlow.Compression
