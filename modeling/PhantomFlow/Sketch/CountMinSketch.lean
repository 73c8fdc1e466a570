import Mathlib.Algebra.Order.Ring.Rat
import PhantomFlow.Library.JsInt32
import PhantomFlow.Library.JsNumber

namespace PhantomFlow.Sketch
open Library

namespace MurmurHash3
open JsInt32

def C1 : ℤ := 0xcc9e2d51
def C2 : ℤ := 0x1b873593
def R1 : ℕ := 15
def R2 : ℕ := 13
def M : ℤ := 5
def N : ℤ := 0xe6546b64

-- `(x * y & 0xffffffff) >>> 0`: the product is a double before it is masked.
def product (x y : ℤ) : ℤ := ushr (bitAnd (times x y) 0xffffffff) 0

def rotate (x : ℤ) (n : ℕ) : ℤ := ushr (bitOr (shl x n) (ushr x (32 - n))) 0

def scramble (k1 : ℤ) : ℤ := product (rotate (product k1 C1) R1) C2

def block (h1 k1 : ℤ) : ℤ :=
  ushr (bitAnd (times (rotate (bitXor h1 (scramble k1)) R2) M) 0xffffffff + N) 0

def body (h1 : ℤ) : List UInt8 → ℤ
  | b0 :: b1 :: b2 :: b3 :: rest =>
    body (block h1 (b0.toNat + 256 * b1.toNat + 65536 * b2.toNat + 16777216 * b3.toNat)) rest
  | [] => h1
  | tail => bitXor h1 (scramble (tail.foldr (fun byte k1 => bitOr (shl k1 8) byte.toNat) 0))

def finalize (h1 : ℤ) (length : ℕ) : ℤ :=
  let h1 := bitXor h1 length
  let h1 := bitXor h1 (ushr h1 16)
  let h1 := product h1 0x85ebca6b
  let h1 := bitXor h1 (ushr h1 13)
  let h1 := product h1 0xc2b2ae35
  let h1 := bitXor h1 (ushr h1 16)
  ushr h1 0

def hashBytes (data : List UInt8) (seed : ℤ) : ℕ := (finalize (body seed data) data.length).toNat

def hash (key : String) (seed : ℤ) : ℕ := hashBytes key.toUTF8.data.toList seed

end MurmurHash3

structure CountMinSketchConfig where
  width : ℕ
  depth : ℕ
  hashSeed : ℤ
  errorRate : ℚ
  confidence : ℚ
  deriving DecidableEq

structure SketchMetrics where
  totalInserts : ℕ
  totalQueries : ℕ
  memoryUsage : ℕ
  fillRatio : ℚ
  deriving DecidableEq

structure FrequencyEstimate where
  item : String
  frequency : ℚ
  confidence : ℚ
  errorBound : ℚ
  deriving DecidableEq

structure CountMinSketch where
  config : CountMinSketchConfig
  matrix : List (List ℚ)
  metrics : SketchMetrics
  deriving DecidableEq

structure SketchPersistenceData where
  config : CountMinSketchConfig
  matrix : List (List ℚ)
  totalItems : ℕ
  version : String
  deriving DecidableEq

def validateConfig (config : CountMinSketchConfig) : Except String Unit :=
  if config.width = 0 ∨ config.depth = 0 then throw "Width and depth must be positive integers"
  else if config.errorRate ≤ 0 ∨ 1 ≤ config.errorRate then throw "Error rate must be between 0 and 1"
  else if config.confidence ≤ 0 ∨ 1 ≤ config.confidence then throw "Confidence must be between 0 and 1"
  else pure ()

def initializeMatrix (config : CountMinSketchConfig) : List (List ℚ) :=
  List.replicate config.depth (List.replicate config.width 0)

def hashFunction (config : CountMinSketchConfig) (i : ℕ) (item : String) : ℕ :=
  MurmurHash3.hash item (config.hashSeed + i) % config.width

def cell (matrix : List (List ℚ)) (i j : ℕ) : ℚ := (matrix.getD i []).getD j 0

def addToCell (matrix : List (List ℚ)) (i j : ℕ) (count : ℚ) : List (List ℚ) :=
  matrix.modify i (fun row => row.modify j (· + count))

def mathE : ℚ := 6121026514868073 / 2 ^ 51

-- `random` is the draw of `Math.random()`. The quotients are finite for the rates
-- and confidences that `validateConfig` accepts.
def createOptimalConfig (math : JsMath ℚ) (random errorRate confidence : ℚ) (maxMemoryBytes : Option ℚ) :
    CountMinSketchConfig :=
  let width := ⌈mathE / errorRate⌉.toNat
  let depth := ⌈math.log (1 / (1 - confidence))⌉.toNat
  let hashSeed := ⌊random * 1000000⌋
  let estimatedMemory : ℚ := width * depth * 4
  let limit := maxMemoryBytes.getD 0
  if limit ≠ 0 ∧ limit < estimatedMemory then
    let scaleFactor := math.sqrt (limit / estimatedMemory)
    let scaledWidth := (max 1 ⌊width * scaleFactor⌋).toNat
    let scaledDepth := (max 1 ⌊depth * scaleFactor⌋).toNat
    ⟨scaledWidth,scaledDepth,hashSeed,errorRate * (width / scaledWidth),confidence * (depth / scaledDepth)⟩
  else ⟨width,depth,hashSeed,errorRate,confidence⟩

namespace CountMinSketch

def memoryUsageOf (config : CountMinSketchConfig) : ℕ := config.width * config.depth * 4 + 1024

def initial (config : CountMinSketchConfig) : CountMinSketch where
  config
  matrix := initializeMatrix config
  metrics := ⟨0,0,memoryUsageOf config,0⟩

def create (config : CountMinSketchConfig) : Except String CountMinSketch := do
  validateConfig config
  return initial config

variable (sketch : CountMinSketch)

def updateFillRatio : CountMinSketch :=
  let positions := (List.range sketch.config.depth).flatMap (fun i =>
    (List.range sketch.config.width).map (fun j => cell sketch.matrix i j))
  let nonZeroCount := positions.countP (fun value => decide (0 < value))
  { sketch with metrics := { sketch.metrics with
    fillRatio := nonZeroCount / (sketch.config.width * sketch.config.depth : ℕ) } }

def insert (item : String) (count : ℚ) : CountMinSketch :=
  { sketch with
    matrix := (List.range sketch.config.depth).foldl (fun matrix i =>
      addToCell matrix i (hashFunction sketch.config i item) count) sketch.matrix
    metrics := { sketch.metrics with totalInserts := sketch.metrics.totalInserts + 1 } }.updateFillRatio

def calculateErrorBound : ℚ := mathE / sketch.config.width * sketch.metrics.totalInserts

-- `Math.min(least, value)`. The running minimum starts at infinity, the absent value.
def lower (value : ℚ) : Option ℚ → ℚ
  | none => value
  | some least => min least value

def minFrequency (item : String) : Option ℚ :=
  (List.range sketch.config.depth).foldl (fun least i =>
    some (lower (cell sketch.matrix i (hashFunction sketch.config i item)) least)) none

def query (item : String) : FrequencyEstimate × CountMinSketch :=
  ({ item
     frequency := (sketch.minFrequency item).getD 0
     confidence := sketch.config.confidence
     errorBound := sketch.calculateErrorBound },
   { sketch with metrics := { sketch.metrics with totalQueries := sketch.metrics.totalQueries + 1 } })

def clear : CountMinSketch :=
  { sketch with
    matrix := initializeMatrix sketch.config
    metrics := { sketch.metrics with totalInserts := 0, fillRatio := 0 } }

def serialize : SketchPersistenceData :=
  ⟨sketch.config,sketch.matrix,sketch.metrics.totalInserts,"1.0.0"⟩

def deserialize (data : SketchPersistenceData) : Except String CountMinSketch := do
  let sketch ← create data.config
  return { sketch with
    matrix := data.matrix
    metrics := { sketch.metrics with totalInserts := data.totalItems } }.updateFillRatio

def mergeMatrix (config : CountMinSketchConfig) (matrix other : List (List ℚ)) : List (List ℚ) :=
  (List.range config.depth).foldl (fun matrix i =>
    (List.range config.width).foldl (fun matrix j => addToCell matrix i j (cell other i j)) matrix) matrix

def merge (other : CountMinSketch) : Except String CountMinSketch :=
  if sketch.config.width ≠ other.config.width ∨ sketch.config.depth ≠ other.config.depth
  then throw "Cannot merge sketches with different dimensions"
  else return { sketch with
    matrix := mergeMatrix sketch.config sketch.matrix other.matrix
    metrics := { sketch.metrics with
      totalInserts := sketch.metrics.totalInserts + other.metrics.totalInserts } }.updateFillRatio

end CountMinSketch
end PhantomFlow.Sketch
