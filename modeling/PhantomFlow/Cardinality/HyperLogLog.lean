import Mathlib.Algebra.Order.Ring.Rat
import PhantomFlow.Library.JsNumber
import PhantomFlow.Library.OrderedMap
import PhantomFlow.Cardinality.HashFunctions

namespace PhantomFlow.Cardinality
open Library

structure HyperLogLogConfig where
  precision : ℕ
  hashFunction : HashType
  biasCorrection : Bool
  sparseMode : Bool
  maxMemoryMB : ℚ
  deriving DecidableEq

inductive HLLRegisters where
  | sparse (precision : ℕ) (registers : OrderedMap ℕ ℕ)
  | dense (registers : List ℕ)
  deriving DecidableEq

namespace HLLRegisters

def get : HLLRegisters → ℕ → ℕ
  | .sparse _ registers,index => (registers.get index).getD 0
  | .dense registers,index => registers.getD index 0

def set : HLLRegisters → ℕ → ℕ → HLLRegisters
  | .sparse precision registers,index,value =>
    .sparse precision (if 0 < value then registers.set index value else registers.delete index)
  | .dense registers,index,value => .dense (registers.set index value)

def size : HLLRegisters → ℕ
  | .sparse precision _ => 2 ^ precision
  | .dense registers => registers.length

def isSparse : HLLRegisters → Bool
  | .sparse _ _ => true
  | .dense _ => false

def toDense : HLLRegisters → List ℕ
  | .sparse precision registers =>
    registers.entries.foldl (fun dense entry => dense.set entry.1 entry.2) (List.replicate (2 ^ precision) 0)
  | .dense registers => registers

def shouldConvertToDense : HLLRegisters → Bool
  | .sparse precision registers => decide ((registers.size : ℚ) / (2 ^ precision : ℕ) > 1/4)
  | .dense _ => false

def raise (registers : HLLRegisters) (bucket leadingZeros : ℕ) : HLLRegisters :=
  if registers.get bucket < leadingZeros then registers.set bucket leadingZeros else registers

def create (precision : ℕ) (sparseMode : Bool) : HLLRegisters :=
  if sparseMode then .sparse precision .empty else .dense (List.replicate (2 ^ precision) 0)

end HLLRegisters

structure HyperLogLogMetrics (K : Type) where
  totalAdds : ℕ
  totalQueries : ℕ
  currentCardinality : JsNumber K

structure HyperLogLog (K : Type) where
  config : HyperLogLogConfig
  registers : HLLRegisters
  metrics : HyperLogLogMetrics K

structure CardinalityEstimate (K : Type) where
  count : JsNumber K
  precision : ℕ
  errorRate : K
  confidence : K
  isSparse : Bool

-- `registers` is the map of a sparse instance or the array of a dense one.
inductive RegisterData where
  | map (entries : OrderedMap ℕ ℕ)
  | array (values : List ℕ)

structure HLLPersistenceData (K : Type) where
  config : HyperLogLogConfig
  registers : RegisterData
  sparseMode : Bool
  cardinality : JsNumber K
  totalAdds : ℕ
  version : String

def validateConfig (config : HyperLogLogConfig) : Except String Unit :=
  if config.precision < 4 ∨ 16 < config.precision then throw "Precision must be between 4 and 16 bits"
  else if config.maxMemoryMB ≤ 0 then throw "Max memory must be positive"
  else pure ()

def bucketOf (hashFunction : HashType) (precision : ℕ) (element : String) : ℕ :=
  extractBucket (createHashFunction hashFunction element) precision

def rankOf (hashFunction : HashType) (precision : ℕ) (element : String) : ℕ :=
  getLeadingZeroCount (createHashFunction hashFunction element) precision

namespace HyperLogLog
variable {K : Type} [Field K] [LinearOrder K]

def initial (config : HyperLogLogConfig) : HyperLogLog K where
  config
  registers := .create config.precision config.sparseMode
  metrics := ⟨0,0,.finite 0⟩

def create (config : HyperLogLogConfig) : Except String (HyperLogLog K) := do
  validateConfig config
  return initial config

variable (hll : HyperLogLog K)

def convertToDense : HyperLogLog K :=
  if hll.registers.isSparse then { hll with registers := .dense hll.registers.toDense } else hll

def add (element : String) : HyperLogLog K :=
  let bucket := bucketOf hll.config.hashFunction hll.config.precision element
  let leadingZeros := rankOf hll.config.hashFunction hll.config.precision element
  let updated := { hll with registers := hll.registers.raise bucket leadingZeros }
  let settled := if updated.registers.shouldConvertToDense then updated.convertToDense else updated
  { settled with metrics := { settled.metrics with totalAdds := settled.metrics.totalAdds + 1 } }

def mergeRegisters (registers other : HLLRegisters) : HLLRegisters :=
  (List.range registers.size).foldl (fun registers i => registers.set i (max (registers.get i) (other.get i)))
    registers

-- The merged instance, and the other one, which may have been converted.
def merge (other : HyperLogLog K) : Except String (HyperLogLog K × HyperLogLog K) :=
  if hll.config.precision ≠ other.config.precision
  then throw "Cannot merge HyperLogLogs with different precisions"
  else
    let bothSparse := hll.registers.isSparse && other.registers.isSparse
    let this := if bothSparse then hll else hll.convertToDense
    let other := if bothSparse then other else other.convertToDense
    return ({ this with
      registers := mergeRegisters this.registers other.registers
      metrics := { this.metrics with totalAdds := this.metrics.totalAdds + other.metrics.totalAdds } },other)

def clear : HyperLogLog K :=
  { hll with
    registers := .create hll.config.precision hll.config.sparseMode
    metrics := { hll.metrics with totalAdds := 0, currentCardinality := .finite 0 } }

def serialize : HLLPersistenceData K where
  config := hll.config
  registers := match hll.registers with
    | .sparse _ registers => .map registers
    | .dense registers => .array registers
  sparseMode := hll.registers.isSparse
  cardinality := hll.metrics.currentCardinality
  totalAdds := hll.metrics.totalAdds
  version := "1.0.0"

def restoreRegisters (data : HLLPersistenceData K) (initial : HLLRegisters) : HLLRegisters :=
  match data.registers with
  | .map entries =>
    if data.sparseMode
    then entries.entries.foldl (fun registers entry => registers.set entry.1 entry.2)
      (.sparse data.config.precision .empty)
    else initial
  | .array values => .dense values

def deserialize (data : HLLPersistenceData K) : Except String (HyperLogLog K) := do
  let hll : HyperLogLog K ← create data.config
  return { hll with
    registers := restoreRegisters data hll.registers
    metrics := { hll.metrics with totalAdds := data.totalAdds, currentCardinality := data.cardinality } }

section Estimate
variable (math : JsMath K)

def registerCount : K := ((2 ^ hll.config.precision : ℕ) : K)

def alpha : K :=
  match hll.config.precision with
  | 4 => lit (673/1000)
  | 5 => lit (697/1000)
  | 6 => lit (709/1000)
  | _ => lit (7213/10000) / (1 + lit (1079/1000) / hll.registerCount)

def calculateRawEstimate : K :=
  let sum := ((List.range (2 ^ hll.config.precision)).map (fun i => (1 / lit 2 ^ hll.registers.get i : K))).sum
  hll.alpha * hll.registerCount * hll.registerCount / sum

def zeros : ℕ := (List.range (2 ^ hll.config.precision)).countP (fun i => hll.registers.get i = 0)

def applyBiasCorrection (rawEstimate : K) : JsNumber K :=
  if rawEstimate ≤ lit (5/2) * hll.registerCount ∧ hll.zeros ≠ 0
  then ((JsNumber.finite (hll.registerCount / hll.zeros)).logarithm math.log).scale hll.registerCount
  else if rawEstimate ≤ lit (1/30) * lit 2 ^ 32 then .finite rawEstimate
  else (((JsNumber.finite (1 - rawEstimate / lit 2 ^ 32)).logarithm math.log).scale (lit 2 ^ 32)).neg

def getTheoreticalError : K := lit (104/100) / math.sqrt hll.registerCount

def calculateConfidence (estimate : JsNumber K) : K :=
  let confidence := 1 - hll.getTheoreticalError math
  let confidence := if estimate.lt (.finite (hll.registerCount * lit (5/2))) then confidence * lit (8/10) else confidence
  let confidence := if (JsNumber.finite (lit 2 ^ 30)).lt estimate then confidence * lit (9/10) else confidence
  max (lit (1/2)) (min 1 confidence)

def estimate : JsNumber K :=
  if hll.config.biasCorrection then hll.applyBiasCorrection math hll.calculateRawEstimate
  else .finite hll.calculateRawEstimate

variable [FloorRing K]

def count : CardinalityEstimate K × HyperLogLog K :=
  ({ count := (hll.estimate math).round
     precision := hll.config.precision
     errorRate := hll.getTheoreticalError math
     confidence := hll.calculateConfidence math (hll.estimate math)
     isSparse := hll.registers.isSparse },
   { hll with metrics := { hll.metrics with
       totalQueries := hll.metrics.totalQueries + 1
       currentCardinality := hll.estimate math } })

end Estimate
end HyperLogLog
end PhantomFlow.Cardinality
