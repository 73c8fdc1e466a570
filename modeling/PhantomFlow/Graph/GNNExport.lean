import PhantomFlow.Library.Doubles
import PhantomFlow.Library.JsNumber
import PhantomFlow.Library.Numbering

namespace PhantomFlow.Graph
open Library Library.Doubles

-- The value of a property: nothing, one of the plain values, or an object, as which the
-- driver gives every integer.
inductive PropertyValue where
  | missing
  | number (value : JsNumber ℚ)
  | text (value : String)
  | flag (value : Bool)
  | object
  deriving DecidableEq

def PropertyValue.truthy : PropertyValue → Bool
  | .missing => false
  | .number (.finite value) => value ≠ 0
  | .number .nan => false
  | .number _ => true
  | .text value => value ≠ ""
  | .flag value => value
  | .object => true

structure NodeRecord where
  elementId : String
  nodeType : Option String
  riskScore : PropertyValue
  score : PropertyValue
  failedLogins : PropertyValue
  actionCount : PropertyValue
  proxy : PropertyValue
  vpn : PropertyValue
  tor : PropertyValue

structure EdgeRecord where
  fromId : String
  toId : String
  deriving DecidableEq

structure GNNExportData where
  nodeFeatures : List (List PropertyValue)
  edgeIndex : List ℕ × List ℕ
  nodeLabels : List ℕ
  nodeTypes : List (Option String)
  trainMask : List Bool
  valMask : List Bool
  testMask : List Bool
  deriving DecidableEq

-- What a sort with a random comparison makes of the positions.
structure Shuffle (n : ℕ) where
  order : List ℕ
  arranged : order.Perm (List.range n)

section ParseFloat

def isStrWhiteSpace (c : Char) : Bool :=
  let code := c.toNat
  decide (9 ≤ code ∧ code ≤ 13 ∨ code = 32 ∨ code = 160 ∨ code = 5760 ∨ 8192 ≤ code ∧ code ≤ 8202 ∨ code = 8232 ∨
    code = 8233 ∨ code = 8239 ∨ code = 8287 ∨ code = 12288 ∨ code = 65279)

def decimal (digits : List Char) : ℕ := digits.foldl (fun n c => n * 10 + (c.toNat - 48)) 0

-- The exponent after the digits; without digits of its own it does not belong to the
-- number.
def exponentPart : List Char → ℤ
  | 'e' :: rest | 'E' :: rest =>
    match rest with
    | '-' :: rest => -(decimal (rest.takeWhile Char.isDigit))
    | '+' :: rest => decimal (rest.takeWhile Char.isDigit)
    | rest => decimal (rest.takeWhile Char.isDigit)
  | _ => 0

-- The longest beginning that is a number, rounded to a double.
def unsignedFloat (text : List Char) : JsNumber ℚ :=
  if "Infinity".toList.isPrefixOf text then .posInf
  else
    let whole := text.takeWhile Char.isDigit
    let rest := text.dropWhile Char.isDigit
    let fraction := match rest with
      | '.' :: rest => rest.takeWhile Char.isDigit
      | _ => []
    let rest := match rest with
      | '.' :: rest => rest.dropWhile Char.isDigit
      | rest => rest
    if whole = [] ∧ fraction = [] then .nan
    else
      let value : ℚ := toDouble (decimal (whole ++ fraction) * 10 ^ (exponentPart rest - fraction.length))
      if 2 ^ 1024 ≤ value then .posInf else .finite value

def parseFloatText (text : String) : JsNumber ℚ :=
  match text.toList.dropWhile isStrWhiteSpace with
  | '-' :: rest => (unsignedFloat rest).neg
  | '+' :: rest => unsignedFloat rest
  | rest => unsignedFloat rest

end ParseFloat

def parseFloat : PropertyValue → Option (JsNumber ℚ)
  | .number value => some value
  | .text value =>
    match parseFloatText value with
    | .nan => none
    | parsed => some parsed
  | _ => none

def orZero (value : Option (JsNumber ℚ)) : PropertyValue := .number (value.getD (.finite 0))

def flagged (condition : Bool) : PropertyValue := .number (.finite (if condition then 1 else 0))

def nodeFeature (record : NodeRecord) : List PropertyValue :=
  [(if record.riskScore = .missing then .number (.finite 0) else record.riskScore),orZero (parseFloat record.score),
    orZero (parseFloat record.failedLogins),orZero (parseFloat record.actionCount),flagged record.proxy.truthy,
    flagged record.vpn.truthy,flagged record.tor.truthy,flagged (record.nodeType = some "Threat"),
    flagged (record.nodeType = some "User"),flagged (record.nodeType = some "Session"),
    flagged (record.nodeType = some "IP"),flagged (record.nodeType = some "Device"),
    flagged (record.nodeType = some "Resource")]

def emptyExport : GNNExportData := ⟨[],([],[]),[],[],[],[],[]⟩

def trainCount (n : ℕ) : ℕ := ⌊toDouble (n * toDouble (7/10))⌋.toNat
def valCount (n : ℕ) : ℕ := ⌊toDouble (n * toDouble (15/100))⌋.toNat

-- A later node with the same id takes its place.
def nodeIdToIndex (nodeIds : List String) : OrderedMap String ℕ := OrderedMap.ofList nodeIds.zipIdx

def pushEdge (indices : OrderedMap String ℕ) (edgeIndex : List ℕ × List ℕ) (record : EdgeRecord) : List ℕ × List ℕ :=
  match indices.get record.fromId,indices.get record.toId with
  | some fromIdx,some toIdx => (edgeIndex.1 ++ [fromIdx],edgeIndex.2 ++ [toIdx])
  | _,_ => edgeIndex

-- The two queries give `none` where they throw.
def exportGraph (connected : Bool) (nodeResult : Option (List NodeRecord)) (edgeResult : Option (List EdgeRecord))
    (shuffle : ∀ n, Shuffle n) : GNNExportData :=
  if connected then
    match nodeResult with
    | some nodes =>
      if nodes.length = 0 then emptyExport
      else
        match edgeResult with
        | some edges =>
          let n := nodes.length
          let nodeTypes := nodes.map NodeRecord.nodeType
          let typeMap := numbering nodeTypes
          let shuffled := (shuffle n).order
          { nodeFeatures := nodes.map nodeFeature
            edgeIndex := edges.foldl (pushEdge (nodeIdToIndex (nodes.map NodeRecord.elementId))) ([],[])
            nodeLabels := nodeTypes.map (fun t => (typeMap.get t).getD 0)
            nodeTypes := nodeTypes
            trainMask := marked n (shuffled.take (trainCount n))
            valMask := marked n ((shuffled.drop (trainCount n)).take (valCount n))
            testMask := marked n (shuffled.drop (trainCount n + valCount n)) }
        | none => emptyExport
    | none => emptyExport
  else emptyExport

def Known (nodes : List NodeRecord) (edge : EdgeRecord) : Prop :=
  edge.fromId ∈ nodes.map NodeRecord.elementId ∧ edge.toId ∈ nodes.map NodeRecord.elementId

instance (nodes : List NodeRecord) (edge : EdgeRecord) : Decidable (Known nodes edge) := inferInstanceAs (Decidable (_ ∧ _))

-- The data are the part of the graph between the nodes that were read: the edges by the
-- positions of their ends, the types by consecutive numbers, and every node in exactly
-- one of the three sets.
structure Describes (nodes : List NodeRecord) (edges : List EdgeRecord) (data : GNNExportData) : Prop where
  featured : data.nodeFeatures = nodes.map nodeFeature ∧ data.nodeTypes = nodes.map NodeRecord.nodeType
  connected : data.edgeIndex.1.length = data.edgeIndex.2.length ∧
    (data.edgeIndex.1.zip data.edgeIndex.2).map (fun edge =>
      ((nodes.map NodeRecord.elementId)[edge.1]?,(nodes.map NodeRecord.elementId)[edge.2]?)) =
        (edges.filter (fun edge => decide (Known nodes edge))).map (fun edge => (some edge.fromId,some edge.toId))
  labelled : data.nodeLabels.length = nodes.length ∧
    ∀ (i j : ℕ) (one : i < data.nodeLabels.length) (two : j < data.nodeLabels.length),
      data.nodeLabels[i] = data.nodeLabels[j] ↔ data.nodeTypes[i]? = data.nodeTypes[j]?
  dense : ∀ label ∈ data.nodeLabels, ∀ smaller < label, smaller ∈ data.nodeLabels
  divided : ∀ i < nodes.length, ∃ train val test, data.trainMask[i]? = some train ∧ data.valMask[i]? = some val ∧
    data.testMask[i]? = some test ∧ train.toNat + val.toNat + test.toNat = 1
  shares : data.trainMask.count true = trainCount nodes.length ∧ data.valMask.count true = valCount nodes.length ∧
    data.testMask.count true = nodes.length - trainCount nodes.length - valCount nodes.length

section Edges
variable {nodeIds : List String}

theorem nodeIdToIndex_snoc (nodeIds : List String) (id : String) :
    nodeIdToIndex (nodeIds ++ [id]) = (nodeIdToIndex nodeIds).set id nodeIds.length := by
  unfold nodeIdToIndex OrderedMap.ofList
  rw [List.zipIdx_append,List.foldl_append]
  simp

theorem nodeIdToIndex_get {id : String} {i : ℕ} (found : (nodeIdToIndex nodeIds).get id = some i) :
    nodeIds[i]? = some id := by
  induction nodeIds using List.reverseRecOn with
  | nil => cases found
  | append_singleton ids last ih =>
      rw [nodeIdToIndex_snoc,OrderedMap.get_set] at found
      split at found
      · rename_i same
        cases found
        rw [same,List.getElem?_concat_length]
      · have earlier := ih found
        obtain ⟨inside,_⟩ := List.getElem?_eq_some_iff.mp earlier
        rw [List.getElem?_append_left inside]
        exact earlier

theorem nodeIdToIndex_has (id : String) : (nodeIdToIndex nodeIds).has id = true ↔ id ∈ nodeIds := by
  induction nodeIds using List.reverseRecOn with
  | nil => exact ⟨fun found => (nomatch found),nofun⟩
  | append_singleton ids last ih =>
      rw [nodeIdToIndex_snoc,OrderedMap.has_set,Bool.or_eq_true,decide_eq_true_iff,ih,List.mem_append,
        List.mem_singleton]
      exact or_comm

def endsOf (nodeIds : List String) (edgeIndex : List ℕ × List ℕ) : List (Option String × Option String) :=
  (edgeIndex.1.zip edgeIndex.2).map (fun edge => (nodeIds[edge.1]?,nodeIds[edge.2]?))

theorem pushEdge_ends (record : EdgeRecord) (pushed : List ℕ × List ℕ) (even : pushed.1.length = pushed.2.length) :
    (pushEdge (nodeIdToIndex nodeIds) pushed record).1.length = (pushEdge (nodeIdToIndex nodeIds) pushed record).2.length ∧
      endsOf nodeIds (pushEdge (nodeIdToIndex nodeIds) pushed record) =
        endsOf nodeIds pushed ++ (if record.fromId ∈ nodeIds ∧ record.toId ∈ nodeIds
          then [(some record.fromId,some record.toId)] else []) := by
  unfold pushEdge
  cases one : (nodeIdToIndex nodeIds).get record.fromId with
  | none =>
      have absent : record.fromId ∉ nodeIds := fun member => by
        have present := (nodeIdToIndex_has record.fromId).mpr member
        rw [OrderedMap.has_of_get_none one] at present
        cases present
      rw [if_neg (fun both => absent both.1),List.append_nil]
      exact ⟨even,rfl⟩
  | some i =>
      cases two : (nodeIdToIndex nodeIds).get record.toId with
      | none =>
          have absent : record.toId ∉ nodeIds := fun member => by
            have present := (nodeIdToIndex_has record.toId).mpr member
            rw [OrderedMap.has_of_get_none two] at present
            cases present
          rw [if_neg (fun both => absent both.2),List.append_nil]
          exact ⟨even,rfl⟩
      | some j =>
          have here := (nodeIdToIndex_has record.fromId).mp (OrderedMap.has_of_get one)
          have there := (nodeIdToIndex_has record.toId).mp (OrderedMap.has_of_get two)
          rw [if_pos ⟨here,there⟩]
          refine ⟨by simp [even],?_⟩
          unfold endsOf
          rw [List.zip_append even,List.map_append]
          simp [nodeIdToIndex_get one,nodeIdToIndex_get two]

theorem edges_ends (nodeIds : List String) (edges : List EdgeRecord) :
    (edges.foldl (pushEdge (nodeIdToIndex nodeIds)) ([],[])).1.length =
        (edges.foldl (pushEdge (nodeIdToIndex nodeIds)) ([],[])).2.length ∧
      endsOf nodeIds (edges.foldl (pushEdge (nodeIdToIndex nodeIds)) ([],[])) =
        (edges.filter (fun edge => decide (edge.fromId ∈ nodeIds ∧ edge.toId ∈ nodeIds))).map
          (fun edge => (some edge.fromId,some edge.toId)) := by
  induction edges using List.reverseRecOn with
  | nil => exact ⟨rfl,rfl⟩
  | append_singleton edges edge ih =>
      obtain ⟨even,ends⟩ := ih
      obtain ⟨even',ends'⟩ := pushEdge_ends edge _ even
      rw [List.foldl_concat]
      refine ⟨even',ends'.trans ?_⟩
      rw [ends,List.filter_append,List.map_append]
      congr 1
      by_cases known : edge.fromId ∈ nodeIds ∧ edge.toId ∈ nodeIds
      · rw [if_pos known]
        simp [known]
      · rw [if_neg known]
        simp [known]

end Edges

section Shares

theorem share_le {n : ℕ} {share : ℚ} (a : ℕ) (nonneg : 0 ≤ share) (below : share ≤ a / 16) (small : a * n < 2 ^ 53)
    (part : a < 2 ^ 53) : 16 * ⌊toDouble (n * toDouble share)⌋.toNat ≤ a * n := by
  have grid : toDouble ((a : ℚ) / 16) = a / 16 := toDouble_dyadic a 4 part (by norm_num) (by ring)
  have rounded : toDouble share ≤ a / 16 := grid ▸ toDouble_mono nonneg below
  have positive : 0 ≤ toDouble share := toDouble_nonneg nonneg
  have product : (n : ℚ) * toDouble share ≤ (a * n : ℕ) / 16 := by
    push_cast
    have := mul_le_mul_of_nonneg_left rounded (Nat.cast_nonneg (α:=ℚ) n)
    linarith
  have grid' : toDouble (((a * n : ℕ) : ℚ) / 16) = (a * n : ℕ) / 16 :=
    toDouble_dyadic (a * n) 4 small (by norm_num) (by ring)
  have most : toDouble (n * toDouble share) ≤ (a * n : ℕ) / 16 :=
    grid' ▸ toDouble_mono (mul_nonneg (Nat.cast_nonneg n) positive) product
  have floor : (⌊toDouble (n * toDouble share)⌋ : ℚ) ≤ (a * n : ℕ) / 16 := (Int.floor_le _).trans most
  have least : 0 ≤ ⌊toDouble (n * toDouble share)⌋ :=
    Int.floor_nonneg.mpr (toDouble_nonneg (mul_nonneg (Nat.cast_nonneg n) positive))
  have whole : (16 * ⌊toDouble (n * toDouble share)⌋ : ℤ) ≤ (a * n : ℕ) := by
    have : (16 * ⌊toDouble (n * toDouble share)⌋ : ℚ) ≤ (a * n : ℕ) := by linarith
    exact_mod_cast this
  omega

theorem counts_fit {n : ℕ} (fits : n < 2 ^ 32) : trainCount n + valCount n ≤ n := by
  have train : 16 * ⌊toDouble (n * toDouble (7/10))⌋.toNat ≤ 12 * n :=
    share_le 12 (by norm_num) (by norm_num) (by omega) (by norm_num)
  have val : 16 * ⌊toDouble (n * toDouble (15/100))⌋.toNat ≤ 3 * n :=
    share_le 3 (by norm_num) (by norm_num) (by omega) (by norm_num)
  unfold trainCount valCount
  omega

end Shares

section Labels

theorem labels_exact (types : List (Option String)) {t : Option String} (member : t ∈ types) :
    ∃ k, (numbering types).get t = some k := by
  have numbered := numbered_numbering types
  exact Option.isSome_iff_exists.mp ((numbered.known t).mpr member)

theorem label_inj (types : List (Option String)) {one two : Option String} (first : one ∈ types) (second : two ∈ types) :
    ((numbering types).get one).getD 0 = ((numbering types).get two).getD 0 ↔ one = two := by
  obtain ⟨k,found⟩ := labels_exact types first
  obtain ⟨l,found'⟩ := labels_exact types second
  rw [found,found']
  constructor
  · intro same
    have same' : k = l := same
    subst same'
    exact (numbered_numbering types).apart one two k found found'
  · intro same
    subst same
    rw [found] at found'
    cases found'
    rfl

end Labels

-- Whatever the graph holds and however the nodes are shuffled.
theorem export_describes (nodes : List NodeRecord) (edges : List EdgeRecord) (shuffle : ∀ n, Shuffle n)
    (some' : nodes ≠ []) (fits : nodes.length < 2 ^ 32) :
    Describes nodes edges (exportGraph true (some nodes) (some edges) shuffle) := by
  have filled : ¬ nodes.length = 0 := fun none => some' (List.length_eq_zero_iff.mp none)
  have arranged := (shuffle nodes.length).arranged
  have length : (shuffle nodes.length).order.length = nodes.length := by
    rw [arranged.length_eq,List.length_range]
  have once : (shuffle nodes.length).order.Nodup := arranged.nodup_iff.mpr List.nodup_range
  have below : ∀ i ∈ (shuffle nodes.length).order, i < nodes.length :=
    fun i member => List.mem_range.mp (arranged.mem_iff.mp member)
  have room := counts_fit fits
  have numbered := numbered_numbering (nodes.map NodeRecord.nodeType)
  rw [exportGraph,if_pos rfl]
  dsimp only
  rw [if_neg filled]
  obtain ⟨even,ends⟩ := edges_ends (nodes.map NodeRecord.elementId) edges
  refine ⟨⟨rfl,rfl⟩,⟨even,ends⟩,⟨by simp,?_⟩,?_,?_,?_⟩
  · intro i j one two
    dsimp only at one two ⊢
    simp only [List.length_map] at one two
    rw [List.getElem?_eq_getElem (by simpa using one),List.getElem?_eq_getElem (by simpa using two),Option.some_inj]
    simp only [List.getElem_map]
    exact label_inj _ (List.mem_map_of_mem (List.getElem_mem one)) (List.mem_map_of_mem (List.getElem_mem two))
  · intro label member smaller less
    obtain ⟨t,known,rfl⟩ := List.mem_map.mp member
    obtain ⟨k,found⟩ := labels_exact _ known
    rw [found,Option.getD_some] at less
    have inside := numbered.below t k found
    obtain ⟨other,named⟩ := numbered.onto smaller (by omega)
    refine List.mem_map.mpr ⟨other,(numbered.known other).mp (OrderedMap.has_of_get named),?_⟩
    rw [named]
    rfl
  · intro i inside
    refine ⟨_,_,_,getElem?_marked _ inside,getElem?_marked _ inside,getElem?_marked _ inside,?_⟩
    rcases pieces_partition arranged (trainCount nodes.length) (valCount nodes.length) inside with h | h | h
    · simp [h]
    · simp [h]
    · simp [h]
  · refine ⟨?_,?_,?_⟩
    · rw [count_marked (once.take) (fun i member => below i (List.mem_of_mem_take member)),List.length_take,length]
      omega
    · rw [count_marked (once.drop.take) (fun i member => below i (List.mem_of_mem_drop (List.mem_of_mem_take member))),
        List.length_take,List.length_drop,length]
      omega
    · rw [count_marked once.drop (fun i member => below i (List.mem_of_mem_drop member)),List.length_drop,length]
      omega

def twoUsers : List NodeRecord :=
  [⟨"4:a",some "User",.missing,.missing,.object,.missing,.missing,.missing,.missing⟩,
    ⟨"4:b",some "User",.number (.finite 1),.text "0.5x",.missing,.missing,.flag true,.missing,.missing⟩]

theorem export_describes_two :
    Describes twoUsers [⟨"4:a","4:b"⟩,⟨"4:b","4:c"⟩]
      (exportGraph true (some twoUsers) (some [⟨"4:a","4:b"⟩,⟨"4:b","4:c"⟩]) (fun n => ⟨List.range n,.refl _⟩)) :=
  export_describes twoUsers [⟨"4:a","4:b"⟩,⟨"4:b","4:c"⟩] (fun n => ⟨List.range n,.refl _⟩) (by simp [twoUsers])
    (by simp [twoUsers])

end PhantomFlow.Graph
